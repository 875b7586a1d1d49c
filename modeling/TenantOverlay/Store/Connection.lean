import TenantOverlay.Config.Basic
import TenantOverlay.Store.Client
import TenantOverlay.Web.Pem

/-!
# Connecting to the store

`StoreClient.connect` checks the endpoints and the certificates with which a client is set up.
-/

namespace TenantOverlay

open Web (Pem.Section Url)

namespace StoreClient

/-- The text of a certificate file. -/
def certificateText (read : String → Option String) (path : String) : Result String :=
  match read path with
  | some text => .ok text
  | none => .error (.invalidConfig (.unreadableCertificate path))

/-- The certificates and the key with which a client shows who it is: at least one certificate, at
least one private key, and nothing else. Of several keys the last counts. -/
def identity? (text : String) : Option (List Pem.Section × Pem.Section) := do
  let sections ← Web.Pem.sections? text
  if sections.any fun s => !s.isCertificate && !s.isPrivateKey then none
  let key ← (sections.filter (·.isPrivateKey)).getLast?
  match sections.filter (·.isCertificate) with
  | [] => none
  | certificates => return (certificates, key)

/-- Whether the certificates of an authority can be used. -/
def usableAuthority (text : String) : Bool :=
  match Web.Pem.sections? text with
  | none => false
  | some sections => sections.all fun s => !s.isCertificate || Web.Pem.isSequence s.bytes

/-- Whether a client's certificates and key can be used. -/
def usableIdentity (identity : List Pem.Section × Pem.Section) : Bool :=
  (identity.1.take 1).all (fun s => Web.Pem.isSequence s.bytes) && Web.Pem.isSequence identity.2.bytes

/-- Checks the certificate files: the authority's is read first, then the client's certificate and
key, which together are its identity. -/
def checkFiles (files : TlsFiles) (read : String → Option String) : Result Unit := do
  let authority ← files.authorityFile.mapM (certificateText read)
  let certificate ← certificateText read files.certificateFile
  let key ← certificateText read files.keyFile
  match identity? (certificate ++ key) with
  | none => .error (.invalidConfig .malformedIdentity)
  | some identity =>
    Result.require (authority.all usableAuthority && usableIdentity identity) .unusableCredentials

/-- A client for endpoints that are URLs. -/
def connect (endpoints : List String) (tls : Option TlsFiles) (read : String → Option String) :
    Result StoreClient := do
  Result.require (!endpoints.isEmpty) .noStoreEndpoints
  let urls ← endpoints.mapM fun e => match Url.parse? e with
    | some u => .ok u
    | none => .error (.invalidConfig (.malformedStoreEndpoint e))
  match tls with
  | some files => checkFiles files read
  | none => .ok ()
  return ⟨urls⟩

end StoreClient

end TenantOverlay
