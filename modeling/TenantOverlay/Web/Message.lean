import TenantOverlay.Program.Basic
import TenantOverlay.Web.Url

/-!
# Messages over HTTP

A message goes to a URL, and either is answered or meets one of the ways in which a connection can
fail.
-/

namespace TenantOverlay.Web

inductive Method where
  | get
  | post
  | put
  | delete
  deriving DecidableEq, Repr

def Method.name : Method → String
  | get => "GET"
  | post => "POST"
  | put => "PUT"
  | delete => "DELETE"

/-- A message with an optional form as its body. -/
structure Message where
  method : Method
  url : Url
  form : Option String := none
  deriving DecidableEq, Repr

/-- What becomes of a message. -/
inductive Outcome where
  /-- No connection could be made, or there was no answer in time. -/
  | unreachable
  /-- The connection broke before an answer came. -/
  | broken
  /-- An answer, whose body may be unreadable. -/
  | answer (status : Nat) (body : Option String)
  deriving DecidableEq, Repr

/-- A network that messages are sent to. -/
def network : Signature where
  Call := Message
  Answer _ := Outcome

/-- Sends a message. -/
def send (m : Message) : Program network Outcome := Program.ask (S := network) m

/-- A status that reports success. -/
def isSuccess (status : Nat) : Bool := 200 ≤ status && status < 300

/-- A status that reports a mistake of the sender or of the receiver. -/
def isFailure (status : Nat) : Bool := 400 ≤ status && status < 600

end TenantOverlay.Web
