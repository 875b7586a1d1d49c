import TenantOverlay.NetworkEntry
import TenantOverlay.Proofs.Json.RoundTrip

/-!
# Entries that were written

`NetworkEntry.parse_render`: the stored text of an entry is read back as that entry, so that no two entries have
the same text (`render_injective`). What the text looks like is said by `render_eq`.
-/

namespace TenantOverlay

lemma Json.uint32?_toNat (n : UInt32) : Json.uint32? (.int n.toNat) = some n := by
  have fits : n.toNat < UInt32.size := n.toNat_lt
  show (if n.toNat < UInt32.size then some n.toNat else none).map UInt32.ofNat = some n
  rw [if_pos fits, Option.map_some, UInt32.ofNat_toNat]

lemma Json.fits_uint32 (n : UInt32) : Fits (n.toNat : Int) := by
  have := n.toNat_lt
  have size : UInt64.size = 2 ^ 64 := rfl
  have bound : Text.int64Bound = 2 ^ 63 := rfl
  unfold Fits
  omega

lemma Backend.ofJson?_toJson (b : Backend) : ofJson? b.toJson = some b := by
  show (do
    let type ← some b.type
    let vni ← Json.uint32? (.int b.vni.toNat)
    return (⟨type, vni⟩ : Backend)) = some b
  rw [Json.uint32?_toNat]
  rfl

namespace NetworkEntry

lemma ofJson?_toJson (e : NetworkEntry) : ofJson? e.toJson = some e := by
  show (do
    let network ← some e.network
    let subnetLength ← Json.uint32? (.int e.subnetLength.toNat)
    let backend ← Backend.ofJson? e.backend.toJson
    return (⟨network, subnetLength, backend⟩ : NetworkEntry)) = some e
  rw [Json.uint32?_toNat, Backend.ofJson?_toJson]
  rfl

lemma plain_toJson (e : NetworkEntry) : e.toJson.Plain :=
  ⟨trivial, Json.fits_uint32 _, ⟨trivial, Json.fits_uint32 _, trivial⟩, trivial⟩

/-- The text of an entry is read back. -/
theorem parse_render (e : NetworkEntry) : parse e.render = .ok e := by
  unfold parse render
  rw [Json.parse?_toText e.plain_toJson, Option.bind_some, ofJson?_toJson]

lemma render_injective {e e' : NetworkEntry} (h : e.render = e'.render) : e = e' := by
  have read := parse_render e'
  rw [← h, parse_render] at read
  exact Except.ok.inj read

lemma sameNetwork_self (e : NetworkEntry) : e.sameNetwork e = true := by
  simp [sameNetwork]

/-- A number of 32 bits is written in its digits. -/
lemma intText_uint32 (n : UInt32) : String.ofList (Json.intText n.toNat) = toString n.toNat := by
  have natural : ¬ (n.toNat : Int) < 0 := by omega
  unfold Json.intText
  rw [if_neg natural]
  exact Nat.repr_eq_ofList_toDigits.symm

/-- The fields stand in an object in their order, without blanks. -/
theorem render_eq (e : NetworkEntry) : e.render =
    "\x7b\"Network\":" ++ String.ofList (Json.quoted e.network) ++
      ",\"SubnetLen\":" ++ toString e.subnetLength.toNat ++
      ",\"Backend\":\x7b\"Type\":" ++ String.ofList (Json.quoted e.backend.type) ++
      ",\"VNI\":" ++ toString e.backend.vni.toNat ++ "\x7d\x7d" := by
  rw [← intText_uint32, ← intText_uint32]
  apply String.toList_inj.1
  unfold render Json.toText toJson Backend.toJson
  simp only [String.toList_append, String.toList_ofList, Json.compact, Json.compactMembers, Json.scalar,
    List.cons_append, List.append_assoc]
  rfl

example : (vxlan "10.1.0.0/16" 24 1).render = "\x7b\"Network\":\"10.1.0.0/16\"," ++
    "\"SubnetLen\":24,\"Backend\":\x7b\"Type\":\"vxlan\",\"VNI\":1\x7d\x7d" := by
  decide +kernel

/-- Nothing is lost in the text of an entry: it is read back as that entry, it is no other entry's text, and what
is read is for the same network as what was written. -/
theorem entry_round_trip (e : NetworkEntry) : parse e.render = .ok e ∧
    (∀ e', e.render = e'.render ↔ e = e') ∧
      ∀ e', parse e.render = .ok e' → e'.sameNetwork e = true := by
  refine ⟨e.parse_render, fun e' => ⟨render_injective, congrArg render⟩, fun e' read => ?_⟩
  obtain rfl : e = e' := Except.ok.inj (e.parse_render.symm.trans read)
  exact e.sameNetwork_self

/-- Also when a text has to be escaped, and with the least and the greatest numbers. -/
theorem entry_round_trip_escaped :
    let e : NetworkEntry := ⟨"10.1.0.0/16\"\\\n\t", 4294967295, ⟨"\r\"vxlan\"", 0⟩⟩
    parse e.render = .ok e ∧ e.sameNetwork e = true := by
  intro e
  obtain ⟨read, -, same⟩ := entry_round_trip e
  exact ⟨read, same e read⟩

end NetworkEntry

end TenantOverlay
