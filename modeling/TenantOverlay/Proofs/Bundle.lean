import Mathlib.Data.List.Basic
import TenantOverlay.Bundle
import TenantOverlay.Proofs.Version

/-!
# Lists of version bundles

A list of bundles is accepted when every bundle is valid and no two have their version written in the same way
(`Bundle.validateAll_eq_ok_iff`). Whether a bundle is newer than another goes by the numbers that its version
stands for, and a version can be written in more than one way: with blanks around it, with signs and with leading
zeros. So of two accepted bundles exactly one is newer unless they have the same version written in two ways,
which does not occur where versions are written plainly (`accepted_bundles_ordered`).
-/

namespace TenantOverlay

namespace Bundle

variable {a b : Bundle} {bundles earlier : List Bundle}

/-- The version of one bundle is later than that of another. -/
def Newer (a b : Bundle) : Prop :=
  ∃ v w, Version.parse a.version = .ok v ∧ Version.parse b.version = .ok w ∧ w < v

/-- Two bundles have the same version, written in two ways. -/
def Respells (a b : Bundle) : Prop :=
  a.version ≠ b.version ∧ ∃ v, Version.parse a.version = .ok v ∧ Version.parse b.version = .ok v

lemma validate_eq_ok_iff : b.validate = .ok () ↔
    b.name ≠ "" ∧ (∃ v, Version.parse b.version = .ok v) ∧ b.components ≠ [] := by
  simp only [validate, Result.check_bind_eq_ok_iff (r := Result.require _ _), Result.bind_eq_ok_iff,
    Result.require_eq_ok_iff, exists_and_right, bne_iff_ne, Bool.not_eq_true', List.isEmpty_eq_false_iff]

/-- A list is accepted after some bundles when every bundle is valid and no two have their version written in
the same way. -/
lemma validateAfter_eq_ok_iff : validateAfter earlier bundles = .ok () ↔
    (∀ b ∈ bundles, b.validate = .ok ()) ∧ (∀ a ∈ earlier, ∀ b ∈ bundles, a.version ≠ b.version) ∧
      bundles.Pairwise fun a b => a.version ≠ b.version := by
  induction bundles generalizing earlier with
  | nil => exact iff_of_true rfl ⟨List.forall_mem_nil _, fun _ _ => List.forall_mem_nil _, .nil⟩
  | cons b r ih =>
    have before : (∀ a ∈ earlier ++ [b], ∀ c ∈ r, a.version ≠ c.version) ↔
        (∀ a ∈ earlier, ∀ c ∈ r, a.version ≠ c.version) ∧ ∀ c ∈ r, b.version ≠ c.version := by
      rw [List.forall_mem_append, List.forall_mem_singleton]
    simp only [validateAfter, Result.check_bind_eq_ok_iff, Result.require_eq_ok_iff, ih, before,
      Bool.not_eq_true', List.any_eq_false, beq_iff_eq, List.forall_mem_cons, List.pairwise_cons, forall_and]
    constructor
    · rintro ⟨valid, fresh, others, ⟨distinct, new⟩, apart⟩
      exact ⟨⟨valid, others⟩, ⟨fresh, distinct⟩, new, apart⟩
    · rintro ⟨⟨valid, others⟩, ⟨fresh, distinct⟩, new, apart⟩
      exact ⟨valid, fresh, others, ⟨distinct, new⟩, apart⟩

/-- A list is accepted when every bundle is valid and no two have their version written in the same way. -/
theorem validateAll_eq_ok_iff : validateAll bundles = .ok () ↔
    (∀ b ∈ bundles, b.validate = .ok ()) ∧ bundles.Pairwise fun a b => a.version ≠ b.version := by
  rw [validateAll, validateAfter_eq_ok_iff]
  exact and_congr_right fun _ => and_iff_right nofun

section Pair

variable {v w : Version}

lemma newer_iff (read : Version.parse a.version = .ok v) (read' : Version.parse b.version = .ok w) :
    a.Newer b ↔ w < v := by
  unfold Newer
  simp only [read, read', Except.ok.injEq, exists_and_left, exists_eq_left']

lemma respells_iff (read : Version.parse a.version = .ok v) (read' : Version.parse b.version = .ok w) :
    a.Respells b ↔ a.version ≠ b.version ∧ v = w := by
  unfold Respells
  simp only [read, read', Except.ok.injEq, exists_eq_left', eq_comm]

/-- Of two valid bundles whose versions are written differently exactly one is newer, unless they have the same
version. -/
lemma xor_newer_iff (valid : a.validate = .ok ()) (valid' : b.validate = .ok ())
    (distinct : a.version ≠ b.version) : Xor (a.Newer b) (b.Newer a) ↔ ¬ a.Respells b := by
  obtain ⟨-, ⟨v, read⟩, -⟩ := validate_eq_ok_iff.1 valid
  obtain ⟨-, ⟨w, read'⟩, -⟩ := validate_eq_ok_iff.1 valid'
  rw [newer_iff read read', newer_iff read' read, respells_iff read read', Version.xor_lt_iff, ne_comm,
    and_iff_right distinct]

lemma not_respells_of_isPlain (plain : Version.IsPlain a.version) (plain' : Version.IsPlain b.version) :
    ¬ a.Respells b := by
  rintro ⟨distinct, v, read, read'⟩
  exact distinct ((plain.eq_render read).trans (plain'.eq_render read').symm)

end Pair

/-- The versions of the operator are those of its bundles. -/
lemma exists_shipped_iff {version : String} :
    (∃ b ∈ shipped, b.version = version) ↔ version = firstVersion ∨ version = secondVersion := by
  unfold shipped
  rw [List.exists_mem_cons_iff, List.exists_mem_cons_iff]
  exact or_congr eq_comm ((or_iff_left (by simp)).trans eq_comm)

end Bundle

/-- The versions in an accepted list of bundles can be read, and of any two of the bundles exactly one is newer
unless they have the same version written in two ways. If every version is written plainly, exactly one is newer. A
list that is not accepted has a bundle that is not valid, or two whose versions are written in the same way. -/
theorem accepted_bundles_ordered (bundles : List Bundle) :
    (Bundle.validateAll bundles = .ok () →
      (∀ b ∈ bundles, ∃ v, Version.parse b.version = .ok v) ∧
      bundles.Pairwise (fun a b => Xor (a.Newer b) (b.Newer a) ↔ ¬ a.Respells b) ∧
      ((∀ b ∈ bundles, Version.IsPlain b.version) → bundles.Pairwise fun a b => Xor (a.Newer b) (b.Newer a))) ∧
    (Bundle.validateAll bundles ≠ .ok () →
      (∃ b ∈ bundles, b.validate ≠ .ok ()) ∨ ∃ a b, [a, b].Sublist bundles ∧ a.version = b.version) := by
  rw [ne_eq, Bundle.validateAll_eq_ok_iff]
  refine ⟨fun ⟨valid, distinct⟩ => ?_, fun rejected => ?_⟩
  · have ordered : bundles.Pairwise fun a b => Xor (a.Newer b) (b.Newer a) ↔ ¬ a.Respells b :=
      distinct.imp_of_mem fun m m' => Bundle.xor_newer_iff (valid _ m) (valid _ m')
    refine ⟨fun b m => (Bundle.validate_eq_ok_iff.1 (valid b m)).2.1, ordered, fun plain => ?_⟩
    exact ordered.imp_of_mem fun m m' h => h.2 (Bundle.not_respells_of_isPlain (plain _ m) (plain _ m'))
  · rw [not_and_or] at rejected
    refine rejected.imp (fun invalid => ?_) fun repeated => ?_
    · simpa only [not_forall, exists_prop] using invalid
    · simpa only [List.pairwise_iff_forall_sublist, not_forall, not_not, exists_prop] using repeated

/-- The shipped bundles are accepted, and their versions are written plainly. -/
theorem accepted_bundles_ordered_shipped :
    Bundle.validateAll Bundle.shipped = .ok () ∧ (∀ b ∈ Bundle.shipped, Version.IsPlain b.version) ∧
      Bundle.shipped.Pairwise fun a b => Xor (a.Newer b) (b.Newer a) := by
  have accepted : Bundle.validateAll Bundle.shipped = .ok () := by decide +kernel
  have plain : ∀ b ∈ Bundle.shipped, Version.IsPlain b.version := by
    intro b m
    rcases Bundle.exists_shipped_iff.1 ⟨b, m, rfl⟩ with first | second
    · exact ⟨⟨0, 1, 0⟩, first.trans (by decide +kernel)⟩
    · exact ⟨⟨0, 2, 0⟩, second.trans (by decide +kernel)⟩
  exact ⟨accepted, plain, ((accepted_bundles_ordered Bundle.shipped).1 accepted).2.2 plain⟩

/-- A bundle of a version. -/
def Bundle.sample (version : String) : Bundle where
  name := "flannel-operator"
  version := version
  components := [⟨flannelComponent, "0.9.0"⟩]
  changes := []

/-- A bundle is accepted beside a copy of it whose version has a zero before it. Both have the same version,
so that neither is newer. -/
theorem respelled_bundle_accepted :
    Bundle.validateAll [.sample "0.1.0", .sample "00.1.0"] = .ok () ∧
      Version.parse "0.1.0" = .ok ⟨0, 1, 0⟩ ∧ Version.parse "00.1.0" = .ok ⟨0, 1, 0⟩ ∧
      ¬ (Bundle.sample "0.1.0").Newer (.sample "00.1.0") ∧ ¬ (Bundle.sample "00.1.0").Newer (.sample "0.1.0") := by
  have read : Version.parse (Bundle.sample "0.1.0").version = .ok ⟨0, 1, 0⟩ := by decide +kernel
  have read' : Version.parse (Bundle.sample "00.1.0").version = .ok ⟨0, 1, 0⟩ := by decide +kernel
  refine ⟨by decide +kernel, read, read', ?_, ?_⟩
  · rw [Bundle.newer_iff read read']
    decide
  · rw [Bundle.newer_iff read' read]
    decide

end TenantOverlay
