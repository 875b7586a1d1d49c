import TenantOverlay.Proofs.Cluster.Memory

/-!
# Tables that differ in some objects

Two tables are `Alike` if they hand out the same versions and hold related objects at the same places. If
related objects have the same metadata, requests do not tell such tables apart: they are carried out or
refused by both, and leave them alike (`Alike.answer`). So does the creation of two objects that are
related once they are stored (`Alike.create`).
-/

namespace TenantOverlay.ObjectTable

variable {Body : Type} {Q : ObjectKey → Manifest Body → Manifest Body → Prop} {t t' : ObjectTable Body}
  {ns : Option String} {name : String} {o o' : Manifest Body}

/-- Two tables that hold objects related by `Q` at the same places. -/
structure Alike (Q : ObjectKey → Manifest Body → Manifest Body → Prop) (t t' : ObjectTable Body) : Prop where
  nextVersion : t.nextVersion = t'.nextVersion
  objects (key : ObjectKey) : Option.Rel (Q key) (t.objects.get? key) (t'.objects.get? key)

lemma Alike.mono {Q' : ObjectKey → Manifest Body → Manifest Body → Prop} (h : Alike Q t t')
    (imp : ∀ key o o', Q key o o' → Q' key o o') : Alike Q' t t' where
  nextVersion := h.nextVersion
  objects key := by
    have related := h.objects key
    revert related
    generalize t.objects.get? key = x
    generalize t'.objects.get? key = y
    intro related
    cases related with
    | none => exact .none
    | some related => exact .some (imp key _ _ related)

/-- What is found at a place: nothing in either table, or related objects. -/
lemma Alike.get?_cases (h : Alike Q t t') (ns : Option String) (name : String) :
    (t.get? ns name = none ∧ t'.get? ns name = none) ∨
      ∃ o o', t.get? ns name = some o ∧ t'.get? ns name = some o' ∧ Q (.of ns name) o o' := by
  have related : Option.Rel (Q (.of ns name)) (t.get? ns name) (t'.get? ns name) := h.objects _
  revert related
  generalize t.get? ns name = x
  generalize t'.get? ns name = y
  intro related
  cases related with
  | none => exact .inl ⟨rfl, rfl⟩
  | some related => exact .inr ⟨_, _, rfl, rfl, related⟩

lemma Alike.store (h : Alike Q t t') (related : Q (.of ns name) (t.stamped ns o) (t'.stamped ns o')) :
    Alike Q (t.store ns name o) (t'.store ns name o') where
  nextVersion := congrArg (· + 1) h.nextVersion
  objects key := by
    rw [get?_store, get?_store]
    split
    · subst key
      exact .some related
    · exact h.objects key

/-- The creation of two objects of one name is refused by both tables, for the same reason, or made by
both. -/
lemma Alike.create (h : Alike Q t t') (ns : Option String) (named : o.metadata.name = o'.metadata.name)
    (related : ∀ name, o.metadata.name = some name → t.get? ns name = none →
      Q (.of ns name) (t.stamped ns o) (t'.stamped ns o')) :
    (t.create ns o).1.map (fun _ => ()) = (t'.create ns o').1.map (fun _ => ()) ∧
      Alike Q (t.create ns o).2 (t'.create ns o').2 := by
  unfold ObjectTable.create
  rw [← named]
  cases given : o.metadata.name with
  | none => exact ⟨rfl, h⟩
  | some name =>
    dsimp only
    obtain ⟨left, right⟩ | ⟨_, _, left, right, -⟩ := h.get?_cases ns name
    · rw [left, right]
      exact ⟨rfl, h.store (related name given left)⟩
    · rw [left, right]
      exact ⟨rfl, h⟩

lemma Alike.stamped (h : Alike Q t t') : t.stamped ns o = t'.stamped ns o := by
  unfold ObjectTable.stamped
  rw [h.nextVersion]

variable (refl : ∀ key o, Q key o o) (metadata : ∀ key o o', Q key o o' → o.metadata = o'.metadata)

include refl metadata in
lemma Alike.replace (h : Alike Q t t') (ns : Option String) (o : Manifest Body) :
    Alike Q (t.replace ns o).2 (t'.replace ns o).2 := by
  unfold ObjectTable.replace
  cases o.metadata.name with
  | none => exact h
  | some name =>
    dsimp only
    obtain ⟨left, right⟩ | ⟨v, v', left, right, related⟩ := h.get?_cases ns name
    · rw [left, right]
      exact h
    · rw [left, right]
      dsimp only
      rw [metadata _ v v' related]
      split
      · exact h
      · refine h.store ?_
        rw [h.stamped]
        exact refl _ _

lemma Alike.delete (h : Alike Q t t') (ns : Option String) (name : String) :
    Alike Q (t.delete ns name).2 (t'.delete ns name).2 := by
  unfold ObjectTable.delete
  obtain ⟨left, right⟩ | ⟨_, _, left, right, -⟩ := h.get?_cases ns name
  · rw [left, right]
    exact h
  · rw [left, right]
    refine ⟨h.nextVersion, fun key => ?_⟩
    dsimp only
    rw [SortedMap.get?_erase, SortedMap.get?_erase]
    split
    · exact .none
    · exact h.objects key

include refl metadata in
/-- Requests leave tables alike. -/
theorem Alike.answer (h : Alike Q t t') (r : ObjectRequest Body) : Alike Q (t.answer r).2 (t'.answer r).2 := by
  cases r with
  | get | list => exact h
  | create ns o =>
    refine (h.create ns rfl fun _ _ _ => ?_).2
    rw [h.stamped]
    exact refl _ _
  | replace ns o => exact h.replace refl metadata ns o
  | delete ns name => exact h.delete ns name

end TenantOverlay.ObjectTable
