import Mathlib.Data.List.Basic
import TenantOverlay.Json.Basic

/-!
# Members inside a value

A path names a member of an object, a member of that member, and so on. `Json.at?` looks a path up and
`Json.removeAt` takes away the member at its end. What is found afterwards: nothing on the paths through that member
(`at?_removeAt_through`), the same on the paths that part from it (`at?_removeAt_apart`), and on the paths that end
above it what was there, without the member (`at?_removeAt_above`).

`Json.IsRecordOf` holds of the objects that `Json.record?` takes (`record?_iff`). It is kept when members are taken
away (`IsRecordOf.removeAt`), also of all structures inside a value at once (`EachAt.removeAt`).
-/

namespace TenantOverlay.Json

/-- The value at the end of a path. -/
def at? : List String → Json → Option Json
  | [], j => some j
  | n :: path, j => (j.get? n).bind (at? path)

/-- The value without the member at the end of a path; the value itself when there is no such member. -/
def removeAt : List String → Json → Json
  | [n], .obj members => .obj (members.filter (·.1 != n))
  | n :: m :: path, .obj members =>
    .obj (members.map fun member => if member.1 = n then (n, removeAt (m :: path) member.2) else member)
  | _, j => j

/-- Neither of two paths leads through the end of the other. -/
abbrev Apart (path path' : List String) : Prop := ¬ path <+: path' ∧ ¬ path' <+: path

/-- The value at the end of a path, as it is read. -/
def given? {α : Type} (read : Json → Option α) (path : List String) (j : Json) : Option α :=
  (j.at? path).bind read

/-- The value at the end of a path, as it is read; a default when there is none. -/
def givenOr? {α : Type} (default : α) (read : Json → Option α) (path : List String) (j : Json) : Option α :=
  match j.at? path with
  | none => some default
  | some v => read v

def IsObject (j : Json) : Prop := ∃ members, j = .obj members

/-- An object in which no field of a record occurs twice. -/
def IsRecordOf (names : List String) (j : Json) : Prop :=
  ∃ members, j = .obj members ∧ ∀ n ∈ names, members.countP (fun m => m.1 == n) ≤ 1

/-- The structures inside a value: where each stands and which fields it has. -/
abbrev Structures := List (List String × List String)

/-- The structures of a value that is a member of another. -/
def under (n : String) (structures : Structures) : Structures :=
  structures.map fun part => (n :: part.1, part.2)

/-- A property of each structure that is there. -/
def EachAt (P : List String → Json → Prop) (structures : Structures) (j : Json) : Prop :=
  ∀ part ∈ structures, ∀ v, j.at? part.1 = some v → P part.2 v

/-- Each structure is written as an object. -/
abbrev ObjectsAt : Structures → Json → Prop := EachAt fun _ => IsObject

/-- Each structure is an object from which its fields can be read. -/
abbrev RecordsAt : Structures → Json → Prop := EachAt IsRecordOf

section Members

variable {j : Json} {n m : String} {path : List String}

lemma member?_filter (members : List (String × Json)) :
    member? m (members.filter (·.1 != n)) = if m = n then none else member? m members := by
  induction members with
  | nil => simp [member?]
  | cons member rest ih =>
    unfold member? at *
    by_cases taken : member.1 = n <;> by_cases found : member.1 = m <;> grind

lemma member?_map (f : Json → Json) (members : List (String × Json)) :
    member? m (members.map fun member => if member.1 = n then (n, f member.2) else member) =
      if m = n then (member? n members).map f else member? m members := by
  induction members with
  | nil => simp [member?]
  | cons member rest ih =>
    unfold member? at *
    by_cases changed : member.1 = n <;> by_cases found : member.1 = m <;> grind

@[simp] lemma get?_removeAt_last : (j.removeAt [n]).get? n = none := by
  cases j with
  | obj members => exact (member?_filter members).trans (if_pos rfl)
  | _ => rfl

@[simp] lemma get?_removeAt_inner (inner : path ≠ []) :
    (j.removeAt (n :: path)).get? n = (j.get? n).map (removeAt path) := by
  obtain ⟨l, path, rfl⟩ := List.exists_cons_of_ne_nil inner
  cases j with
  | obj members => exact (member?_map _ members).trans (if_pos rfl)
  | _ => rfl

lemma get?_removeAt_other (other : m ≠ n) : (j.removeAt (n :: path)).get? m = j.get? m := by
  cases j with
  | obj members =>
    cases path with
    | nil => exact (member?_filter members).trans (if_neg other)
    | cons => exact (member?_map _ members).trans (if_neg other)
  | _ => cases path <;> rfl

end Members

section Paths

variable {j : Json} {path path' : List String}

lemma at?_append : j.at? (path ++ path') = (j.at? path).bind (at? path') := by
  induction path generalizing j with
  | nil => rfl
  | cons n path ih =>
    show (j.get? n).bind (at? (path ++ path')) = ((j.get? n).bind (at? path)).bind (at? path')
    rw [Option.bind_assoc]
    exact congrArg _ (funext fun v => ih)

lemma at?_removeAt_through (through : path <+: path') (ne : path ≠ []) : (j.removeAt path).at? path' = none := by
  induction path generalizing j path' with
  | nil => exact absurd rfl ne
  | cons n path ih =>
    obtain ⟨rest, rfl⟩ := through
    show ((j.removeAt (n :: path)).get? n).bind (at? (path ++ rest)) = none
    cases path with
    | nil => rw [get?_removeAt_last, Option.bind_none]
    | cons l path =>
      rw [get?_removeAt_inner (List.cons_ne_nil _ _), Option.bind_map]
      exact Option.bind_eq_none_iff.2 fun v _ => ih (List.prefix_append _ _) (List.cons_ne_nil _ _)

lemma at?_removeAt_apart (apart : Apart path path') : (j.removeAt path).at? path' = j.at? path' := by
  induction path generalizing j path' with
  | nil => exact absurd List.nil_prefix apart.1
  | cons n path ih =>
    cases path' with
    | nil => exact absurd List.nil_prefix apart.2
    | cons m path' =>
      show ((j.removeAt (n :: path)).get? m).bind (at? path') = (j.get? m).bind (at? path')
      by_cases same : m = n
      · subst same
        have apart : Apart path path' := by simpa [Apart, List.cons_prefix_cons] using apart
        have inner : path ≠ [] := fun none => apart.1 (none ▸ List.nil_prefix)
        rw [get?_removeAt_inner inner, Option.bind_map]
        exact congrArg _ (funext fun v => ih apart)
      · rw [get?_removeAt_other same]

lemma at?_removeAt_above (ne : path ≠ []) :
    (j.removeAt (path' ++ path)).at? path' = (j.at? path').map (removeAt path) := by
  induction path' generalizing j with
  | nil => rfl
  | cons n path' ih =>
    have inner : path' ++ path ≠ [] := List.append_ne_nil_of_right_ne_nil _ ne
    show ((j.removeAt (n :: (path' ++ path))).get? n).bind (at? path') =
      ((j.get? n).bind (at? path')).map (removeAt path)
    rw [get?_removeAt_inner inner, Option.bind_map, Option.map_bind]
    exact congrArg _ (funext fun v => ih)

/-- What is found after a member has been taken away was there before, perhaps with one member more. -/
lemma of_at?_removeAt {v : Json} (ne : path ≠ []) (found : (j.removeAt path).at? path' = some v) :
    ∃ u, j.at? path' = some u ∧ (v = u ∨ ∃ rest, v = u.removeAt rest) := by
  by_cases through : path <+: path'
  · rw [at?_removeAt_through through ne] at found
    cases found
  · by_cases above : path' <+: path
    · obtain ⟨rest, rfl⟩ := above
      have more : rest ≠ [] := fun none => through (by simp [none])
      rw [at?_removeAt_above more, Option.map_eq_some_iff] at found
      obtain ⟨u, there, rfl⟩ := found
      exact ⟨u, there, .inr ⟨rest, rfl⟩⟩
    · exact ⟨v, (at?_removeAt_apart ⟨through, above⟩).symm.trans found, .inl rfl⟩

end Paths

section Readings

variable {α : Type} {default a : α} {read : Json → Option α} {j v : Json} {n : String} {path path' : List String}

lemma at?_cons (there : j.get? n = some v) : j.at? (n :: path) = v.at? path := by
  rw [at?, there, Option.bind_some]

lemma at?_cons_none (missing : j.get? n = none) : j.at? (n :: path) = none := by
  rw [at?, missing, Option.bind_none]

lemma at?_singleton : j.at? [n] = j.get? n := Option.bind_fun_some _

lemma given?_cons (there : j.get? n = some v) : j.given? read (n :: path) = v.given? read path := by
  rw [given?, at?_cons there, given?]

lemma givenOr?_cons (there : j.get? n = some v) :
    j.givenOr? default read (n :: path) = v.givenOr? default read path := by
  rw [givenOr?, at?_cons there, givenOr?]

lemma givenOr?_cons_none (missing : j.get? n = none) : j.givenOr? default read (n :: path) = some default := by
  rw [givenOr?, at?_cons_none missing]

lemma required_eq : Fields.required (fun m => j.get? m) n read = j.given? read [n] := by
  rw [given?, at?_singleton, Fields.required]

lemma withDefault_eq : Fields.withDefault (fun m => j.get? m) n default read = j.givenOr? default read [n] := by
  rw [givenOr?, at?_singleton]
  rfl

lemma given?_removeAt_apart (apart : Apart path path') :
    (j.removeAt path).given? read path' = j.given? read path' := by
  rw [given?, at?_removeAt_apart apart, given?]

/-- A value that may be missing stays as it is read when a member elsewhere is taken away, and also when it goes
with the member and was the default. -/
lemma givenOr?_removeAt (ne : path ≠ []) (apart : path <+: path' ∨ Apart path path')
    (clear : path <+: path' → a = default) (h : j.givenOr? default read path' = some a) :
    (j.removeAt path).givenOr? default read path' = some a := by
  rcases apart with through | apart
  · rw [givenOr?, at?_removeAt_through through ne, clear through]
  · rw [givenOr?, at?_removeAt_apart apart, ← h, givenOr?]

lemma given?_cons_none (missing : j.get? n = none) : j.given? read (n :: path) = none := by
  rw [given?, at?_cons_none missing, Option.bind_none]

@[simp] lemma given?_nil : j.given? read [] = read j := rfl

@[simp] lemma givenOr?_nil : j.givenOr? default read [] = read j := rfl

end Readings

section Records

variable {j v : Json} {n : String} {names path : List String} {fields : Fields}
  {P : List String → Json → Prop} {S S' : Structures}

lemma IsObject.removeAt (h : j.IsObject) : (j.removeAt path).IsObject := by
  obtain ⟨members, rfl⟩ := h
  match path with
  | [] | [_] | _ :: _ :: _ => exact ⟨_, rfl⟩

lemma IsRecordOf.removeAt (h : j.IsRecordOf names) : (j.removeAt path).IsRecordOf names := by
  obtain ⟨members, rfl, once⟩ := h
  match path with
  | [] => exact ⟨members, rfl, once⟩
  | [m] =>
    exact ⟨_, rfl, fun n known => Nat.le_trans List.filter_sublist.countP_le (once n known)⟩
  | m :: l :: path =>
    refine ⟨_, rfl, fun n known => Nat.le_trans (Nat.le_of_eq ?_) (once n known)⟩
    rw [List.countP_map]
    refine List.countP_congr fun member _ => ?_
    by_cases changed : member.1 = m <;> simp [changed]

/-- An object is read as a record when no field occurs twice. Its fields are its members. -/
lemma record?_iff (h : j.IsObject) :
    j.record? names = some fields ↔ j.IsRecordOf names ∧ fields = fun n => j.get? n := by
  obtain ⟨members, rfl⟩ := h
  have once : (names.all fun n => members.countP (fun m => m.1 == n) ≤ 1) = true ↔
      (obj members).IsRecordOf names := by
    simp [IsRecordOf]
  constructor
  · intro read
    obtain ⟨all, members⟩ := Option.ite_none_right_eq_some.1 read
    exact ⟨once.1 all, (Option.some.inj members).symm⟩
  · rintro ⟨record, rfl⟩
    exact if_pos (once.2 record)

/-- What is read from the fields of an object is read from its members. -/
lemma record?_bind_iff {α : Type} {read : Fields → Option α} {a : α} (h : j.IsObject) :
    (j.record? names).bind read = some a ↔ j.IsRecordOf names ∧ read (fun n => j.get? n) = some a := by
  rw [Option.bind_eq_some_iff]
  constructor
  · rintro ⟨fields, taken, reads⟩
    obtain ⟨record, members⟩ := (record?_iff h).1 taken
    exact ⟨record, members ▸ reads⟩
  · rintro ⟨record, reads⟩
    exact ⟨_, (record?_iff h).2 ⟨record, rfl⟩, reads⟩

@[simp] lemma eachAt_here : EachAt P [([], names)] j ↔ P names j := by
  simp [EachAt, at?]

@[simp] lemma eachAt_append : EachAt P (S ++ S') j ↔ EachAt P S j ∧ EachAt P S' j := by
  simp only [EachAt, List.mem_append, or_imp, forall_and]

@[simp] lemma eachAt_under : EachAt P (under n S) j ↔ ∀ v, j.get? n = some v → EachAt P S v := by
  simp only [EachAt, under, List.forall_mem_map]
  constructor
  · intro each v there part known u found
    exact each part known u ((at?_cons there).trans found)
  · intro each part known u found
    obtain ⟨v, there, found⟩ := Option.bind_eq_some_iff.1 found
    exact each v there part known u found

section Under

variable {α : Type} {default a : α} {outer inner : Json → Option α}

/-- A structure of one field that stands in another value. -/
lemma given?_under (reads : ∀ {v}, ObjectsAt S v →
      (outer v = some a ↔ RecordsAt S v ∧ v.given? inner path = some a)) (objects : ObjectsAt (under n S) j) :
    j.given? outer [n] = some a ↔ RecordsAt (under n S) j ∧ j.given? inner (n :: path) = some a := by
  simp only [eachAt_under] at objects ⊢
  cases there : j.get? n with
  | none => simp [given?_cons_none there]
  | some v => simp [given?_cons there, reads (objects v there)]

/-- A structure of one field that may be missing, in a value where it may be missing itself. -/
lemma givenOr?_under (reads : ∀ {v}, ObjectsAt S v →
      (outer v = some a ↔ RecordsAt S v ∧ v.givenOr? default inner path = some a))
    (objects : ObjectsAt (under n S) j) :
    j.givenOr? default outer [n] = some a ↔
      RecordsAt (under n S) j ∧ j.givenOr? default inner (n :: path) = some a := by
  simp only [eachAt_under] at objects ⊢
  cases there : j.get? n with
  | none => simp [givenOr?_cons_none there]
  | some v => simp [givenOr?_cons there, reads (objects v there)]

end Under

/-- What holds of the structures of a value holds of those that are left, if taking members away keeps it. -/
lemma EachAt.removeAt (kept : ∀ {names rest v}, P names v → P names (v.removeAt rest)) (ne : path ≠ [])
    (h : EachAt P S j) : EachAt P S (j.removeAt path) := by
  intro part known v found
  obtain ⟨u, there, rfl | ⟨rest, rfl⟩⟩ := of_at?_removeAt ne found
  · exact h part known v there
  · exact kept (h part known u there)

end Records

end TenantOverlay.Json
