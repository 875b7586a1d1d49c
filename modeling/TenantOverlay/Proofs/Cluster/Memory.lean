import Mathlib.Tactic.Lemma
import TenantOverlay.Cluster.Memory

/-!
# What requests do to a cluster in memory

A request stores an object under the next version, takes one away, or changes nothing
(`ObjectTable.Moves`). It puts an object at no place but `ObjectRequest.stores?` and takes one away
from no place but `ObjectRequest.deletes?`; `ObjectTable.get?_answer` and `get?_answer_of_none` say so
by look-ups. `ObjectTable.Filed` is the invariant of the tables: every object stands under its own
namespace and name (`Filed.answer`). The rest of the module follows single requests: what is found
after a creation, a replacement or a deletion.
-/

namespace TenantOverlay

namespace ObjectRequest

variable {Body : Type} {r : ObjectRequest Body} {ns ns' : Option String} {o o' : Manifest Body}

/-- The key under which a request may put an object. -/
def stores? : ObjectRequest Body → Option ObjectKey
  | .create ns o | .replace ns o => o.metadata.name.map (ObjectKey.of ns)
  | .get .. | .list .. | .delete .. => none

/-- The key from which a request may take an object away. -/
def deletes? : ObjectRequest Body → Option ObjectKey
  | .delete ns name => some (.of ns name)
  | .get .. | .list .. | .create .. | .replace .. => none

/-- The request is to store an object in a namespace. -/
def Puts (r : ObjectRequest Body) (ns : Option String) (o : Manifest Body) : Prop :=
  r = .create ns o ∨ r = .replace ns o

lemma Puts.unique (h : r.Puts ns o) (h' : r.Puts ns' o') : ns = ns' ∧ o = o' := by
  obtain rfl | rfl := h <;> rcases h' with e | e <;> cases e <;> exact ⟨rfl, rfl⟩

end ObjectRequest

namespace ObjectTable

variable {Body : Type} {t t' : ObjectTable Body} {r : ObjectRequest Body} {ns : Option String}
  {name : String} {key : ObjectKey} {o : Manifest Body} {v : String} {v? : Option String}

lemma get?_store (o : Manifest Body) :
    (t.store ns name o).objects.get? key =
      if ObjectKey.of ns name = key then some (t.stamped ns o) else t.objects.get? key :=
  SortedMap.get?_insert _ _ _ _

lemma get?_store_of_ne (o : Manifest Body) (h : ObjectKey.of ns name ≠ key) :
    (t.store ns name o).objects.get? key = t.objects.get? key := by
  rw [get?_store, if_neg h]

/-- What a creation comes to: it is refused and changes nothing, or stores its object where there
was none. -/
lemma create_cases (t : ObjectTable Body) (ns : Option String) (o : Manifest Body) :
    (∃ e, t.create ns o = (.error e, t)) ∨
      ∃ name, o.metadata.name = some name ∧ t.get? ns name = none ∧
        t.create ns o = (.ok (t.stamped ns o), t.store ns name o) := by
  unfold create
  split
  · exact .inl ⟨_, rfl⟩
  · split
    · exact .inl ⟨_, rfl⟩
    · exact .inr ⟨_, ‹_›, ‹_›, rfl⟩

/-- After the creation of an object with a name there is the one that was there, or else the new
one. -/
lemma get?_answer_create (hn : o.metadata.name = some name) :
    (t.answer (.create ns o)).2.objects.get? (.of ns name) =
      some ((t.get? ns name).getD (t.stamped ns o)) := by
  simp only [answer, create, hn]
  cases e : t.get? ns name with
  | none => simp only [get?_store, if_true, Option.getD_none]
  | some v => exact e

/-- The creation of an object with a name is refused only because there is one. -/
lemma answer_create_cases (t : ObjectTable Body) (ns : Option String) (hn : o.metadata.name = some name) :
    (t.answer (.create ns o)).1 = .ok (t.stamped ns o) ∨
      (t.answer (.create ns o)).1 = .error (.api (.alreadyExists name)) := by
  simp only [answer, create, hn]
  cases t.get? ns name with
  | none => exact .inl rfl
  | some v => exact .inr rfl

/-- What a replacement comes to: it is refused and changes nothing, or stores its object where there
was one. -/
lemma replace_cases (t : ObjectTable Body) (ns : Option String) (o : Manifest Body) :
    (∃ e, t.replace ns o = (.error e, t)) ∨
      ∃ name, o.metadata.name = some name ∧ (t.get? ns name).isSome ∧
        t.replace ns o = (.ok (t.stamped ns o), t.store ns name o) := by
  unfold replace
  split
  · exact .inl ⟨_, rfl⟩
  · split
    · exact .inl ⟨_, rfl⟩
    · split
      · exact .inl ⟨_, rfl⟩
      · rename_i e _
        exact .inr ⟨_, ‹_›, by rw [e]; rfl, rfl⟩

/-- The replacement of an object in the version in which it stands is not refused. -/
lemma replace_same {existing : Manifest Body} (hn : o.metadata.name = some name)
    (h : t.get? ns name = some existing)
    (same : o.metadata.resourceVersion = existing.metadata.resourceVersion) :
    t.replace ns o = (.ok (t.stamped ns o), t.store ns name o) := by
  unfold replace
  simp only [hn, h]
  rw [if_neg]
  exact fun modified => modified.2 same.symm

/-- What a deletion comes to: it finds nothing, or takes the object away. -/
lemma delete_cases (t : ObjectTable Body) (ns : Option String) (name : String) :
    (t.get? ns name = none ∧ t.delete ns name = (.error (.api (.notFound name)), t)) ∨
      t.delete ns name = (.ok (), { t with objects := t.objects.erase (.of ns name) }) := by
  unfold delete
  split
  · exact .inl ⟨‹_›, rfl⟩
  · exact .inr rfl

/-- The version in the answer to a write. -/
def issues? (t : ObjectTable Body) : ObjectRequest Body → Option String
  | .create ns o => (t.create ns o).1.toOption.bind (·.metadata.resourceVersion)
  | .replace ns o => (t.replace ns o).1.toOption.bind (·.metadata.resourceVersion)
  | .get .. | .list .. | .delete .. => none

/-- An object as a write stores it, in a namespace and under a version. -/
def under (ns : Option String) (v : String) (o : Manifest Body) : Manifest Body :=
  { o with metadata := { o.metadata with namespaceName := ns, resourceVersion := some v } }

@[simp] lemma under_resourceVersion {ns : Option String} : (under ns v o).metadata.resourceVersion = some v := rfl

/-- What a request does to a table, and the version in its answer. -/
inductive Moves (t : ObjectTable Body) (r : ObjectRequest Body) : Option String → ObjectTable Body → Prop where
  /-- It reads, or is refused. -/
  | stays : Moves t r none t
  | deletes (key : ObjectKey) : Moves t r none { t with objects := t.objects.erase key }
  | stores {ns : Option String} {name : String} {o : Manifest Body} (puts : r.Puts ns o)
      (named : o.metadata.name = some name) : Moves t r (some (toString t.nextVersion)) (t.store ns name o)

lemma answer_moves (t : ObjectTable Body) (r : ObjectRequest Body) : t.Moves r (t.issues? r) (t.answer r).2 := by
  cases r with
  | get | list => exact .stays
  | create ns o =>
    obtain ⟨_, e⟩ | ⟨name, named, -, e⟩ := t.create_cases ns o
    · simp only [issues?, answer, e]
      exact .stays
    · simp only [issues?, answer, e]
      exact .stores (.inl rfl) named
  | replace ns o =>
    obtain ⟨_, e⟩ | ⟨name, named, -, e⟩ := t.replace_cases ns o
    · simp only [issues?, answer, e]
      exact .stays
    · simp only [issues?, answer, e]
      exact .stores (.inr rfl) named
  | delete ns name =>
    obtain ⟨-, e⟩ | e := t.delete_cases ns name
    · simp only [issues?, answer, e]
      exact .stays
    · simp only [issues?, answer, e]
      exact .deletes _

/-- What is stored after a request was stored before, or is what the request puts there. -/
lemma Moves.get?_cases (h : t.Moves r v? t') (found : t'.objects.get? key = some o) :
    t.objects.get? key = some o ∨ v? = some (toString t.nextVersion) ∧ ∃ ns given, r.Puts ns given ∧
      given.metadata.name = some key.name ∧ ns.getD "" = key.namespaceName ∧
      o = under ns (toString t.nextVersion) given := by
  cases h with
  | stays => exact .inl found
  | deletes =>
    rw [SortedMap.get?_erase] at found
    split at found
    · cases found
    · exact .inl found
  | @stores ns name given puts named =>
    rw [get?_store] at found
    split at found
    · next same =>
      subst key
      cases found
      exact .inr ⟨rfl, ns, given, puts, named, rfl, rfl⟩
    · exact .inl found

/-- Only what is stored takes a version. -/
lemma Moves.nextVersion (h : t.Moves r v? t') : v? = none ∧ t'.nextVersion = t.nextVersion ∨
    v? = some (toString t.nextVersion) ∧ t'.nextVersion = t.nextVersion + 1 := by
  cases h with
  | stays | deletes => exact .inl ⟨rfl, rfl⟩
  | stores => exact .inr ⟨rfl, rfl⟩

/-- A request leaves an object as it is, unless it stores one in its place or deletes it. -/
theorem get?_answer (hs : r.stores? ≠ some key) (hd : r.deletes? ≠ some key) :
    (t.answer r).2.objects.get? key = t.objects.get? key := by
  cases r with
  | get | list => rfl
  | create ns o =>
    obtain ⟨_, e⟩ | ⟨name, hn, -, e⟩ := t.create_cases ns o
    · simp only [answer, e]
    · simp only [answer, e]
      exact get?_store_of_ne o fun h => hs (by simp [ObjectRequest.stores?, hn, h])
  | replace ns o =>
    obtain ⟨_, e⟩ | ⟨name, hn, -, e⟩ := t.replace_cases ns o
    · simp only [answer, e]
    · simp only [answer, e]
      exact get?_store_of_ne o fun h => hs (by simp [ObjectRequest.stores?, hn, h])
  | delete ns name =>
    obtain ⟨_, e⟩ | e := t.delete_cases ns name
    · simp only [answer, e]
    · simp only [answer, e]
      rw [SortedMap.get?_erase, if_neg]
      exact fun h => hd (congrArg some h)

/-- Where there is no object, a request that stores none there leaves none. -/
theorem get?_answer_of_none (hs : r.stores? ≠ some key) (h : t.objects.get? key = none) :
    (t.answer r).2.objects.get? key = none := by
  -- Only a deletion is about its own place here, and it takes away what is not there.
  by_cases hd : r.deletes? = some key
  · cases r with
    | get | list | create | replace => cases hd
    | delete ns name =>
      obtain ⟨_, e⟩ | e := t.delete_cases ns name
      · simp only [answer, e, h]
      · simp only [answer, e, SortedMap.get?_erase, h, ite_self]
  · rw [get?_answer hs hd, h]

/-- After a deletion there is no object. -/
lemma get?_answer_delete : (t.answer (.delete ns name)).2.objects.get? (.of ns name) = none := by
  obtain ⟨h, e⟩ | e := t.delete_cases ns name
  · simp only [answer, e]
    exact h
  · simp only [answer, e, SortedMap.get?_erase, if_true]

/-- Every object stands under its namespace and its name. -/
def Filed (t : ObjectTable Body) : Prop :=
  ∀ key o, t.objects.get? key = some o →
    o.metadata.name = some key.name ∧ o.metadata.namespaceName.getD "" = key.namespaceName

lemma Filed.empty : ({} : ObjectTable Body).Filed := by
  intro key o found
  cases found

/-- Requests leave every object under its namespace and name. -/
theorem Filed.answer (h : t.Filed) (r : ObjectRequest Body) : (t.answer r).2.Filed := by
  intro key o found
  rcases (t.answer_moves r).get?_cases found with old | ⟨-, ns, given, -, named, placed, stored⟩
  · exact h key o old
  · rw [stored]
    exact ⟨named, placed⟩

end ObjectTable

end TenantOverlay
