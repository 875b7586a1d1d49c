import Mathlib.Data.List.Nodup
import TenantOverlay.Proofs.Cluster.Selector
import TenantOverlay.Proofs.Cluster.Versions

/-!
# Runs of requests to a table

What holds after any requests to an empty table (`ObjectTable.Lawful`), from what one request can do: every object
stands where the write that stored it put it, under a version of its own; versions are handed out in increasing
order; a version that has been replaced is retired for good (`Retired`), so that it can be replaced only once; and
lists are complete and in order.
-/

namespace TenantOverlay

namespace ObjectKey

/-- A key is before another one when its namespace is, or its name in the same namespace. -/
def Before (a b : ObjectKey) : Prop :=
  a.namespaceName < b.namespaceName ∨ a.namespaceName = b.namespaceName ∧ a.name < b.name

lemma eq_of_parts {a b : ObjectKey} (h : a.namespaceName = b.namespaceName) (h' : a.name = b.name) : a = b := by
  cases a
  cases b
  cases h
  cases h'
  rfl

lemma compare_eq_lt_iff {a b : ObjectKey} : compare a b = .lt ↔ a.Before b := by
  show (compare a.namespaceName b.namespaceName).then (compare a.name b.name) = .lt ↔ _
  rw [Ordering.then_eq_lt, Std.LawfulEqOrd.compare_eq_iff_eq]
  exact or_congr compareOfLessAndEq_eq_lt (and_congr_right' compareOfLessAndEq_eq_lt)

end ObjectKey

namespace ObjectTable

variable {Body : Type} {t : ObjectTable Body} {r : ObjectRequest Body} {requests : List (ObjectRequest Body)}
  {key : ObjectKey} {o : Manifest Body} {v : String}

/-- The table after requests in a row. -/
def after (t : ObjectTable Body) (requests : List (ObjectRequest Body)) : ObjectTable Body :=
  requests.foldl (fun t r => (t.answer r).2) t

/-- The versions in the answers to requests in a row. -/
def issued : ObjectTable Body → List (ObjectRequest Body) → List String
  | _, [] => []
  | t, r :: requests => (t.issues? r).toList ++ issued (t.answer r).2 requests

section Step

/-- A refused request changes nothing. -/
lemma answer_of_error {e : Error} (h : (t.answer r).1 = .error e) : (t.answer r).2 = t := by
  cases r with
  | get | list => rfl
  | create ns o =>
    obtain ⟨_, c⟩ | ⟨name, -, -, c⟩ := t.create_cases ns o
    · simp only [answer, c]
    · simp only [answer, c] at h
      cases h
  | replace ns o =>
    obtain ⟨_, c⟩ | ⟨name, -, -, c⟩ := t.replace_cases ns o
    · simp only [answer, c]
    · simp only [answer, c] at h
      cases h
  | delete ns name =>
    obtain ⟨-, c⟩ | c := t.delete_cases ns name
    · simp only [answer, c]
    · simp only [answer, c] at h
      cases h

/-- A request that reads changes nothing. -/
lemma answer_of_read (h : r.isWrite = false) : (t.answer r).2 = t := by
  cases r with
  | get | list => rfl
  | create | replace | delete => cases h

end Step

section Versions

/-- No two objects have the same version. -/
def Distinct (t : ObjectTable Body) : Prop :=
  ∀ key key' o o', t.objects.get? key = some o → t.objects.get? key' = some o' →
    o.metadata.resourceVersion = o'.metadata.resourceVersion → key = key'

/-- A version has been handed out, and no object has it any more. -/
structure Retired (t : ObjectTable Body) (v : String) : Prop where
  issued : ∃ n < t.nextVersion, v = toString n
  gone {key : ObjectKey} {o : Manifest Body} : t.objects.get? key = some o → o.metadata.resourceVersion ≠ some v

lemma Distinct.empty : ({} : ObjectTable Body).Distinct := by
  intro key key' o o' found
  cases found

/-- What a request puts somewhere has a version that no other object has. -/
lemma Distinct.answer (h : t.Distinct) (versioned : t.Versioned) (r : ObjectRequest Body) :
    (t.answer r).2.Distinct := by
  intro key key' o o' found found' same
  have moves := t.answer_moves r
  rcases moves.get?_cases found with old | ⟨-, ns, given, puts, named, placed, stored⟩ <;>
    rcases moves.get?_cases found' with old' | ⟨-, ns', given', puts', named', placed', stored'⟩
  · exact h key key' o o' old old' same
  · rw [stored', under_resourceVersion] at same
    exact absurd same (versioned key o old).ne_next
  · rw [stored, under_resourceVersion] at same
    exact absurd same.symm (versioned key' o' old').ne_next
  · obtain ⟨sameNamespace, sameObject⟩ := puts.unique puts'
    rw [← sameObject, named, Option.some_inj] at named'
    rw [← sameNamespace, placed] at placed'
    exact ObjectKey.eq_of_parts placed' named'

lemma Retired.answer (h : t.Retired v) (r : ObjectRequest Body) : (t.answer r).2.Retired v := by
  obtain ⟨⟨n, lt, rfl⟩, gone⟩ := h
  refine ⟨⟨n, Nat.lt_of_lt_of_le lt (t.answer_cases r).1, rfl⟩, fun {key o} found => ?_⟩
  rcases (t.answer_cases r).2 key o found with old | ⟨next, -⟩
  · exact gone old
  · rw [next]
    intro same
    exact Nat.ne_of_gt lt (Text.toString_injective (Option.some.inj same))

/-- A replacement with a version is accepted just when the stored object has that version. -/
lemma exists_replace_iff (version : o.metadata.resourceVersion = some v) {ns : Option String} :
    (∃ stored, (t.answer (.replace ns o)).1 = .ok stored) ↔ ∃ name old, o.metadata.name = some name ∧
      t.objects.get? (.of ns name) = some old ∧ old.metadata.resourceVersion = some v := by
  constructor
  · rintro ⟨stored, accepted⟩
    simp only [answer, replace, version, Option.isSome_some, true_and] at accepted
    cases named : o.metadata.name with
    | none =>
      rw [named] at accepted
      cases accepted
    | some name =>
      simp only [named] at accepted
      cases found : t.get? ns name with
      | none =>
        rw [found] at accepted
        cases accepted
      | some old =>
        simp only [found] at accepted
        refine ⟨name, old, rfl, found, ?_⟩
        by_contra modified
        rw [if_pos modified] at accepted
        cases accepted
  · rintro ⟨name, old, named, found, same⟩
    exact ⟨_, congrArg Prod.fst (replace_same named found (version.trans same.symm))⟩

/-- A version that has been replaced is retired. -/
lemma retired_of_replace (versioned : t.Versioned) (distinct : t.Distinct) {ns : Option String}
    (version : o.metadata.resourceVersion = some v) (accepted : ∃ stored, (t.answer (.replace ns o)).1 = .ok stored) :
    (t.answer (.replace ns o)).2.Retired v := by
  obtain ⟨name, old, named, found, same⟩ := (exists_replace_iff version).1 accepted
  have stored : (t.answer (.replace ns o)).2 = t.store ns name o :=
    congrArg Prod.snd (replace_same named found (version.trans same.symm))
  have issued := versioned _ _ found
  rw [stored]
  refine ⟨?_, fun {key o'} found' => ?_⟩
  · obtain ⟨n, lt, given⟩ := issued
    rw [same, Option.some_inj] at given
    exact ⟨n, Nat.lt_succ_of_lt lt, given⟩
  · rw [get?_store] at found'
    split at found'
    · cases found'
      rw [← same]
      exact issued.ne_next.symm
    · next other =>
      intro again
      exact other (distinct _ _ _ _ found found' (same.trans again.symm))

/-- Nothing is replaced any more in a version that is retired. -/
lemma Retired.refuses (h : t.Retired v) (version : o.metadata.resourceVersion = some v) {ns : Option String} :
    ∃ e, (t.answer (.replace ns o)).1 = .error e := by
  cases result : (t.answer (.replace ns o)).1 with
  | error e => exact ⟨e, rfl⟩
  | ok stored =>
    obtain ⟨name, old, -, found, same⟩ := (exists_replace_iff version).1 ⟨stored, result⟩
    exact absurd same (h.gone found)

end Versions

section Run

lemma after_append (t : ObjectTable Body) (requests more : List (ObjectRequest Body)) :
    t.after (requests ++ more) = (t.after requests).after more := List.foldl_append

lemma after_concat (t : ObjectTable Body) (requests : List (ObjectRequest Body)) (r : ObjectRequest Body) :
    t.after (requests ++ [r]) = ((t.after requests).answer r).2 := after_append t requests [r]

lemma issued_concat (t : ObjectTable Body) (requests : List (ObjectRequest Body)) (r : ObjectRequest Body) :
    issued t (requests ++ [r]) = issued t requests ++ ((t.after requests).issues? r).toList := by
  induction requests generalizing t with
  | nil => simp [issued, after]
  | cons first requests ih =>
    rw [List.cons_append, issued, ih, issued, List.append_assoc]
    rfl

lemma Versioned.after (h : t.Versioned) (requests : List (ObjectRequest Body)) : (t.after requests).Versioned := by
  induction requests generalizing t with
  | nil => exact h
  | cons r requests ih => exact ih (h.answer r)

lemma Distinct.after (h : t.Distinct) (versioned : t.Versioned) (requests : List (ObjectRequest Body)) :
    (t.after requests).Distinct := by
  induction requests generalizing t with
  | nil => exact h
  | cons r requests ih => exact ih (h.answer versioned r) (versioned.answer r)

lemma Retired.after (h : t.Retired v) (requests : List (ObjectRequest Body)) : (t.after requests).Retired v := by
  induction requests generalizing t with
  | nil => exact h
  | cons r requests ih => exact ih (h.answer r)

/-- The versions in the answers are the next ones, in their order. -/
lemma issued_eq (t : ObjectTable Body) (requests : List (ObjectRequest Body)) :
    ∃ count, issued t requests = (List.range' t.nextVersion count).map toString ∧
      (t.after requests).nextVersion = t.nextVersion + count := by
  induction requests generalizing t with
  | nil => exact ⟨0, rfl, rfl⟩
  | cons r requests ih =>
    obtain ⟨count, later, last⟩ := ih (t.answer r).2
    have whole : t.after (r :: requests) = (t.answer r).2.after requests := rfl
    obtain ⟨silent, same⟩ | ⟨issues, next⟩ := (t.answer_moves r).nextVersion
    · refine ⟨count, ?_, ?_⟩
      · rw [issued, silent, later, same]
        rfl
      · rw [whole, last, same]
    · refine ⟨count + 1, ?_, ?_⟩
      · rw [issued, issues, later, next, List.range'_succ]
        rfl
      · rw [whole, last, next, Nat.add_assoc, Nat.add_comm 1]

/-- Every object is stored as it was given to a request, under a version from an answer. -/
lemma filed_after (found : (after {} requests).objects.get? key = some o) :
    ∃ r ∈ requests, ∃ ns given v, r.Puts ns given ∧ given.metadata.name = some key.name ∧
      ns.getD "" = key.namespaceName ∧ v ∈ issued {} requests ∧ o = under ns v given := by
  induction requests using List.reverseRecOn with
  | nil => cases found
  | append_singleton requests r ih =>
    rw [after_concat] at found
    rw [issued_concat]
    rcases ((after {} requests).answer_moves r).get?_cases found with
      old | ⟨issues, ns, given, puts, named, placed, stored⟩
    · obtain ⟨r', mem, ns, given, v, puts, named, placed, issued, stored⟩ := ih old
      exact ⟨r', List.mem_append_left _ mem, ns, given, v, puts, named, placed, List.mem_append_left _ issued, stored⟩
    · rw [issues]
      exact ⟨r, List.mem_append_right _ (List.mem_singleton_self r), ns, given, _, puts, named, placed,
        List.mem_append_right _ (List.mem_singleton_self _), stored⟩

end Run

section Lists

variable {ns selector : Option String}

/-- Whether an object is among those that a list request is about. -/
def Covers (ns selector : Option String) (key : ObjectKey) (o : Manifest Body) : Prop :=
  (∀ n, ns = some n → n = key.namespaceName) ∧
    ∀ s, selector = some s → ∀ term, Selector.Asks s term → term.Satisfied (o.metadata.labels.getD .empty)

lemma listed_eq_true_iff : listed ns selector key o = true ↔ Covers ns selector key o := by
  unfold listed Covers
  rw [Bool.and_eq_true, Option.all_eq_true, Option.all_eq_true]
  simp only [beq_iff_eq, Selector.selects_eq_true_iff]

/-- A list has the objects that it is about, in the order of their keys. -/
lemma exists_list (t : ObjectTable Body) (ns selector : Option String) : ∃ entries : List (ObjectKey × Manifest Body),
    t.list ns selector = entries.map (·.2) ∧ entries.Pairwise (fun a b => a.1.Before b.1) ∧
      ∀ key o, (key, o) ∈ entries ↔ t.objects.get? key = some o ∧ Covers ns selector key o := by
  refine ⟨_, rfl, ?_, fun key o => ?_⟩
  · exact (t.objects.sorted.imp ObjectKey.compare_eq_lt_iff.1).filter _
  · rw [List.mem_filter, SortedMap.get?_eq_some_iff, listed_eq_true_iff]

end Lists

/-- What holds after any requests to an empty table. -/
structure Lawful (requests : List (ObjectRequest Body)) : Prop where
  /-- Every object stands in the namespace of the request that put it there, none being the empty one, and under
  its own name, as it was given, with a version that was handed out. -/
  filed {key : ObjectKey} {o : Manifest Body} : (after {} requests).objects.get? key = some o →
    ∃ r ∈ requests, ∃ ns given v, r.Puts ns given ∧ given.metadata.name = some key.name ∧
      ns.getD "" = key.namespaceName ∧ v ∈ issued {} requests ∧ o = under ns v given
  /-- Versions are handed out in increasing order. -/
  increasing : ∃ numbers : List ℕ, numbers.Pairwise (· < ·) ∧ issued {} requests = numbers.map toString
  /-- No version is handed out twice. -/
  nodup : (issued {} requests).Nodup
  /-- A replacement with a version is accepted just when the stored object has that version. -/
  replaced_iff {ns : Option String} {o : Manifest Body} {v : String} : o.metadata.resourceVersion = some v →
    ((∃ stored, ((after {} requests).answer (.replace ns o)).1 = .ok stored) ↔
      ∃ name old, o.metadata.name = some name ∧ (after {} requests).objects.get? (.of ns name) = some old ∧
        old.metadata.resourceVersion = some v)
  /-- Of two replacements with one version the later is refused when the earlier is accepted, whatever is requested
  between them. -/
  replaced_once {ns ns' : Option String} {o o' : Manifest Body} {v : String} (middle : List (ObjectRequest Body)) :
    o.metadata.resourceVersion = some v → o'.metadata.resourceVersion = some v →
    (∃ stored, ((after {} requests).answer (.replace ns o)).1 = .ok stored) →
    ∃ e, ((after {} (requests ++ .replace ns o :: middle)).answer (.replace ns' o')).1 = .error e
  /-- A refused request changes neither the objects nor the next version. -/
  refused {r : ObjectRequest Body} {e : Error} :
    ((after {} requests).answer r).1 = .error e → ((after {} requests).answer r).2 = after {} requests
  /-- Nor does a request that reads. -/
  read {r : ObjectRequest Body} : r.isWrite = false → ((after {} requests).answer r).2 = after {} requests
  /-- A list has the stored objects of the namespace that satisfy the selector, by namespace and name. -/
  listed (ns selector : Option String) : ∃ entries : List (ObjectKey × Manifest Body),
    ((after {} requests).answer (.list ns selector)).1 = .ok (entries.map (·.2)) ∧
      entries.Pairwise (fun a b => a.1.Before b.1) ∧
      ∀ key o, (key, o) ∈ entries ↔ (after {} requests).objects.get? key = some o ∧ Covers ns selector key o

end ObjectTable

open ObjectTable

/-- Whatever is requested of a table that starts empty, objects stand where they were put, versions increase and are
never used again, replacements that carry a version detect every change, what is refused changes nothing, and lists
are complete and in order. -/
theorem object_requests_lawful {Body : Type} (requests : List (ObjectRequest Body)) : Lawful requests := by
  have versioned : (after {} requests).Versioned := Versioned.empty.after requests
  have distinct : (after {} requests).Distinct := Distinct.empty.after .empty requests
  obtain ⟨count, issues, -⟩ := issued_eq {} requests
  constructor
  case filed => exact filed_after
  case increasing => exact ⟨_, List.pairwise_lt_range' 1, issues⟩
  case nodup =>
    rw [issues]
    exact List.Nodup.map (fun _ _ => Text.toString_injective) (List.nodup_range' 1)
  case replaced_iff =>
    intro ns o v version
    exact exists_replace_iff version
  case replaced_once =>
    intro ns ns' o o' v middle version version' accepted
    have retired := (retired_of_replace versioned distinct version accepted).after middle
    rw [after_append]
    exact retired.refuses version'
  case refused => exact answer_of_error
  case read => exact answer_of_read
  case listed =>
    intro ns selector
    obtain ⟨entries, listed, sorted, mem⟩ := (after {} requests).exists_list ns selector
    exact ⟨entries, congrArg Except.ok listed, sorted, mem⟩

/-- A refused request takes no version: the second replacement in version 1 is refused, and so is a second creation. -/
example : let given (v? : Option String) : Manifest Unit :=
      { metadata := { name := some "a", resourceVersion := v? }, body := () }
    issued {} [.create none (given none), .replace none (given (some "1")), .replace none (given (some "1")),
      .create none (given none), .delete none "a", .create none (given none)] = ["1", "2", "3"] := by
  decide +kernel

end TenantOverlay
