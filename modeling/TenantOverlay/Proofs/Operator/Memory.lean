import TenantOverlay.Proofs.Cluster.Memory
import TenantOverlay.Proofs.Store.Memory
import TenantOverlay.Operator.Memory

/-!
# What calls do to the services in memory

A `Place` names an object across all kinds. A call puts an object at no place but
`OperatorCall.stores?`, takes one away from no place but `OperatorCall.deletes?`, and puts no value
into the store but `OperatorCall.writes?`; a `Footprint` lists the places and values for a whole
program. `MemoryServices.Reachable` are the states that calls lead to, in which every object stands
under its own name (`Reachable.filed`).
-/

namespace TenantOverlay

/-- The kinds of which a network has objects. -/
def Kind.isOfNetwork : Kind → Bool
  | .namespaces | .serviceAccounts | .roleBindings | .daemonSets => true
  | .jobs | .pods | .nodes | .overlays => false

/-- Where an object of the cluster stands. -/
structure Place where
  kind : Kind
  key : ObjectKey
  deriving DecidableEq, Repr

namespace OperatorCall

/-- The place at which a call may put an object. -/
def stores? : OperatorCall → Option Place
  | .cluster k request => request.stores?.map (Place.mk k)
  | .store _ => none

/-- The place from which a call may take an object away. -/
def deletes? : OperatorCall → Option Place
  | .cluster k request => request.deletes?.map (Place.mk k)
  | .store _ => none

/-- The key of the store under which a call may put a value, and the value. -/
def writes? : OperatorCall → Option (String × String)
  | .cluster .. => none
  | .store request => request.writes?

end OperatorCall

/-- Where a program may put objects, from where it may take them away, and which values it may put
into the store. -/
structure Footprint where
  stores : List Place := []
  deletes : List Place := []
  writes : List (String × String) := []

namespace Footprint

/-- A call changes nothing outside a footprint. -/
structure Covers (f : Footprint) (c : OperatorCall) : Prop where
  stores {p : Place} : c.stores? = some p → p ∈ f.stores
  deletes {p : Place} : c.deletes? = some p → p ∈ f.deletes
  writes {w : String × String} : c.writes? = some w → w ∈ f.writes

variable {f g : Footprint} {k : Kind} {ns : Option String} {name : String}

/-- A footprint allows no more than another one. -/
structure Within (f g : Footprint) : Prop where
  stores : f.stores ⊆ g.stores
  deletes : f.deletes ⊆ g.deletes
  writes : f.writes ⊆ g.writes

lemma Covers.within {c : OperatorCall} (h : f.Covers c) (w : f.Within g) : g.Covers c where
  stores e := w.stores (h.stores e)
  deletes e := w.deletes (h.deletes e)
  writes e := w.writes (h.writes e)

/-- Calls that change nothing are in every footprint. -/
lemma Covers.of_empty {c : OperatorCall} (h : Covers {} c) : f.Covers c :=
  h.within ⟨List.nil_subset _, List.nil_subset _, List.nil_subset _⟩

lemma covers_get : f.Covers (.cluster k (.get ns name)) := ⟨nofun, nofun, nofun⟩

lemma covers_list {selector : Option String} : f.Covers (.cluster k (.list ns selector)) :=
  ⟨nofun, nofun, nofun⟩

lemma covers_create {o : k.Object} (hn : o.metadata.name = some name)
    (h : ⟨k, .of ns name⟩ ∈ f.stores) : f.Covers (.cluster k (.create ns o)) := by
  refine ⟨fun e => ?_, nofun, nofun⟩
  simp only [OperatorCall.stores?, ObjectRequest.stores?, hn, Option.map_some] at e
  cases e
  exact h

lemma covers_replace {o : k.Object} (hn : o.metadata.name = some name)
    (h : ⟨k, .of ns name⟩ ∈ f.stores) : f.Covers (.cluster k (.replace ns o)) := by
  refine ⟨fun e => ?_, nofun, nofun⟩
  simp only [OperatorCall.stores?, ObjectRequest.stores?, hn, Option.map_some] at e
  cases e
  exact h

lemma covers_delete (h : ⟨k, .of ns name⟩ ∈ f.deletes) :
    f.Covers (.cluster k (.delete ns name)) := by
  refine ⟨nofun, fun e => ?_, nofun⟩
  cases e
  exact h

lemma covers_search {key : String} : f.Covers (.store (.search key)) := ⟨nofun, nofun, nofun⟩

lemma covers_clear {key : String} : f.Covers (.store (.delete key)) := ⟨nofun, nofun, nofun⟩

lemma covers_write {key value : String} (h : (normalizeKey key, value) ∈ f.writes) :
    f.Covers (.store (.create key value)) := by
  refine ⟨nofun, nofun, fun e => ?_⟩
  cases e
  exact h

end Footprint

namespace MemoryServices

variable {c : OperatorCall} {p : Place}

/-- The object at a place. -/
def object? (s : MemoryServices) (p : Place) : Option p.kind.Object :=
  (s.cluster.table p.kind).objects.get? p.key

/-- There is no object at any of some places. -/
def Lacks (s : MemoryServices) (places : List Place) : Prop := ∀ p ∈ places, s.object? p = none

lemma Lacks.append {s : MemoryServices} {a b : List Place} (ha : s.Lacks a) (hb : s.Lacks b) :
    s.Lacks (a ++ b) := by
  intro p m
  obtain m | m := List.mem_append.1 m
  · exact ha p m
  · exact hb p m

lemma Lacks.subset {s : MemoryServices} {a b : List Place} (h : s.Lacks b) (sub : a ⊆ b) : s.Lacks a :=
  fun p m => h p (sub m)

section Answers

variable {s : MemoryServices}

lemma table_answer (k : Kind) (request : ObjectRequest k.Body) :
    (s.answer (.cluster k request)).2.cluster.table k = ((s.cluster.table k).answer request).2 :=
  s.cluster.table_withTable k _

lemma table_answer_of_ne {k l : Kind} (request : ObjectRequest k.Body) (h : l ≠ k) :
    (s.answer (.cluster k request)).2.cluster.table l = s.cluster.table l :=
  s.cluster.table_withTable_of_ne _ h

lemma answer_get (k : Kind) (ns : Option String) (name : String) :
    s.answer (.cluster k (.get ns name)) = (.ok (s.object? ⟨k, .of ns name⟩), s) := by
  show (Except.ok _, _) = _
  refine Prod.ext rfl ?_
  show { s with cluster := s.cluster.withTable k (s.cluster.table k) } = s
  rw [Cluster.withTable_table]

lemma answer_list (k : Kind) (ns selector : Option String) :
    s.answer (.cluster k (.list ns selector)) = (.ok ((s.cluster.table k).list ns selector), s) := by
  refine Prod.ext rfl ?_
  show { s with cluster := s.cluster.withTable k (s.cluster.table k) } = s
  rw [Cluster.withTable_table]

/-- After a deletion there is no object. -/
lemma object?_answer_delete (k : Kind) (ns : Option String) (name : String) :
    (s.answer (.cluster k (.delete ns name))).2.object? ⟨k, .of ns name⟩ = none := by
  unfold object?
  rw [table_answer]
  exact ObjectTable.get?_answer_delete

/-- After the creation of an object with a name there is the one that was there, or else the new
one. -/
lemma object?_answer_create {k : Kind} {ns : Option String} {o : k.Object} {name : String}
    (hn : o.metadata.name = some name) :
    (s.answer (.cluster k (.create ns o))).2.object? ⟨k, .of ns name⟩ =
      some ((s.object? ⟨k, .of ns name⟩).getD ((s.cluster.table k).stamped ns o)) := by
  unfold object?
  rw [table_answer]
  exact ObjectTable.get?_answer_create hn

/-- What a replacement comes to: it is refused and changes nothing, or stores its object. -/
lemma answer_replace_cases (s : MemoryServices) {k : Kind} (ns : Option String) {o : k.Object} {name : String}
    (hn : o.metadata.name = some name) :
    (∃ e, s.answer (.cluster k (.replace ns o)) = (.error e, s)) ∨
      (s.answer (.cluster k (.replace ns o))).1 = .ok ((s.cluster.table k).stamped ns o) ∧
        (s.answer (.cluster k (.replace ns o))).2.object? ⟨k, .of ns name⟩ =
          some ((s.cluster.table k).stamped ns o) := by
  obtain ⟨e, h⟩ | ⟨_, hn', -, h⟩ := (s.cluster.table k).replace_cases ns o
  · have refused := congrArg Prod.fst h
    refine .inl ⟨e, Prod.ext refused ?_⟩
    show { s with cluster := s.cluster.withTable k ((s.cluster.table k).replace ns o).2 } = s
    rw [h, Cluster.withTable_table]
  · obtain rfl := Option.some.inj (hn.symm.trans hn')
    have stored := congrArg Prod.fst h
    refine .inr ⟨stored, ?_⟩
    unfold object?
    rw [table_answer, ObjectTable.answer, h, ObjectTable.get?_store, if_pos rfl]

/-- The replacement of an object in the version in which it stands is not refused. -/
lemma answer_replace_same {k : Kind} {ns : Option String} {o existing : k.Object} {name : String}
    (hn : o.metadata.name = some name) (h : s.object? ⟨k, .of ns name⟩ = some existing)
    (same : o.metadata.resourceVersion = existing.metadata.resourceVersion) :
    (s.answer (.cluster k (.replace ns o))).1 = .ok ((s.cluster.table k).stamped ns o) ∧
      (s.answer (.cluster k (.replace ns o))).2.object? ⟨k, .of ns name⟩ =
        some ((s.cluster.table k).stamped ns o) := by
  have replaced : (s.cluster.table k).replace ns o = _ := ObjectTable.replace_same hn h same
  have stored := congrArg Prod.fst replaced
  refine ⟨stored, ?_⟩
  unfold object?
  rw [table_answer, ObjectTable.answer, replaced, ObjectTable.get?_store, if_pos rfl]

/-- A call leaves an object as it is, unless it stores one in its place or deletes it. -/
theorem object?_answer (hs : c.stores? ≠ some p) (hd : c.deletes? ≠ some p) :
    (s.answer c).2.object? p = s.object? p := by
  cases c with
  | store request => rfl
  | cluster k request =>
    obtain ⟨l, key⟩ := p
    by_cases h : l = k
    · subst h
      unfold object?
      rw [table_answer]
      refine ObjectTable.get?_answer (fun e => hs ?_) fun e => hd ?_
      · simp only [OperatorCall.stores?, e, Option.map_some]
      · simp only [OperatorCall.deletes?, e, Option.map_some]
    · unfold object?
      rw [table_answer_of_ne _ h]

/-- Where there is no object, a call that stores none there leaves none. -/
theorem object?_answer_of_none (hs : c.stores? ≠ some p) (h : s.object? p = none) :
    (s.answer c).2.object? p = none := by
  cases c with
  | store request => exact h
  | cluster k request =>
    obtain ⟨l, key⟩ := p
    by_cases e : l = k
    · subst e
      unfold object?
      rw [table_answer]
      refine ObjectTable.get?_answer_of_none (fun e => hs ?_) h
      simp only [OperatorCall.stores?, e, Option.map_some]
    · unfold object?
      rw [table_answer_of_ne _ e]
      exact h

/-- A value that is found after a call was there before, or the call has put it there. -/
theorem store_get?_answer_eq_some {key value : String}
    (h : (s.answer c).2.store.get? key = some value) :
    s.store.get? key = some value ∨ c.writes? = some (key, value) := by
  cases c with
  | cluster k request => exact .inl h
  | store request => exact KeyTree.get?_answer_eq_some h

/-- What requests preserve of a table, calls do. -/
lemma table_answer_keeps {k : Kind} {P : ObjectTable k.Body → Prop}
    (h : ∀ t r, P t → P (t.answer r).2) (before : P (s.cluster.table k)) (c : OperatorCall) :
    P ((s.answer c).2.cluster.table k) := by
  cases c with
  | store request => exact before
  | cluster l request =>
    by_cases e : k = l
    · subst e
      rw [table_answer]
      exact h _ request before
    · rw [table_answer_of_ne _ e]
      exact before

/-- Calls leave every object of a kind under its namespace and name. -/
theorem filed_answer {k : Kind} (h : (s.cluster.table k).Filed) (c : OperatorCall) :
    ((s.answer c).2.cluster.table k).Filed :=
  table_answer_keeps (fun _ r before => before.answer r) h c

end Answers

/-- The services as they can come about: nothing is there at first, and every call may be made. -/
inductive Reachable : MemoryServices → Prop where
  | empty : Reachable {}
  | answer {s : MemoryServices} (c : OperatorCall) : Reachable s → Reachable (s.answer c).2

/-- Every object stands under its namespace and name. -/
theorem Reachable.filed {s : MemoryServices} (h : s.Reachable) (k : Kind) :
    (s.cluster.table k).Filed := by
  induction h with
  | empty => cases k <;> exact .empty
  | answer c _ ih => exact filed_answer ih c

end MemoryServices

end TenantOverlay
