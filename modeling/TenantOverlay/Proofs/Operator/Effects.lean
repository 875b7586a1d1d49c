import Mathlib.Logic.Function.Basic
import TenantOverlay.Proofs.Operator.Environment

/-!
# Effects that can be brought about again

What an operation does to the services, seen without the versions of objects, are its `Effects`: an
`Effect` at every place of the cluster and under every key of the store. An effect keeps a value,
fills a gap, or sets the value whatever was there. Effects follow one another to an effect again, and
each does the same twice as once (`Effect.act_act`). So effects of which a first part has been brought
about lead, from their beginning, to where they would have led (`Effects.Begun.resumed`).

`Makes` is the judgment that an operation has some effects and that its failures interrupt them. There
is a rule for each request that changes something, for sequence (`Makes.next`), and for repetition
(`Makes.retry`).
-/

namespace TenantOverlay

/-- What is done to a value that may be there. -/
inductive Effect (α : Type) where
  | keep
  /-- A value is put where there is none. -/
  | fill (a : α)
  /-- A value is replaced or taken away, whatever it is. -/
  | set (x : Option α)

namespace Effect

variable {α : Type}

def act : Effect α → Option α → Option α
  | keep, v => v
  | fill a, v => some (v.getD a)
  | set x, _ => x

/-- First one effect, then another. -/
def andThen : Effect α → Effect α → Effect α
  | e, keep => e
  | keep, fill b => fill b
  | fill a, fill _ => fill a
  | set x, fill b => set (some (x.getD b))
  | _, set y => set y

@[simp] lemma andThen_keep (e : Effect α) : e.andThen keep = e := by cases e <;> rfl

@[simp] lemma keep_andThen (e : Effect α) : keep.andThen e = e := by cases e <;> rfl

lemma andThen_assoc (e f g : Effect α) : (e.andThen f).andThen g = e.andThen (f.andThen g) := by
  cases e <;> cases f <;> cases g <;> rfl

lemma act_andThen (e f : Effect α) (v : Option α) : (e.andThen f).act v = f.act (e.act v) := by
  cases e <;> cases f <;> rfl

/-- Whatever is done is done at once for all. -/
theorem act_act (e : Effect α) (v : Option α) : e.act (e.act v) = e.act v := by
  cases e <;> rfl

end Effect

/-- What can be seen of the services apart from the versions of objects. -/
@[ext]
structure View where
  object (p : Place) : Option p.kind.Object
  value (key : String) : Option String

/-- What is done at every place of the cluster and under every key of the store. -/
@[ext]
structure Effects where
  object (p : Place) : Effect p.kind.Object
  value (key : String) : Effect String

namespace Effects

variable {c d : Effects} {v w : View}

def act (c : Effects) (v : View) : View where
  object p := (c.object p).act (v.object p)
  value key := (c.value key).act (v.value key)

/-- First some effects, then others. -/
def andThen (c d : Effects) : Effects where
  object p := (c.object p).andThen (d.object p)
  value key := (c.value key).andThen (d.value key)

/-- Nothing is changed. -/
def nothing : Effects := ⟨fun _ => .keep, fun _ => .keep⟩

/-- An effect at one place. -/
def atPlace (p : Place) (e : Effect p.kind.Object) : Effects :=
  ⟨Function.update (fun _ => .keep) p e, fun _ => .keep⟩

@[simp] lemma atPlace_self (p : Place) (e : Effect p.kind.Object) : (atPlace p e).object p = e := by
  simp only [atPlace, Function.update_self]

lemma atPlace_of_ne {p q : Place} (e : Effect p.kind.Object) (h : q ≠ p) :
    (atPlace p e).object q = .keep := by
  simp only [atPlace, Function.update_of_ne h]

/-- Effects on values. -/
def ofValues (e : String → Effect String) : Effects := ⟨fun _ => .keep, e⟩

lemma object_ofValues (e : String → Effect String) (v : View) :
    ((ofValues e).act v).object = v.object := rfl

@[simp] lemma andThen_nothing (c : Effects) : c.andThen nothing = c := by
  ext p
  · exact Effect.andThen_keep _
  · exact Effect.andThen_keep _

@[simp] lemma nothing_andThen (c : Effects) : nothing.andThen c = c := by
  ext p
  · exact Effect.keep_andThen _
  · exact Effect.keep_andThen _

lemma andThen_assoc (c d e : Effects) : (c.andThen d).andThen e = c.andThen (d.andThen e) := by
  ext p
  · exact Effect.andThen_assoc _ _ _
  · exact Effect.andThen_assoc _ _ _

/-- Where there is nothing, to fill a place comes to the same as to set it. -/
lemma act_fill_of_none {p : Place} {a : p.kind.Object} (h : v.object p = none) :
    (atPlace p (.fill a)).act v = (atPlace p (.set (some a))).act v := by
  refine View.ext (funext fun q => ?_) rfl
  show ((atPlace p (.fill a)).object q).act (v.object q) =
    ((atPlace p (.set (some a))).object q).act (v.object q)
  by_cases own : q = p
  · subst own
    rw [atPlace_self, atPlace_self, h]
    rfl
  · rw [atPlace_of_ne _ own, atPlace_of_ne _ own]

lemma act_andThen (c d : Effects) (v : View) : (c.andThen d).act v = d.act (c.act v) := by
  ext p : 2
  · exact Effect.act_andThen _ _ _
  · exact Effect.act_andThen _ _ _

theorem act_act (c : Effects) (v : View) : c.act (c.act v) = c.act v := by
  ext p : 2
  · exact Effect.act_act _ _
  · exact Effect.act_act _ _

/-- A first part of some effects has been brought about. -/
def Begun (c : Effects) (v w : View) : Prop :=
  ∃ first rest : Effects, c = first.andThen rest ∧ w = first.act v

lemma Begun.none : c.Begun v v := ⟨nothing, c, c.nothing_andThen.symm, rfl⟩

lemma Begun.all : c.Begun v (c.act v) := ⟨c, nothing, c.andThen_nothing.symm, rfl⟩

lemma Begun.first (h : c.Begun v w) : (c.andThen d).Begun v w := by
  obtain ⟨first, rest, rfl, e⟩ := h
  exact ⟨first, rest.andThen d, andThen_assoc _ _ _, e⟩

lemma Begun.second (h : d.Begun (c.act v) w) : (c.andThen d).Begun v w := by
  obtain ⟨first, rest, rfl, e⟩ := h
  exact ⟨c.andThen first, rest, (andThen_assoc _ _ _).symm, e.trans (act_andThen _ _ _).symm⟩

/-- Effects that have been interrupted can be brought about from their beginning. -/
theorem Begun.resumed (h : c.Begun v w) : c.act w = c.act v := by
  obtain ⟨first, rest, rfl, rfl⟩ := h
  rw [act_andThen, act_act, act_andThen]

end Effects

/-- The object without the version under which it is stored. -/
def Manifest.unversioned {Body : Type} (o : Manifest Body) : Manifest Body :=
  { o with metadata := { o.metadata with resourceVersion := none } }

/-- The object as it is stored in a namespace, without a version. -/
def Manifest.placedIn {Body : Type} (namespaceName : Option String) (o : Manifest Body) :
    Manifest Body :=
  { o with metadata := { o.metadata with
      namespaceName := namespaceName
      resourceVersion := none } }

namespace MemoryServices

open Fallible

/-- The services without the versions of objects. -/
def view (s : MemoryServices) : View where
  object p := (s.object? p).map Manifest.unversioned
  value := s.store.get?

/-- Services with the same view have the same store. -/
lemma store_eq_of_view {s t : MemoryServices} (h : s.view = t.view) : s.store = t.store :=
  SortedMap.ext fun key => congrFun (congrArg View.value h) key

section Requests

variable {s : MemoryServices} {k : Kind} {ns : Option String} {name : String}

/-- A request about one place changes nothing elsewhere. -/
lemma view_answer_object {request : ObjectRequest k.Body} {e : Effect k.Object}
    (hs : ∀ key, request.stores? = some key → key = .of ns name)
    (hd : ∀ key, request.deletes? = some key → key = .of ns name)
    (h : ((s.answer (.cluster k request)).2.object? ⟨k, .of ns name⟩).map Manifest.unversioned =
      e.act ((s.object? ⟨k, .of ns name⟩).map Manifest.unversioned)) :
    (s.answer (.cluster k request)).2.view = (Effects.atPlace ⟨k, .of ns name⟩ e).act s.view := by
  refine View.ext (funext fun p => ?_) rfl
  show ((s.answer (.cluster k request)).2.object? p).map Manifest.unversioned =
    ((Effects.atPlace ⟨k, .of ns name⟩ e).object p).act ((s.object? p).map Manifest.unversioned)
  by_cases own : p = ⟨k, .of ns name⟩
  · subst own
    rw [Effects.atPlace_self]
    exact h
  · rw [Effects.atPlace_of_ne e own, object?_answer (fun e => own ?_) fun e => own ?_]
    · rfl
    · obtain ⟨key, stored, rfl⟩ := Option.map_eq_some_iff.1 e
      rw [hs key stored]
    · obtain ⟨key, deleted, rfl⟩ := Option.map_eq_some_iff.1 e
      rw [hd key deleted]

lemma view_answer_create {o : k.Object} (hn : o.metadata.name = some name) :
    (s.answer (.cluster k (.create ns o))).2.view =
      (Effects.atPlace ⟨k, .of ns name⟩ (.fill (o.placedIn ns))).act s.view := by
  refine view_answer_object (fun key e => ?_) nofun ?_
  · simp only [ObjectRequest.stores?, hn, Option.map_some] at e
    exact (Option.some.inj e).symm
  · rw [object?_answer_create hn]
    cases s.object? ⟨k, .of ns name⟩ with
    | none => rfl
    | some v => rfl

lemma view_answer_delete :
    (s.answer (.cluster k (.delete ns name))).2.view =
      (Effects.atPlace ⟨k, .of ns name⟩ (.set none)).act s.view := by
  refine view_answer_object nofun (fun key e => ?_) ?_
  · exact (Option.some.inj e).symm
  · rw [object?_answer_delete]
    rfl

lemma view_answer_replace {o existing : k.Object} (hn : o.metadata.name = some name)
    (h : s.object? ⟨k, .of ns name⟩ = some existing)
    (same : o.metadata.resourceVersion = existing.metadata.resourceVersion) :
    (s.answer (.cluster k (.replace ns o))).2.view =
      (Effects.atPlace ⟨k, .of ns name⟩ (.set (some (o.placedIn ns)))).act s.view := by
  refine view_answer_object (fun key e => ?_) nofun ?_
  · simp only [ObjectRequest.stores?, hn, Option.map_some] at e
    exact (Option.some.inj e).symm
  · rw [(answer_replace_same hn h same).2]
    rfl

/-- The value of a key is written where there is none. -/
def written (key value : String) : Effects :=
  .ofValues fun k => if normalizeKey key = k then .fill value else .keep

/-- A key and all below it are cleared. -/
def cleared (key : String) : Effects :=
  .ofValues fun k =>
    if k = normalizeKey key ∨ isBelow (normalizeKey key) k = true then .set none else .keep

lemma value_written (key value k : String) (v : View) :
    ((written key value).act v).value k =
      if normalizeKey key = k then some ((v.value k).getD value) else v.value k := by
  simp only [written, Effects.act, Effects.ofValues]
  split
  · rfl
  · rfl

lemma value_cleared (key k : String) (v : View) :
    ((cleared key).act v).value k =
      if k = normalizeKey key ∨ isBelow (normalizeKey key) k = true then none else v.value k := by
  simp only [cleared, Effects.act, Effects.ofValues]
  split
  · rfl
  · rfl

lemma view_answer_write {key value : String} :
    (s.answer (.store (.create key value))).2.view = (written key value).act s.view := by
  refine View.ext rfl (funext fun k => ?_)
  rw [value_written]
  exact s.store.get?_answer_create key value k

lemma view_answer_clear {key : String} :
    (s.answer (.store (.delete key))).2.view = (cleared key).act s.view := by
  refine View.ext rfl (funext fun k => ?_)
  rw [value_cleared]
  split
  · exact KeyTree.get?_answer_delete ‹_›
  · rename_i apart
    obtain ⟨own, above⟩ := not_or.1 apart
    exact KeyTree.get?_answer_delete_of_not own (Bool.eq_false_iff.2 above)

end Requests

variable {α β : Type} {fault : Error → Prop} {c d : Effects} {good : α → Prop} {a : OperatorAction α}

/-- An operation has some effects while nobody else is at work: if it has a result, that is a good one
and the effects are there. A failure is one of some faults, and interrupts the effects. -/
def Makes (fault : Error → Prop) (c : Effects) (good : α → Prop) (a : OperatorAction α) : Prop :=
  ∀ s : MemoryServices, Ensures (environment fault nobody) (fun _ _ => True)
    (fun x t => good x ∧ t.view = c.act s.view) (fun e t => fault e ∧ c.Begun s.view t.view) a s

namespace Makes

lemma pure {x : α} (h : good x) : Makes fault .nothing good (return x : OperatorAction α) :=
  fun _ => ensures_pure ⟨h, rfl⟩

/-- One operation after another. -/
lemma next {f : α → OperatorAction β} {good' : β → Prop} (h : Makes fault c good a)
    (h' : ∀ x, good x → Makes fault d good' (f x)) : Makes fault (c.andThen d) good' (a >>= f) := by
  refine fun s => ensures_bind ((h s).post ?_ ?_)
  · rintro x t ⟨hx, e⟩
    refine (h' x hx t).post ?_ ?_
    · rintro y u ⟨hy, e'⟩
      exact ⟨hy, e'.trans (e ▸ (Effects.act_andThen c d s.view).symm)⟩
    · rintro err u ⟨he, b⟩
      exact ⟨he, .second (e ▸ b)⟩
  · rintro err t ⟨he, b⟩
    exact ⟨he, b.first⟩

/-- A known result in place of the operation's own. -/
lemma result {x : β} {good' : β → Prop} (h : Makes fault c good a) (hx : good' x) :
    Makes fault c good' (do let _ ← a; return x) := by
  have made := h.next fun _ _ => pure hx
  rwa [Effects.andThen_nothing] at made

/-- Where the effects have been interrupted, they are brought about from their beginning. -/
lemma again (h : Makes fault c good a) {s t : MemoryServices} (e : c.act t.view = c.act s.view) :
    Ensures (environment fault nobody) (fun _ _ => True) (fun x u => good x ∧ u.view = c.act s.view)
      (fun err u => fault err ∧ c.act u.view = c.act s.view) a t := by
  refine (h t).post ?_ ?_
  · rintro x u ⟨hx, e'⟩
    exact ⟨hx, e'.trans e⟩
  · rintro err u ⟨he, b⟩
    exact ⟨he, b.resumed.trans e⟩

/-- However often it is repeated, an operation comes to what it comes to at once. -/
theorem retry (h : Makes fault c good a) (policy : BackoffPolicy) (s : MemoryServices) :
    Ensures (environment fault nobody) (fun _ _ => True) (fun x u => good x ∧ u.view = c.act s.view)
      (fun err _ => fault err) (a.retry policy) s := by
  have repeated : Ensures (environment fault nobody) (fun _ _ => True)
      (fun x u => good x ∧ u.view = c.act s.view)
      (fun err u => fault err ∧ c.act u.view = c.act s.view) (a.retry policy) s :=
    Action.ensures_retry_again (fun t e => h.again e) (fun _ _ p => p.2) rfl
  exact repeated.post (fun _ _ p => p) fun _ _ p => p.1

end Makes

section Rules

variable {k : Kind} {ns : Option String} {name : String}

/-- A request to the cluster that is refused only where its effects are there already. -/
lemma ensures_requestMade {request : ObjectRequest k.Body} {p : Error → Bool} {g : request.Reply → α}
    {y : α} {s : MemoryServices} (silent : ∀ e, fault e → p e = false)
    (made : (s.answer (.cluster k request)).2.view = c.act s.view)
    (refused : ∀ e, (s.answer (.cluster k request)).1 = .error e → p e = true) :
    Ensures (environment fault nobody) (fun _ _ => True) (fun _ t => True ∧ t.view = c.act s.view)
      (fun e t => fault e ∧ c.Begun s.view t.view)
      (Action.orElseIf (do return g (← OperatorAction.ofObject k request)) p y) s := by
  refine Action.ensures_orElseIf (ensures_bind (ensures_request (I := (· = s)) settled_nobody rfl
    (fun _ _ => trivial) ?_ ?_))
  · rintro t rfl
    cases h : (t.answer (.cluster k request)).1 with
    | ok x => exact ensures_pure ⟨trivial, made⟩
    | error e =>
      show if p e then _ else _
      rw [if_pos (refused e h)]
      exact ⟨trivial, made⟩
  · rintro e t he rfl
    simp only [silent e he, Bool.false_eq_true, if_false]
    exact ⟨⟨he, .none⟩, he, made ▸ .all⟩

/-- A request to the store that is refused only where its effects are there already. -/
lemma makes_storeRequest {r : StoreRequest} {p : Error → Bool} {y : r.Reply}
    (silent : ∀ e, fault e → p e = false)
    (made : ∀ s : MemoryServices, (s.answer (.store r)).2.view = c.act s.view)
    (refused : ∀ (s : MemoryServices) e, (s.answer (.store r)).1 = .error e → p e = true) :
    Makes fault c (fun _ => True) (Action.orElseIf (OperatorAction.ofStore r) p y) := by
  refine fun s => Action.ensures_orElseIf (ensures_storeRequest (I := (· = s)) settled_nobody rfl
    (fun _ _ => trivial) ?_ ?_)
  · rintro t rfl
    have done := made t
    cases h : (t.answer (.store r)).1 with
    | ok x => exact ⟨trivial, done⟩
    | error e =>
      show if p e then _ else _
      rw [if_pos (refused t e h)]
      exact ⟨trivial, done⟩
  · rintro e t he rfl
    simp only [silent e he, Bool.false_eq_true, if_false]
    exact ⟨⟨he, .none⟩, he, made t ▸ .all⟩

/-- The replacement of an object that has been read takes its place. -/
lemma ensures_replaced {allowed : OperatorCall → MemoryServices → Prop} {o existing : k.Object}
    (ha : ∀ t, allowed (.cluster k (.replace ns o)) t) (hn : o.metadata.name = some name)
    {s : MemoryServices} (h : s.object? ⟨k, .of ns name⟩ = some existing)
    (same : o.metadata.resourceVersion = existing.metadata.resourceVersion) :
    Ensures (environment fault nobody) allowed
      (fun _ t => t.view =
        (Effects.atPlace ⟨k, .of ns name⟩ (.set (some (o.placedIn ns)))).act s.view)
      (fun e t => fault e ∧
        (Effects.atPlace ⟨k, .of ns name⟩ (.set (some (o.placedIn ns)))).Begun s.view t.view)
      (k.replace ns o) s := by
  have stored := (answer_replace_same hn h same).1
  have made := view_answer_replace hn h same
  refine ensures_request (I := (· = s)) settled_nobody rfl (fun t _ => ha t) ?_ ?_
  · rintro t rfl
    rw [stored]
    exact made
  · rintro e t he rfl
    exact ⟨⟨he, .none⟩, he, made ▸ .all⟩

variable (silent : ∀ e, fault e → e.IsSilent)

include silent

/-- What a creation comes to in a state. -/
lemma ensures_created {o : k.Object} (hn : o.metadata.name = some name) {s : MemoryServices}
    (made : (Effects.atPlace ⟨k, .of ns name⟩ (.fill (o.placedIn ns))).act s.view = c.act s.view) :
    Ensures (environment fault nobody) (fun _ _ => True) (fun _ t => True ∧ t.view = c.act s.view)
      (fun e t => fault e ∧ c.Begun s.view t.view) (k.createIfMissing ns o) s := by
  refine ensures_requestMade (fun e he => (silent e he).2) ((view_answer_create hn).trans made)
    fun e h => ?_
  obtain h' | h' := (s.cluster.table k).answer_create_cases ns hn
  · exact nomatch h.symm.trans h'
  · cases h.symm.trans h'
    rfl

/-- A creation fills a place. -/
lemma makes_createIfMissing {o : k.Object} (hn : o.metadata.name = some name) :
    Makes fault (.atPlace ⟨k, .of ns name⟩ (.fill (o.placedIn ns))) (fun _ => True)
      (k.createIfMissing ns o) :=
  fun _ => ensures_created silent hn rfl

/-- A deletion empties a place. -/
lemma makes_deleteIfExists :
    Makes fault (.atPlace ⟨k, .of ns name⟩ (.set none)) (fun _ => True) (k.deleteIfExists ns name) := by
  intro s
  refine ensures_requestMade (fun e he => (silent e he).1) view_answer_delete fun e h => ?_
  have answered : ((s.cluster.table k).delete ns name).1 = .error e := h
  obtain ⟨-, h'⟩ | h' := (s.cluster.table k).delete_cases ns name
  · rw [h'] at answered
    cases answered
    rfl
  · rw [h'] at answered
    cases answered

end Rules

end MemoryServices

end TenantOverlay
