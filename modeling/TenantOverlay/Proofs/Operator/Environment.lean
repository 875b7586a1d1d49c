import TenantOverlay.Proofs.Operator.Memory
import TenantOverlay.Proofs.Program.Fallible
import TenantOverlay.Rehearsal.Basic

/-!
# The services in memory as an environment

`MemoryServices.environment` answers the operator's calls from a cluster and a store in memory,
while calls may fail and others may change things. A failed call has either done its work or not.

What a program leaves alone can be read off its footprint (`keeps_object`, `Quiet.keeps_lacks`). Each
operation of the operator has one rule here that says what its success means: `ensures_get`,
`ensures_list`, `ensures_createIfMissing`, `ensures_replace`, `ensures_deleteIfExists`.
-/

namespace TenantOverlay

/-- An error that tells nothing about what exists. -/
def Error.IsSilent (e : Error) : Prop := e.isNotFound = false ∧ e.isAlreadyExists = false

namespace MemoryServices

open Fallible

/-- The services in memory, while calls may fail with some errors, before or after they have done
their work, and others may do something between two calls. -/
def environment (fault : Error → Prop) (others : MemoryServices → MemoryServices → Prop) :
    Environment services MemoryServices where
  answers c s x t :=
    (x, t) = s.answer c ∨ ∃ e, fault e ∧ x = c.failed e ∧ (t = s ∨ t = (s.answer c).2)
  meanwhile := Relation.ReflTransGen others
  refl _ := .refl
  trans := .trans

/-- Others leave a condition true. -/
def Settled (others : MemoryServices → MemoryServices → Prop) (I : MemoryServices → Prop) : Prop :=
  ∀ s t, others s t → I s → I t

/-- Failures tell nothing about what exists, and others leave alone the store and the kinds of
objects that a network has. -/
structure Quiet (fault : Error → Prop) (others : MemoryServices → MemoryServices → Prop) :
    Prop where
  notFound {e : Error} : fault e → e.isNotFound = false
  alreadyExists {e : Error} : fault e → e.isAlreadyExists = false
  table {s t : MemoryServices} {k : Kind} : others s t → k.isOfNetwork = true →
    t.cluster.table k = s.cluster.table k
  store {s t : MemoryServices} : others s t → t.store = s.store

variable {fault : Error → Prop} {others : MemoryServices → MemoryServices → Prop}
  {allowed : OperatorCall → MemoryServices → Prop} {I : MemoryServices → Prop}
  {s : MemoryServices} {p : Place} {f : Footprint}

lemma Settled.meanwhile (hI : Settled others I) {s t : MemoryServices}
    (m : (environment fault others).meanwhile s t) (h : I s) : I t := by
  induction m with
  | refl => exact h
  | tail _ o ih => exact hI _ _ o ih

/-- What a judgment says of a result holds at the end of an execution that has come to it. -/
lemma result_of_reaches {α ε : Type} {ok : α → MemoryServices → Prop}
    {fail : ε → MemoryServices → Prop} {a : Fallible services ε α} {x : α} {t : MemoryServices}
    (e : Ensures (environment fault others) allowed ok fail a s) (settled : ∀ x, Settled others (ok x))
    (reached : Program.Reaches (environment fault others) (a.run, s) (.done (.ok x), t)) : ok x t := by
  have anyFailure : Ensures (environment fault others) allowed ok (fun _ _ => True) a s :=
    e.post (fun _ _ h => h) fun _ _ _ => trivial
  refine Program.Ensures.reaches anyFailure (fun r s t m h => ?_) reached
  cases r with
  | ok x => exact (settled x).meanwhile m h
  | error _ => trivial

/-- Nobody else is at work. -/
def nobody (_ _ : MemoryServices) : Prop := False

lemma settled_nobody : Settled nobody I := fun _ _ o => o.elim

/-- While nobody else is at work nothing changes between two calls. -/
lemma eq_of_meanwhile {s t : MemoryServices} (m : (environment fault nobody).meanwhile s t) : t = s :=
  settled_nobody.meanwhile (I := (· = s)) m rfl

/-- Others make any calls. -/
def anyone (s t : MemoryServices) : Prop := ∃ c : OperatorCall, t = (s.answer c).2

/-- What every call leaves true stays true. -/
lemma settled_anyone (h : ∀ s (c : OperatorCall), I s → I (s.answer c).2) : Settled anyone I := by
  rintro s t ⟨c, rfl⟩ before
  exact h s c before

/-- No call fails, and nobody else is at work. -/
abbrev reliable : Environment services MemoryServices := environment (fun _ => False) nobody

/-- Whatever a judgment says holds at the end of an execution while nobody else is at work. -/
lemma outcome_of_reaches {α ε : Type} {ok : α → MemoryServices → Prop}
    {fail : ε → MemoryServices → Prop} {a : Fallible services ε α} {r : Except ε α}
    {t : MemoryServices} (e : Ensures (environment fault nobody) allowed ok fail a s)
    (reached : Program.Reaches (environment fault nobody) (a.run, s) (.done r, t)) :
    Outcome ok fail r t :=
  Program.Ensures.reaches e (fun r _ _ m h => settled_nobody.meanwhile (I := Outcome ok fail r) m h)
    reached

lemma quiet_nobody : Quiet Error.IsSilent nobody where
  notFound e := e.1
  alreadyExists e := e.2
  table o := o.elim
  store o := o.elim

lemma settled_true : Settled others fun _ => True := fun _ _ _ _ => trivial

lemma Settled.and {J : MemoryServices → Prop} (hI : Settled others I) (hJ : Settled others J) :
    Settled others fun s => I s ∧ J s :=
  fun s t o h => ⟨hI s t o h.1, hJ s t o h.2⟩

lemma Quiet.object? (q : Quiet fault others) (hp : p.kind.isOfNetwork = true)
    {s t : MemoryServices} (o : others s t) : t.object? p = s.object? p := by
  unfold MemoryServices.object?
  rw [q.table o hp]

/-- Whatever holds of an object of the network goes on to hold. -/
lemma Quiet.settled_object (q : Quiet fault others) (p : Place) (P : Option p.kind.Object → Prop)
    (hp : p.kind.isOfNetwork = true) : Settled others fun s => P (s.object? p) := by
  intro s t o h
  rw [q.object? hp o]
  exact h

lemma Quiet.settled_filed (q : Quiet fault others) {k : Kind} (hk : k.isOfNetwork = true) :
    Settled others fun s => (s.cluster.table k).Filed := by
  intro s t o h
  rw [q.table o hk]
  exact h

/-- Whatever comes of a call, it has done its work or nothing. -/
lemma state_of_answers {c : OperatorCall} {x : services.Answer c} {t : MemoryServices}
    (a : (environment fault others).answers c s x t) : t = s ∨ t = (s.answer c).2 := by
  rcases a with answered | ⟨_, -, -, same | done⟩
  · exact .inr (congrArg Prod.snd answered)
  · exact .inl same
  · exact .inr done

/-- A condition is kept when the others keep it and every allowed call does. -/
lemma environment_keeps (hI : Settled others I)
    (hc : ∀ c s, allowed c s → I s → I (s.answer c).2) :
    (environment fault others).Keeps allowed I where
  meanwhile m h := hI.meanwhile m h
  call {c s t x} a r h := by
    rcases state_of_answers r with rfl | rfl
    · exact h
    · exact hc c s a h

/-- Executions while nobody else is at work lead from states that can come about to such states. -/
lemma Reachable.reaches {α : Type} {p p' : Program services.withRuntime α} {t : MemoryServices}
    (h : s.Reachable) (r : Program.Reaches (environment fault nobody) (p, s) (p', t)) : t.Reachable := by
  generalize hb : (p', t) = b at r
  induction r generalizing p' t with
  | refl =>
    cases hb
    exact h
  | @tail b d _ st ih =>
    obtain ⟨q, u⟩ := b
    have before := ih rfl
    subst hb
    cases st with
    | meanwhile m => exact settled_nobody.meanwhile m before
    | @outside c _ x _ _ a =>
      rcases state_of_answers a with rfl | rfl
      · exact before
      · exact before.answer c
    | repetitions n => exact before
    | record => exact before

section Undisturbed

variable {α : Type} {p : Program services.withRuntime α}

/-- What a program comes to when nothing fails and nobody else is at work. -/
def undisturbed (p : Program services.withRuntime α) (s : MemoryServices) :
    Program services.withRuntime α × MemoryServices :=
  p.runTo MemoryServices.answer (fun _ => false) s

lemma answers_answer (c : OperatorCall) (s : MemoryServices) :
    (environment fault others).answers c s (s.answer c).1 (s.answer c).2 := .inl rfl

lemma reaches_undisturbed {a : α} (done : (undisturbed p s).1.result? = some a) :
    Program.Reaches (environment fault others) (p, s) (.done a, (undisturbed p s).2) :=
  Program.reaches_result answers_answer done

/-- Every program comes to an end when nothing fails and nobody else is at work. -/
lemma exists_reaches_reliable (p : Program services.withRuntime α) (s : MemoryServices) :
    ∃ a t, Program.Reaches reliable (p, s) (.done a, t) := by
  obtain ⟨a, t, e⟩ := Program.exists_result MemoryServices.answer p s
  refine ⟨a, t, ?_⟩
  rw [← e]
  exact Program.reaches_runTo answers_answer _ p s

lemma Reachable.undisturbed (h : s.Reachable) : (undisturbed p s).2.Reachable := by
  have reached : Program.Reaches (environment Error.IsSilent nobody) (p, s)
      (MemoryServices.undisturbed p s) := Program.reaches_runTo answers_answer _ _ _
  exact h.reaches reached

end Undisturbed

lemma Quiet.keeps_filed (q : Quiet fault others) {k : Kind} (hk : k.isOfNetwork = true) :
    (environment fault others).Keeps allowed fun s => (s.cluster.table k).Filed :=
  environment_keeps (q.settled_filed hk) fun c _ _ h => filed_answer h c

/-- Whatever holds of an object goes on to hold if nobody touches its place. -/
lemma keeps_object (P : Option p.kind.Object → Prop) (hI : Settled others fun s => P (s.object? p))
    (hs : p ∉ f.stores) (hd : p ∉ f.deletes) :
    (environment fault others).Keeps (fun c _ => f.Covers c) fun s => P (s.object? p) := by
  refine environment_keeps hI fun c s a h => ?_
  rw [object?_answer (fun e => hs (a.stores e)) fun e => hd (a.deletes e)]
  exact h

/-- Objects at none of some places are as they were. -/
def SameOutside (places : List Place) (s t : MemoryServices) : Prop :=
  ∀ p, p ∉ places → t.object? p = s.object? p

lemma keeps_sameOutside {places : List Place} (hI : Settled others (SameOutside places s))
    (hs : f.stores ⊆ places) (hd : f.deletes ⊆ places) :
    (environment fault others).Keeps (fun c _ => f.Covers c) (SameOutside places s) := by
  refine environment_keeps hI fun c t a h p outside => ?_
  exact (object?_answer (fun e => outside (hs (a.stores e))) fun e =>
    outside (hd (a.deletes e))).trans (h p outside)

section Rules

variable {k : Kind} {ns : Option String} {name : String}

/-- A request to the cluster, made while a condition holds. -/
lemma ensures_request {request : ObjectRequest k.Body} {ok : request.Reply → MemoryServices → Prop}
    {fail : Error → MemoryServices → Prop} (hI : Settled others I) (h : I s)
    (ha : ∀ t, I t → allowed (.cluster k request) t)
    (hr : ∀ t, I t → Outcome ok fail (t.answer (.cluster k request)).1
      (t.answer (.cluster k request)).2)
    (hf : ∀ e t, fault e → I t → fail e t ∧ fail e (t.answer (.cluster k request)).2) :
    Ensures (environment fault others) allowed ok fail (OperatorAction.ofObject k request) s := by
  refine OperatorAction.ensures_ofObject fun t m => ?_
  have ht := hI.meanwhile m h
  refine ⟨ha t ht, fun x u r => ?_⟩
  obtain r | ⟨e, he, rfl, rfl | rfl⟩ := r
  · have h := hr t ht
    rw [← r] at h
    exact h
  · exact (hf e u he ht).1
  · exact (hf e t he ht).2

/-- A request to the store, made while a condition holds. -/
lemma ensures_storeRequest {r : StoreRequest} {ok : r.Reply → MemoryServices → Prop}
    {fail : Error → MemoryServices → Prop} (hI : Settled others I) (h : I s)
    (ha : ∀ t, I t → allowed (.store r) t)
    (hr : ∀ t, I t → Outcome ok fail (t.answer (.store r)).1 (t.answer (.store r)).2)
    (hf : ∀ e t, fault e → I t → fail e t ∧ fail e (t.answer (.store r)).2) :
    Ensures (environment fault others) allowed ok fail (OperatorAction.ofStore r) s := by
  refine OperatorAction.ensures_ofStore fun t m => ?_
  have ht := hI.meanwhile m h
  refine ⟨ha t ht, fun x u a => ?_⟩
  obtain a | ⟨e, he, rfl, rfl | rfl⟩ := a
  · have h := hr t ht
    rw [← a] at h
    exact h
  · exact (hf e u he ht).1
  · exact (hf e t he ht).2

/-- The object of a name. -/
lemma ensures_get (hI : Settled others I) (h : I s)
    (ha : ∀ t, I t → allowed (.cluster k (.get ns name)) t) :
    Ensures (environment fault others) allowed (fun v t => v = t.object? ⟨k, .of ns name⟩ ∧ I t)
      (fun _ => I) (k.get ns name) s := by
  refine ensures_request hI h ha (fun t ht => ?_) fun e t _ ht => ?_
  · rw [answer_get]
    exact ⟨rfl, ht⟩
  · rw [answer_get]
    exact ⟨ht, ht⟩

/-- The object of a name while nobody else is at work. -/
lemma ensures_getAlone (ha : ∀ t, allowed (.cluster k (.get ns name)) t) :
    Ensures (environment fault nobody) allowed
      (fun v t => v = s.object? ⟨k, .of ns name⟩ ∧ t = s) (fun e t => fault e ∧ t = s)
      (k.get ns name) s := by
  refine ensures_request (I := (· = s)) settled_nobody rfl (fun t _ => ha t) ?_ ?_
  · rintro t rfl
    rw [answer_get]
    exact ⟨rfl, rfl⟩
  · rintro e t he rfl
    rw [answer_get]
    exact ⟨⟨he, rfl⟩, he, rfl⟩

lemma ensures_list {selector : Option String} (hI : Settled others I) (h : I s)
    (ha : ∀ t, I t → allowed (.cluster k (.list ns selector)) t) :
    Ensures (environment fault others) allowed (fun _ => I) (fun _ => I) (k.list ns selector) s := by
  refine ensures_request hI h ha (fun t ht => ?_) fun e t _ ht => ?_
  · rw [answer_list]
    exact ht
  · rw [answer_list]
    exact ⟨ht, ht⟩

/-- After a deletion there is no object, unless a failure says nothing. -/
lemma ensures_deleteIfExists (hq : ∀ e, fault e → e.isNotFound = false)
    (ha : ∀ t, allowed (.cluster k (.delete ns name)) t) :
    Ensures (environment fault others) allowed (fun _ t => t.object? ⟨k, .of ns name⟩ = none)
      (fun _ _ => True) (k.deleteIfExists ns name) s := by
  refine Action.ensures_orElseIf (ensures_bind (ensures_request settled_true trivial (fun t _ => ha t) ?_ ?_))
  · intro t _
    have absent := t.object?_answer_delete k ns name
    cases (t.answer (.cluster k (.delete ns name))).1 with
    | ok _ => exact ensures_pure absent
    | error e =>
      show if e.isNotFound then _ else True
      split
      · exact absent
      · trivial
  · intro e t he _
    simp only [hq e he, Bool.false_eq_true, if_false, and_self]

/-- After a creation there is an object, and it is as the ones that might be there and the new one
are. -/
lemma ensures_createIfMissing {o : k.Object} {Good : k.Object → Prop}
    (hI : Settled others fun s => ∀ v, s.object? ⟨k, .of ns name⟩ = some v → Good v)
    (hq : ∀ e, fault e → e.isAlreadyExists = false) (hn : o.metadata.name = some name)
    (hg : ∀ t : ObjectTable k.Body, Good (t.stamped ns o))
    (ha : ∀ t, allowed (.cluster k (.create ns o)) t)
    (h : ∀ v, s.object? ⟨k, .of ns name⟩ = some v → Good v) :
    Ensures (environment fault others) allowed
      (fun _ t => ∃ v, t.object? ⟨k, .of ns name⟩ = some v ∧ Good v)
      (fun _ t => ∀ v, t.object? ⟨k, .of ns name⟩ = some v → Good v) (k.createIfMissing ns o) s := by
  have created (t : MemoryServices) (ht : ∀ v, t.object? ⟨k, .of ns name⟩ = some v → Good v) :
      ∃ v, (t.answer (.cluster k (.create ns o))).2.object? ⟨k, .of ns name⟩ = some v ∧ Good v := by
    refine ⟨_, object?_answer_create hn, ?_⟩
    cases e : t.object? ⟨k, .of ns name⟩ with
    | none => exact hg _
    | some v => exact ht v e
  have good (t : MemoryServices) (ht : ∀ v, t.object? ⟨k, .of ns name⟩ = some v → Good v) (v)
      (e : (t.answer (.cluster k (.create ns o))).2.object? ⟨k, .of ns name⟩ = some v) : Good v := by
    obtain ⟨w, e', g⟩ := created t ht
    rw [e] at e'
    cases e'
    exact g
  refine Action.ensures_orElseIf (ensures_bind (ensures_request hI h (fun t _ => ha t) ?_ ?_))
  · intro t ht
    obtain e | e := (t.cluster.table k).answer_create_cases ns hn
    · show Outcome _ _ ((t.cluster.table k).answer (.create ns o)).1 _
      rw [e]
      exact ensures_pure (created t ht)
    · show Outcome _ _ ((t.cluster.table k).answer (.create ns o)).1 _
      rw [e]
      exact created t ht
  · intro e t he ht
    simp only [hq e he, Bool.false_eq_true, if_false]
    exact ⟨ht, good t ht⟩

/-- After a replacement there is the new object. -/
lemma ensures_replace {o : k.Object} (hn : o.metadata.name = some name)
    (ha : ∀ t, allowed (.cluster k (.replace ns o)) t) :
    Ensures (environment fault others) allowed
      (fun v t => t.object? ⟨k, .of ns name⟩ = some v ∧ ∃ t : ObjectTable k.Body, v = t.stamped ns o)
      (fun _ _ => True) (k.replace ns o) s := by
  refine ensures_request settled_true trivial (fun t _ => ha t) (fun t _ => ?_) fun _ _ _ _ =>
    ⟨trivial, trivial⟩
  obtain ⟨e, h⟩ | ⟨h, stored⟩ := answer_replace_cases t ns hn
  · rw [h]
    trivial
  · rw [h]
    exact ⟨stored, _, rfl⟩

end Rules

/-- An object of the network goes on as it is if nobody touches its place. -/
lemma Quiet.keeps_object (q : Quiet fault others) (p : Place) (P : Option p.kind.Object → Prop)
    (hp : p.kind.isOfNetwork = true) (hs : p ∉ f.stores) (hd : p ∉ f.deletes) :
    (environment fault others).Keeps (fun c _ => f.Covers c) fun s => P (s.object? p) :=
  MemoryServices.keeps_object P (q.settled_object p P hp) hs hd

lemma Quiet.settled_store (q : Quiet fault others) (P : KeyTree → Prop) :
    Settled others fun s => P s.store := by
  intro s t o h
  rw [q.store o]
  exact h

/-- What holds of the value of a key goes on to hold if it holds of what is written there. -/
lemma Quiet.keeps_value (q : Quiet fault others) {key : String} {R : String → Prop}
    (hw : ∀ value, (key, value) ∈ f.writes → R value) :
    (environment fault others).Keeps (fun c _ => f.Covers c) fun s =>
      ∀ value, s.store.get? key = some value → R value := by
  refine environment_keeps (q.settled_store fun t => ∀ value, t.get? key = some value → R value)
    fun c s a h value e => ?_
  obtain e | e := store_get?_answer_eq_some e
  · exact h value e
  · exact hw value (a.writes e)

/-- A key without a value goes on without one if nobody writes there. -/
lemma Quiet.keeps_noValue (q : Quiet fault others) {key : String} (hw : f.writes = []) :
    (environment fault others).Keeps (fun c _ => f.Covers c) fun s => s.store.get? key = none := by
  have kept := q.keeps_value (f := f) (R := fun _ => False) fun value (m : (key, value) ∈ f.writes) => by
    rw [hw] at m
    cases m
  simpa only [imp_false, ← Option.eq_none_iff_forall_ne_some] using kept

/-- Places stay empty if nobody stores an object there. -/
lemma Quiet.keeps_lacks (q : Quiet fault others) (places : List Place)
    (hp : ∀ p ∈ places, p.kind.isOfNetwork = true) (hs : ∀ p ∈ places, p ∉ f.stores) :
    (environment fault others).Keeps (fun c _ => f.Covers c) fun s => s.Lacks places := by
  refine environment_keeps (fun s t o h p m => ?_) fun c s a h p m => ?_
  · rw [q.object? (hp p m) o]
    exact h p m
  · exact object?_answer_of_none (fun e => hs p m (a.stores e)) (h p m)

/-- A deletion after other ones, where nothing is stored. -/
lemma Quiet.ensures_deleteNext (q : Quiet fault others) {k : Kind} {ns : Option String}
    {name : String} {places : List Place} (hp : ∀ p ∈ places, p.kind.isOfNetwork = true)
    (hs : f.stores = []) (hd : ⟨k, .of ns name⟩ ∈ f.deletes) (h : s.Lacks places) :
    Ensures (environment fault others) (fun c _ => f.Covers c)
      (fun _ t => t.Lacks (places ++ [⟨k, .of ns name⟩])) (fun _ _ => True)
      (k.deleteIfExists ns name) s := by
  have kept := q.keeps_lacks places hp fun p _ m => List.not_mem_nil (hs ▸ m)
  have deleted : Ensures (environment fault others) (fun c _ => f.Covers c) _ _
      (k.deleteIfExists ns name) s :=
    ensures_deleteIfExists (fun _ => q.notFound) fun _ => Footprint.covers_delete hd
  refine (deleted.carry kept h).post ?_ fun _ _ _ => trivial
  -- The places before stay empty, and the new one is empty after its deletion.
  rintro _ t ⟨gone, before⟩ p m
  obtain m | m := List.mem_append.1 m
  · exact before p m
  · obtain rfl := List.mem_singleton.1 m
    exact gone

end MemoryServices

end TenantOverlay
