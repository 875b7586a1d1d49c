import Mathlib.Data.List.Infix
import TenantOverlay.Proofs.Metrics.Registry
import TenantOverlay.Proofs.Reconcile.Operations
import TenantOverlay.Rehearsal.Scripted

/-!
# The order of a pass

A pass runs its handlers in the order of their list, and in reverse order for a deleted object. Each of them
performs its tasks in their order, and the first one that does not go on is the last. `IsPass` says what
this means for the parts that the handlers have in a pass, and for its result. The courses of a pass are
the lists of parts for which it holds (`pass_exact`), whatever the answers are; an engine that counts its
passes adds one to the counter of what the pass comes to (`CountsAs`), and to no other.
-/

namespace TenantOverlay

open Fallible

universe u

/-- The part of a handler in a pass: the tasks that it has performed, and what it has come to. -/
structure Part (ι : Type u) (State : ι → Type) (Note : Type) where
  handler : ι
  steps : List (Performed (State handler) Note)
  verdict : Except PassError (Flow Unit)

section Pass

variable {ι : Type u} {State : ι → Type} {Note : Type} {name : ι → String} {deleting : Bool}

variable (name deleting) in
/-- What handlers with names have done in a pass in which they are run in the order of a list, and its
result. -/
structure IsPass (handlers : List ι) (parts : List (Part ι State Note))
    (result : Except PassError PassOutcome) : Prop where
  /-- The handlers are run in their order. -/
  order : parts.map Part.handler <+: handlers
  /-- Each of them performs its tasks in their order. -/
  follows : ∀ p ∈ parts, Follows (name p.handler) deleting p.steps p.verdict
  /-- Nothing is done after a signal or a failure. -/
  goesOn : ∀ p ∈ parts.dropLast, p.verdict = .ok .proceed
  /-- No handler is left out without one. -/
  complete : (∀ p ∈ parts, p.verdict = .ok .proceed) → parts.map Part.handler = handlers
  /-- Living objects are not deleted from, and deleted ones get nothing. -/
  fits : ∀ p ∈ parts, ∀ s ∈ p.steps, s.task.Fits deleting
  done : result = .ok .done ↔ ∀ p ∈ parts, p.verdict = .ok .proceed
  canceled (resource : String) : result = .ok (.canceled resource) ↔
    ∃ p ∈ parts, name p.handler = resource ∧ p.verdict = .ok .cancel
  finalizerKept (resource : String) : result = .ok (.finalizerKept resource) ↔
    ∃ p ∈ parts, name p.handler = resource ∧ p.verdict = .ok .keepFinalizer
  /-- The error of the pass names the handler that has failed, and the stage of the task that has. -/
  failed (e : PassError) : result = .error e ↔ ∃ p ∈ parts, name p.handler = e.resource ∧
    ∃ s ∈ p.steps, s.task.stage = e.stage ∧ s.result = .error e.cause

/-- The result of a pass whose last handler has come to a verdict. -/
def PassOutcome.ofVerdict (resource : String) : Except PassError (Flow Unit) → Except PassError PassOutcome
  | .ok (.continue _) => .ok .done
  | .ok .cancel => .ok (.canceled resource)
  | .ok .keepFinalizer => .ok (.finalizerKept resource)
  | .error e => .error e

variable {handlers : List ι} {parts : List (Part ι State Note)} {result : Except PassError PassOutcome}

lemma IsPass.nil : IsPass name deleting [] ([] : List (Part ι State Note)) (.ok .done) := by
  constructor <;> simp

section Cons

variable {i : ι} {steps : List (Performed (State i) Note)} {v : Except PassError (Flow Unit)}

/-- A handler that gives a signal or fails is the last one. -/
lemma IsPass.last (follows : Follows (name i) deleting steps v) (ends : v ≠ .ok .proceed) :
    IsPass name deleting (i :: handlers) [⟨i, steps, v⟩] (PassOutcome.ofVerdict (name i) v) where
  order := by simp
  follows := by simpa using follows
  goesOn := by simp
  complete := by simp [ends]
  fits := by simpa using follows.fits
  done := by rcases v with e | _ | _ | _ <;> simp [PassOutcome.ofVerdict, Flow.proceed]
  canceled _ := by rcases v with e | _ | _ | _ <;> simp [PassOutcome.ofVerdict]
  finalizerKept _ := by rcases v with e | _ | _ | _ <;> simp [PassOutcome.ofVerdict]
  failed e := by
    have failed := follows.failed_iff (e := e)
    rcases v with e | _ | _ | _ <;> simp_all [PassOutcome.ofVerdict, eq_comm]

lemma mem_dropLast_cons {p q : Part ι State Note} (m : q ∈ parts.dropLast) : q ∈ (p :: parts).dropLast := by
  cases parts with
  | nil => cases m
  | cons _ _ => exact List.mem_cons_of_mem _ m

/-- A handler that goes on has not failed. -/
lemma failed_cons_iff (follows : Follows (name i) deleting steps (.ok .proceed)) {e : PassError} :
    (∃ p ∈ (⟨i, steps, .ok .proceed⟩ :: parts : List (Part ι State Note)), name p.handler = e.resource ∧
        ∃ s ∈ p.steps, s.task.stage = e.stage ∧ s.result = .error e.cause) ↔
      ∃ p ∈ parts, name p.handler = e.resource ∧
        ∃ s ∈ p.steps, s.task.stage = e.stage ∧ s.result = .error e.cause := by
  have unfailed := (follows.failed_iff (e := e)).not.1 nofun
  rw [List.exists_mem_cons_iff]
  exact or_iff_right fun ⟨named, failed⟩ => unfailed ⟨named.symm, failed⟩

/-- After a handler that goes on the other ones are run. -/
lemma isPass_cons_iff (follows : Follows (name i) deleting steps (.ok .proceed)) :
    IsPass name deleting (i :: handlers) (⟨i, steps, .ok .proceed⟩ :: parts) result ↔
      IsPass name deleting handlers parts result := by
  constructor
  · intro h
    exact {
      order := (List.cons_prefix_cons.1 h.order).2
      follows := fun p m => h.follows p (List.mem_cons_of_mem _ m)
      goesOn := fun p m => h.goesOn p (mem_dropLast_cons m)
      complete := by simpa using h.complete
      fits := fun p m => h.fits p (List.mem_cons_of_mem _ m)
      done := by simpa using h.done
      canceled := by simpa [Flow.proceed] using h.canceled
      finalizerKept := by simpa [Flow.proceed] using h.finalizerKept
      failed := fun e => (h.failed e).trans (failed_cons_iff follows) }
  · intro rest
    exact {
      order := List.cons_prefix_cons.2 ⟨rfl, rest.order⟩
      follows := by simpa using ⟨follows, rest.follows⟩
      goesOn := by
        intro p m
        cases parts with
        | nil => cases m
        | cons q parts =>
          obtain rfl | m := List.mem_cons.1 m
          · rfl
          · exact rest.goesOn p m
      complete := by simpa using rest.complete
      fits := by simpa using ⟨follows.fits, rest.fits⟩
      done := by simpa using rest.done
      canceled := by simpa [Flow.proceed] using rest.canceled
      finalizerKept := by simpa [Flow.proceed] using rest.finalizerKept
      failed := fun e => (rest.failed e).trans (failed_cons_iff follows).symm }

/-- The first handler has gone on, and the other ones have been run, or it is the last one. -/
lemma IsPass.cons_cases (h : IsPass name deleting (i :: handlers) parts result) :
    (∃ steps rest, parts = ⟨i, steps, .ok .proceed⟩ :: rest ∧
        Follows (name i) deleting steps (.ok .proceed) ∧ IsPass name deleting handlers rest result) ∨
      ∃ steps v, parts = [⟨i, steps, v⟩] ∧ v ≠ .ok .proceed ∧ Follows (name i) deleting steps v ∧
        result = PassOutcome.ofVerdict (name i) v := by
  cases parts with
  | nil => cases h.complete nofun
  | cons p rest =>
    obtain ⟨j, steps, v⟩ := p
    obtain rfl : j = i := by simpa using (List.cons_prefix_cons.1 h.order).1
    have follows : Follows (name j) deleting steps v := h.follows _ List.mem_cons_self
    by_cases on : v = .ok .proceed
    · subst on
      exact .inl ⟨steps, rest, rfl, follows, (isPass_cons_iff follows).1 h⟩
    · cases rest with
      | cons q rest => exact absurd (h.goesOn _ List.mem_cons_self) on
      | nil =>
        refine .inr ⟨steps, v, rfl, on, follows, ?_⟩
        rcases v with e | _ | _ | _
        · obtain ⟨named, failed⟩ := follows.failed_iff.1 rfl
          exact (h.failed e).2 ⟨_, List.mem_cons_self, named.symm, failed⟩
        · exact absurd rfl on
        · exact (h.canceled (name j)).2 ⟨_, List.mem_cons_self, rfl, rfl⟩
        · exact (h.finalizerKept (name j)).2 ⟨_, List.mem_cons_self, rfl, rfl⟩

end Cons

section Courses

variable {S : Signature} {O : Type} {handler : ι → Handler S O} {o : O}
  {valid : (i : ι) → (t : Task (State i)) → Result t.Answer → Note → Prop}
  {log : (i : ι) → Task (State i) → Note → List (Exchange S.withRuntime)}
  {l : List (Exchange S.withRuntime)}

variable (valid log) in
/-- What has been performed in a pass, as valid notes say, and the course that it makes. -/
structure PassNoted (parts : List (Part ι State Note)) (l : List (Exchange S.withRuntime)) : Prop where
  valid : ∀ p ∈ parts, ∀ s ∈ p.steps, valid p.handler s.task s.result s.note
  log : l = parts.flatMap fun p => p.steps.flatMap fun s => log p.handler s.task s.note

lemma passNoted_nil_iff : PassNoted valid log [] l ↔ l = [] :=
  ⟨fun h => h.log, fun h => ⟨nofun, h⟩⟩

lemma passNoted_cons_iff {p : Part ι State Note} : PassNoted valid log (p :: parts) l ↔
    ∃ first rest, l = first ++ rest ∧ Noted (valid p.handler) (log p.handler) p.steps first ∧
      PassNoted valid log parts rest := by
  constructor
  · rintro ⟨each, rfl⟩
    obtain ⟨first, others⟩ := List.forall_mem_cons.1 each
    exact ⟨_, _, rfl, ⟨first, rfl⟩, others, rfl⟩
  · rintro ⟨_, _, rfl, ⟨first, rfl⟩, others, rfl⟩
    exact ⟨List.forall_mem_cons.2 ⟨first, others⟩, rfl⟩

/-- The courses of handlers that are run in the order of a list, if the courses of each handler are lists of
tasks in their order. -/
theorem course_runHandlers_iff (named : ∀ i, (handler i).name = name i)
    (each : ∀ i l v, Course ((handler i).ensure deleting o) l v ↔
      ∃ steps, Follows (name i) deleting steps v ∧ Noted (valid i) (log i) steps l) :
    Course (runHandlers deleting o (handlers.map handler)) l result ↔
      ∃ parts, IsPass name deleting handlers parts result ∧ PassNoted valid log parts l := by
  induction handlers generalizing l with
  | nil =>
    constructor
    · intro course
      obtain ⟨rfl, rfl⟩ := course_pure_iff.1 course
      exact ⟨[], .nil, passNoted_nil_iff.2 rfl⟩
    · rintro ⟨parts, pass, noted⟩
      obtain rfl : parts = [] := by simpa using pass.order
      obtain rfl := passNoted_nil_iff.1 noted
      exact course_pure_iff.2 ⟨rfl, pass.done.2 nofun⟩
  | cons i handlers ih =>
    constructor
    · intro course
      obtain ⟨e, failed, rfl⟩ | ⟨flow, first, rest, rfl, went, later⟩ := course_bind_iff.1 course
      · obtain ⟨steps, follows, noted⟩ := (each i l _).1 failed
        refine ⟨_, .last follows nofun, passNoted_cons_iff.2 ⟨l, [], ?_, noted, passNoted_nil_iff.2 rfl⟩⟩
        exact (List.append_nil l).symm
      · obtain ⟨steps, follows, noted⟩ := (each i first _).1 went
        cases flow with
        | «continue» _ =>
          obtain ⟨parts, pass, others⟩ := ih.1 later
          exact ⟨_, (isPass_cons_iff follows).2 pass, passNoted_cons_iff.2 ⟨_, _, rfl, noted, others⟩⟩
        | cancel =>
          obtain ⟨rfl, rfl⟩ := course_pure_iff.1 later
          rw [named]
          exact ⟨_, .last follows nofun, passNoted_cons_iff.2 ⟨_, _, rfl, noted, passNoted_nil_iff.2 rfl⟩⟩
        | keepFinalizer =>
          obtain ⟨rfl, rfl⟩ := course_pure_iff.1 later
          rw [named]
          exact ⟨_, .last follows nofun, passNoted_cons_iff.2 ⟨_, _, rfl, noted, passNoted_nil_iff.2 rfl⟩⟩
    · rintro ⟨parts, pass, noted⟩
      obtain ⟨steps, rest, rfl, follows, pass⟩ | ⟨steps, v, rfl, ends, follows, rfl⟩ := pass.cons_cases
      · obtain ⟨first, others, rfl, performed, later⟩ := passNoted_cons_iff.1 noted
        have went := (each i first _).2 ⟨steps, follows, performed⟩
        exact course_bind_iff.2 (.inr ⟨_, first, others, rfl, went, ih.2 ⟨rest, pass, later⟩⟩)
      · obtain ⟨first, others, rfl, performed, none⟩ := passNoted_cons_iff.1 noted
        obtain rfl := passNoted_nil_iff.1 none
        have went := (each i first _).2 ⟨steps, follows, performed⟩
        rcases v with e | _ | _ | _
        · rw [List.append_nil]
          exact course_bind_iff.2 (.inl ⟨e, went, rfl⟩)
        · exact absurd rfl ends
        · exact course_bind_iff.2 (.inr ⟨_, first, [], rfl, went, course_pure_iff.2 ⟨rfl, by rw [named]; rfl⟩⟩)
        · exact course_bind_iff.2 (.inr ⟨_, first, [], rfl, went, course_pure_iff.2 ⟨rfl, by rw [named]; rfl⟩⟩)

/-- A pass runs its handlers in their order, or in reverse order for a deleted object. -/
lemma runPass_map {ι : Type u} (handler : ι → Handler S O) (handlers : List ι) (o : O) (deleting : Bool) :
    runPass (handlers.map handler) o deleting =
      runHandlers deleting o ((if deleting then handlers.reverse else handlers).map handler) := by
  unfold runPass
  cases deleting with
  | true => exact congrArg (runHandlers true o) List.map_reverse.symm
  | false => rfl

/-- The courses of a pass, likewise. -/
theorem course_runPass_iff (named : ∀ i, (handler i).name = name i)
    (each : ∀ i l v, Course ((handler i).ensure deleting o) l v ↔
      ∃ steps, Follows (name i) deleting steps v ∧ Noted (valid i) (log i) steps l) :
    Course (runPass (handlers.map handler) o deleting) l result ↔
      ∃ parts, IsPass name deleting (if deleting then handlers.reverse else handlers) parts result ∧
        PassNoted valid log parts l := by
  rw [runPass_map]
  exact course_runHandlers_iff named each

end Courses

end Pass

section Resources

variable {S : Signature} {O : Type} {o : O} {log : List (Exchange S.withRuntime)}

/-- The counter of what a pass comes to. -/
inductive CountsAs : Except PassError PassOutcome → String → Prop
  | done : CountsAs (.ok .done) "done"
  | canceled (name : String) : CountsAs (.ok (.canceled name)) "canceled"
  | finalizerKept (name : String) : CountsAs (.ok (.finalizerKept name)) "finalizer_kept"
  | failed (e : PassError) : CountsAs (.error e) "failed"

lemma countsAs_iff {result : Except PassError PassOutcome} {counter : String} :
    CountsAs result counter ↔ counter = Engine.label result := by
  constructor
  · intro counts
    cases counts <;> rfl
  · rintro rfl
    rcases result with e | _ | name | name
    · exact .failed e
    · exact .done
    · exact .canceled name
    · exact .finalizerKept name

/-- An engine that counts its passes does so once, after the pass. -/
lemma Engine.course_reconcile_iff [Managed O] {e : Engine S O} {set : ResourceSet S O}
    {outcome : Except PassError (Option PassOutcome)} (counted : e.counted = true)
    (resolved : e.resolve o = some set) :
    Course (e.reconcile o) log outcome ↔ ∃ before result counter,
      Course (runPass set.handlers o (Managed.isDeleted o)) before result ∧ outcome = result.map some ∧
        CountsAs result counter ∧ log = before ++ [⟨.record (.pass counter), ()⟩] := by
  unfold reconcile
  rw [resolved]
  simp only [countsAs_iff]
  constructor
  · intro course
    obtain ⟨result, before, rest, rfl, pass, recorded⟩ := Program.course_bind_iff.1 course
    rw [if_pos counted] at recorded
    cases recorded with
    | call x recorded =>
      obtain ⟨rfl, rfl⟩ := Program.course_done_iff.1 recorded
      exact ⟨before, result, _, pass, rfl, rfl, rfl⟩
  · rintro ⟨before, result, _, pass, rfl, rfl, rfl⟩
    refine Program.course_bind_iff.2 ⟨result, before, _, rfl, pass, ?_⟩
    rw [if_pos counted]
    exact Program.Course.call (S := S.withRuntime) (c := .record (.pass (label result))) ()
      (Program.Course.done _)

/-- The courses of the handler of a resource are those of its tasks. -/
lemma Resource.course_ensure_iff (r : Resource S O) (deleting : Bool) (o : O)
    {v : Except PassError (Flow Unit)} : Course (r.handler.ensure deleting o) log v ↔
      ∃ steps, Follows r.name deleting steps v ∧
        Noted (fun t x l => Course (r.perform o t) l x) (fun _ l => l) steps log := by
  rw [ensure_eq]
  refine course_ensureBy_iff fun t l x => ⟨fun course => ⟨l, course, rfl⟩, ?_⟩
  rintro ⟨_, course, rfl⟩
  exact course

/-- Exactly how a pass goes, whatever comes of each task of its resources; and what an engine that counts
its passes adds to that. -/
theorem pass_exact (rs : List (Resource S O)) (o : O) (deleting : Bool) :
    (∀ log result, Course (runPass (rs.map Resource.handler) o deleting) log result ↔
      ∃ parts : List (Part (Resource S O) Resource.State (List (Exchange S.withRuntime))),
        IsPass Resource.name deleting (if deleting then rs.reverse else rs) parts result ∧
          (∀ p ∈ parts, ∀ s ∈ p.steps, Course (p.handler.perform o s.task) s.note s.result) ∧
          log = parts.flatMap fun p => p.steps.flatMap (·.note)) ∧
    ∀ [Managed O] (e : Engine S O) (set : ResourceSet S O), e.counted = true → e.resolve o = some set →
      set.handlers = rs.map Resource.handler → Managed.isDeleted o = deleting →
      ∀ log outcome, Course (e.reconcile o) log outcome ↔ ∃ before result counter,
        Course (runPass (rs.map Resource.handler) o deleting) before result ∧ outcome = result.map some ∧
          CountsAs result counter ∧ log = before ++ [⟨.record (.pass counter), ()⟩] ∧
          ∀ (registry : Registry) (series : Series), (registry.recordAll (samples log)).value series =
            (registry.recordAll (samples before)).value series +
              if series = ⟨.passes, [("outcome", counter)]⟩ then 1 else 0 := by
  constructor
  · intro log result
    refine (course_runPass_iff (fun _ => rfl) fun r l v => r.course_ensure_iff deleting o).trans ?_
    refine exists_congr fun parts => and_congr_right fun _ => ?_
    exact ⟨fun noted => ⟨noted.valid, noted.log⟩, fun noted => ⟨noted.1, noted.2⟩⟩
  · rintro _ e set counted resolved handlers rfl log outcome
    rw [Engine.course_reconcile_iff counted resolved, handlers]
    refine exists_congr fun before => exists_congr fun result => exists_congr fun counter =>
      and_congr_right fun _ => and_congr_right fun _ => and_congr_right fun _ => ⟨?_, And.left⟩
    rintro rfl
    refine ⟨rfl, fun registry series => ?_⟩
    rw [samples_append, Registry.recordAll_append]
    exact Registry.value_record_pass

end Resources

/-- Two handlers, of which the first fills all slots of its patches and the second keeps the finalizer. -/
def ScriptedHandler.samples : List ScriptedHandler :=
  let all : Patch SlotState := { create := some .desired, update := some .desired, delete := some .current }
  [⟨"network", some "x", [], some all, .plain, .within 5⟩,
    ⟨"cleanup", none, [(.current, [.keepFinalizer])], none, .plain, .within 5⟩]

/-- An engine that counts its passes over these handlers. -/
def Engine.scripted : Engine scriptCalls ScriptedObject where
  routers := [⟨[⟨"1", (ScriptedHandler.samples.mapIdx fun id h => h.resource id).map Resource.handler⟩], none⟩]
  counted := true

/-- The operation of a scripted handler that a call belongs to. -/
def Exchange.scriptedStep? : Exchange scriptCalls.withRuntime → Option (String × HandlerStep)
  | ⟨.outside (.signal _ name step), _⟩ => some (name, step)
  | ⟨.outside _, _⟩ | ⟨.repetitions _, _⟩ | ⟨.record _, _⟩ => none

/-- A pass in which the first handler creates and updates, deletes nothing, and the second ends it. -/
theorem pass_exact_kept :
    ∃ (rs : List (Resource scriptCalls ScriptedObject)) (o : ScriptedObject)
      (set : ResourceSet scriptCalls ScriptedObject) (before : List (Exchange scriptCalls.withRuntime))
      (parts : List (Part _ Resource.State (List (Exchange scriptCalls.withRuntime)))),
      Engine.scripted.counted = true ∧ Engine.scripted.resolve o = some set ∧
      set.handlers = rs.map Resource.handler ∧ Managed.isDeleted o = false ∧
      IsPass Resource.name false rs parts (.ok (.finalizerKept "cleanup")) ∧
      (∀ p ∈ parts, ∀ s ∈ p.steps, Course (p.handler.perform o s.task) s.note s.result) ∧
      (before = parts.flatMap fun p => p.steps.flatMap (·.note)) ∧
      before.filterMap Exchange.scriptedStep? = [("network", .current), ("network", .desired),
        ("network", .updatePatch), ("network", .create), ("network", .update), ("cleanup", .current)] ∧
      Course (Engine.scripted.reconcile o) (before ++ [⟨.record (.pass "finalizer_kept"), ()⟩])
        (.ok (some (.finalizerKept "cleanup"))) := by
  let rs := ScriptedHandler.samples.mapIdx fun id h => h.resource id
  let o : ScriptedObject := ⟨"o", "1", false⟩
  let start : ScriptState := ⟨[((1, .current), [.keepFinalizer])], .empty, .empty, []⟩
  have course := Program.course_of_run ScriptState.answer (Engine.scripted.reconcile o).run start
  have kept : (Program.run ScriptState.answer (Engine.scripted.reconcile o).run start).1 =
      .ok (some (.finalizerKept "cleanup")) := by decide +kernel
  have steps : (Program.trace ScriptState.answer (Engine.scripted.reconcile o).run start).filterMap
      Exchange.scriptedStep? = [("network", .current), ("network", .desired), ("network", .updatePatch),
        ("network", .create), ("network", .update), ("cleanup", .current)] := by decide +kernel
  rw [kept] at course
  obtain ⟨pass, engine⟩ := pass_exact rs o false
  obtain ⟨before, result, counter, went, e, counts, log, -⟩ :=
    (engine Engine.scripted _ rfl rfl rfl rfl _ _).1 course
  obtain rfl : result = .ok (.finalizerKept "cleanup") := by
    cases result with
    | error _ => cases e
    | ok outcome =>
      cases e
      rfl
  obtain rfl : counter = "finalizer_kept" := by
    cases counts
    rfl
  obtain ⟨parts, isPass, performed, flat⟩ := (pass before _).1 went
  rw [log] at course
  rw [log, List.filterMap_append, show List.filterMap Exchange.scriptedStep? [_] = [] from rfl,
    List.append_nil] at steps
  exact ⟨rs, o, _, before, parts, rfl, rfl, rfl, rfl, isPass, performed, flat, steps, course⟩

end TenantOverlay
