import Mathlib.Tactic.Lemma
import TenantOverlay.Program.Runtime

/-!
# Counts

What a sample does to the values of a registry: it changes those of its own series. So the value of a
series of operations is the number of samples of it (`Registry.value_recordAll`), and a pass that is
counted changes the value of one series (`Registry.value_record_pass`).
-/

namespace TenantOverlay

/-- The series of the operations of a resource that have succeeded or failed. -/
def Series.ofOperation (resource : String) (operation : Operation) (success : Bool) : Series :=
  .operation resource operation.label (if success then "success" else "failure")

lemma Operation.label_injective : Function.Injective Operation.label := by
  intro a b h
  cases a <;> cases b <;> first | rfl | exact absurd h (by decide)

lemma Series.ofOperation_inj {n n' : String} {a a' : Operation} {ok ok' : Bool} :
    ofOperation n a ok = ofOperation n' a' ok' ↔ n = n' ∧ a = a' ∧ ok = ok' := by
  constructor
  · intro h
    simp only [ofOperation, operation, mk.injEq, List.cons.injEq, Prod.mk.injEq, true_and, and_true] at h
    obtain ⟨label, name, result⟩ := h
    refine ⟨name, Operation.label_injective label, ?_⟩
    cases ok <;> cases ok' <;> first | rfl | exact absurd result (by decide)
  · rintro ⟨rfl, rfl, rfl⟩
    rfl

namespace Registry

variable {r : Registry} {s t : Series}

lemma value_change_self {f : Nat → Nat} : (r.change s f).value s = f (r.value s) := by
  have gone : (r.values.filter fun v => v.1 != s).find? (fun v => v.1 == s) = none := by
    rw [List.find?_eq_none]
    intro v m
    simpa using (List.mem_filter.1 m).2
  unfold change value
  rw [List.find?_append, gone]
  simp

lemma value_change_of_ne {f : Nat → Nat} (h : t ≠ s) : (r.change s f).value t = r.value t := by
  have kept : (r.values.filter fun v => v.1 != s).find? (fun v => v.1 == t) =
      r.values.find? fun v => v.1 == t := by
    rw [List.find?_filter]
    refine congrArg (r.values.find? ·) (funext fun v => ?_)
    by_cases found : v.1 = t
    · simp [found, h]
    · simp [found]
  have other : (s == t) = false := by simpa using h.symm
  unfold change value
  rw [List.find?_append, kept]
  simp [other]

/-- A change of the value of a series leaves the other values. -/
lemma value_change {f : Nat → Nat} : (r.change s f).value t = if t = s then f (r.value s) else r.value t := by
  split
  · subst t
    exact value_change_self
  · exact value_change_of_ne ‹_›

/-- A counted pass adds one to the series of its outcome, and to no other. -/
lemma value_record_pass {outcome : String} :
    (r.record (.pass outcome)).value s = r.value s + if s = .pass outcome then 1 else 0 := by
  unfold record
  rw [value_change]
  split
  · subst s
    rfl
  · rfl

/-- A sample adds one to a series of operations if it is of that series. -/
lemma value_record_operation (sample : Sample) {resource : String} {operation : Operation} {success : Bool} :
    (r.record sample).value (.ofOperation resource operation success) =
      r.value (.ofOperation resource operation success) +
        if sample = .operation resource operation success then 1 else 0 := by
  cases sample with
  | operation n a ok =>
    have other : Series.ofOperation resource operation success ≠ .duration n a.label := nofun
    have counted : Series.ofOperation resource operation success = .ofOperation n a ok ↔
        Sample.operation n a ok = .operation resource operation success := by
      rw [Series.ofOperation_inj, Sample.operation.injEq]
      exact ⟨fun ⟨h, h', h''⟩ => ⟨h.symm, h'.symm, h''.symm⟩, fun ⟨h, h', h''⟩ => ⟨h.symm, h'.symm, h''.symm⟩⟩
    show ((r.change (.duration n a.label) (· + 1)).change (.ofOperation n a ok) (· + 1)).value _ = _
    rw [value_change, value_change, value_change, if_neg other]
    by_cases same : Series.ofOperation resource operation success = .ofOperation n a ok
    · rw [if_pos same, if_pos (counted.1 same), ← same, if_neg other]
    · rw [if_neg same, if_neg fun e => same (counted.2 e)]
      rfl
  | pass outcome =>
    rw [value_record_pass, if_neg nofun, if_neg nofun]
  | version v =>
    show (r.change (.version v) _).value _ = _
    rw [value_change, if_neg nofun, if_neg nofun]
    rfl

/-- Counts some samples. -/
def recordAll (r : Registry) (samples : List Sample) : Registry := samples.foldl record r

lemma recordAll_append (samples more : List Sample) :
    r.recordAll (samples ++ more) = (r.recordAll samples).recordAll more :=
  List.foldl_append

/-- The value of a series of operations grows by the number of its samples. -/
theorem value_recordAll {samples : List Sample} {resource : String} {operation : Operation} {success : Bool} :
    (r.recordAll samples).value (.ofOperation resource operation success) =
      r.value (.ofOperation resource operation success) +
        samples.count (.operation resource operation success) := by
  induction samples generalizing r with
  | nil => rfl
  | cons sample rest ih =>
    show ((r.record sample).recordAll rest).value _ = _
    rw [ih, value_record_operation, List.count_cons]
    simp only [beq_iff_eq]
    omega

end Registry

end TenantOverlay
