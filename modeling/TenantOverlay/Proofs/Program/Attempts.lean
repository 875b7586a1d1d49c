import TenantOverlay.Proofs.Program.Courses
import TenantOverlay.Rehearsal.Attempts

/-!
# The attempts of a repeated operation

Which attempt of an operation is its last depends on the results of the attempts and on the time for them:
`StopsAt` says what it is, with no regard to how operations are repeated. There is no other one
(`StopsAt.unique`), and a time that is not up before the last attempt makes no difference
(`StopsAt.eq_of_never`). A failure ends the attempts if it is one of `Error.IsFatal`. `retry_attempts` says
that a repeated operation makes its attempts one after the other, each in the state that the one before has
left, and comes to the result of the last.
-/

namespace TenantOverlay

/-- The failures that stay whatever is repeated: an invalid configuration, a value of the wrong type, a
request that the cluster API finds malformed or cannot process, and an answer of it that cannot be decoded. -/
inductive Error.IsFatal : Error → Prop where
  | invalidConfig (fault : ConfigFault) : IsFatal (.invalidConfig fault)
  | wrongType (mismatch : Mismatch) : IsFatal (.wrongType mismatch)
  | malformed (reason message : String) : IsFatal (.api (.refused 400 reason message))
  | unprocessable (reason message : String) : IsFatal (.api (.refused 422 reason message))
  | undecodable : IsFatal (.api .undecodable)

theorem Error.isRetryable_iff {e : Error} : e.isRetryable = true ↔ ¬ e.IsFatal := by
  constructor
  · rintro retryable (_ | _ | _ | _ | _)
    all_goals cases retryable
  · intro mild
    cases e with
    | invalidConfig fault => exact absurd (.invalidConfig fault) mild
    | wrongType mismatch => exact absurd (.wrongType mismatch) mild
    | api fault =>
      cases fault with
      | refused code reason message =>
        have malformed : code ≠ 400 := by
          rintro rfl
          exact mild (.malformed reason message)
        have unprocessable : code ≠ 422 := by
          rintro rfl
          exact mild (.unprocessable reason message)
        simp [isRetryable, malformed, unprocessable]
      | undecodable => exact absurd .undecodable mild
      | unformed | other => rfl
    | notFound | alreadyExists | multipleValues | store | timeout | unknown => rfl

variable {S : Signature} {α σ : Type}

/-- A failure that another attempt may cure. -/
def Result.IsCurable (r : Result α) : Prop := ∃ e, r = .error e ∧ ¬ e.IsFatal

/-- The last of the attempts that come to some results, when the time for repetitions is up after the attempt
of a certain index, or never. All attempts before it have failed in a way that another one may cure, and with
time left; if it has failed so itself, the time is up. -/
structure StopsAt (results : Nat → Result α) (budget : Option Nat) (last : Nat) : Prop where
  earlier {i : Nat} : i < last → (results i).IsCurable ∧ budget ≠ some i
  stops : (results last).IsCurable → budget = some last

namespace StopsAt

variable {results : Nat → Result α} {budget : Option Nat} {left m n : Nat}

theorem unique (hm : StopsAt results budget m) (hn : StopsAt results budget n) : m = n := by
  rcases Nat.lt_trichotomy m n with less | same | more
  · obtain ⟨curable, time⟩ := hn.earlier less
    exact absurd (hm.stops curable) time
  · exact same
  · obtain ⟨curable, time⟩ := hm.earlier more
    exact absurd (hn.stops curable) time

/-- A time that is not up before the attempts come to an end by themselves might as well never be up. -/
theorem eq_of_never (hm : StopsAt results (some left) m) (hn : StopsAt results none n) (time : n ≤ left) :
    m = n := by
  rcases Nat.lt_trichotomy m n with less | same | more
  · have up : left = m := Option.some.inj (hm.stops (hn.earlier less).1)
    omega
  · exact same
  · exact absurd (hn.stops (hm.earlier more).1) nofun

/-- One attempt that fails curably, and then others. -/
lemma succ (first : (results 0).IsCurable) (h : StopsAt (fun i => results (i + 1)) (some left) n) :
    StopsAt results (some (left + 1)) (n + 1) where
  earlier {i} less := by
    cases i with
    | zero => exact ⟨first, nofun⟩
    | succ i =>
      obtain ⟨curable, time⟩ := h.earlier (Nat.lt_of_succ_lt_succ less)
      exact ⟨curable, fun e => time (congrArg some (Nat.succ.inj (Option.some.inj e)))⟩
  stops curable := congrArg (some <| · + 1) (Option.some.inj (h.stops curable))

end StopsAt

namespace Action

variable {a : Action S α} {answer : (c : S.withRuntime.Call) → σ → S.withRuntime.Answer c × σ}

/-- The result of the attempt of an index, and the state after it, when an operation is attempted again and
again. -/
def attemptFrom (a : Action S α) (answer : (c : S.withRuntime.Call) → σ → S.withRuntime.Answer c × σ)
    (s : σ) : Nat → Result α × σ
  | 0 => Program.run answer a.run s
  | i + 1 => a.attemptFrom answer (Program.run answer a.run s).2 i

lemma run_attempts_succ_of_curable {left : Nat} {s : σ} (h : Result.IsCurable (Program.run answer a.run s).1) :
    Program.run answer (a.attempts (left + 1)).run s =
      Program.run answer (a.attempts left).run (Program.run answer a.run s).2 := by
  obtain ⟨e, failed, mild⟩ := h
  refine (Program.run_bind answer a.run _ s).trans ?_
  rw [failed]
  dsimp only
  rw [if_pos (Error.isRetryable_iff.2 mild)]

lemma run_attempts_succ_of_not_curable {left : Nat} {s : σ}
    (h : ¬ Result.IsCurable (Program.run answer a.run s).1) :
    Program.run answer (a.attempts (left + 1)).run s = Program.run answer a.run s := by
  refine (Program.run_bind answer a.run _ s).trans ?_
  rcases comes : Program.run answer a.run s with ⟨_ | x, t⟩
  · rename_i e
    rw [comes] at h
    have fatal : ¬ e.isRetryable = true := fun retryable => h ⟨e, rfl, Error.isRetryable_iff.1 retryable⟩
    dsimp only
    rw [if_neg fatal]
    rfl
  · rfl

theorem run_attempts (left : Nat) (s : σ) :
    ∃ last, StopsAt (fun i => (a.attemptFrom answer s i).1) (some left) last ∧
      Program.run answer (a.attempts left).run s = a.attemptFrom answer s last := by
  induction left generalizing s with
  | zero => exact ⟨0, ⟨nofun, fun _ => rfl⟩, rfl⟩
  | succ left ih =>
    by_cases curable : Result.IsCurable (Program.run answer a.run s).1
    · obtain ⟨last, stops, comes⟩ := ih (Program.run answer a.run s).2
      exact ⟨last + 1, stops.succ curable, (run_attempts_succ_of_curable curable).trans comes⟩
    · refine ⟨0, ⟨nofun, fun h => absurd h curable⟩, ?_⟩
      exact run_attempts_succ_of_not_curable curable

/-- A repeated operation asks once how many repetitions there is time for, and makes its attempts. -/
theorem run_retry (a : Action S α) (answer : (c : S.withRuntime.Call) → σ → S.withRuntime.Answer c × σ)
    (policy : BackoffPolicy) (s : σ) :
    ∃ last,
      StopsAt (fun i => (a.attemptFrom answer (answer (.repetitions policy) s).2 i).1)
        (some (answer (.repetitions policy) s).1) last ∧
      Program.run answer (a.retry policy).run s =
        a.attemptFrom answer (answer (.repetitions policy) s).2 last :=
  run_attempts _ _

end Action

namespace Attempts

/-- Attempts come to given results, and there is time for some repetitions. The state counts the attempts. -/
def play (results : Nat → Result α) (left : Nat) :
    (c : (attemptCalls α).withRuntime.Call) → Nat → (attemptCalls α).withRuntime.Answer c × Nat :=
  answerWithRuntime (fun _ made => (results made, made + 1)) fun _ made => (left, made)

/-- What a repeated operation comes to when its attempts come to given results and its policy leaves time for
some repetitions, and how many attempts are made. -/
def played (policy : BackoffPolicy) (results : Nat → Result α) (left : Nat) : Result α × Nat :=
  Program.run (play results left) (attempt.retry policy).run 0

variable {results : Nat → Result α} {left : Nat}

lemma attemptFrom_play (made i : Nat) :
    attempt.attemptFrom (play results left) made i = (results (made + i), made + i + 1) := by
  induction i generalizing made with
  | zero => rfl
  | succ i ih =>
    have next : (Program.run (play results left) (attempt.run) made).2 = made + 1 := rfl
    rw [Action.attemptFrom, next, ih, Nat.add_right_comm, Nat.add_assoc]

theorem exists_played (policy : BackoffPolicy) (results : Nat → Result α) (left : Nat) :
    ∃ last, StopsAt results (some left) last ∧ played policy results left = (results last, last + 1) := by
  have attempts : attempt.attemptFrom (play results left) 0 = fun i => (results i, i + 1) := by
    funext i
    rw [attemptFrom_play, Nat.zero_add]
  obtain ⟨last, stops, comes⟩ := attempt.run_retry (play results left) policy 0
  have time : play results left (.repetitions policy) 0 = (left, (0 : Nat)) := rfl
  rw [time, attempts] at stops comes
  exact ⟨last, stops, comes⟩

end Attempts

open Attempts

/-- Whatever the attempts come to and whenever the time is up, a repeated operation makes its attempts up to
the first that succeeds, fails for good, or fails when the time is up, and comes to the result of that one. If
the time is never up, this is the first that succeeds or fails for good. So does every operation in every
environment, where each attempt starts from the state that the one before has left. -/
theorem retry_attempts (policy : BackoffPolicy) (results : Nat → Result α) :
    (∀ left, ∃ last, StopsAt results (some left) last ∧
      played policy results left = (results last, last + 1)) ∧
    (∀ last, StopsAt results none last → ∀ left, last ≤ left →
      played policy results left = (results last, last + 1)) ∧
    ∀ (a : Action S α) (answer : (c : S.withRuntime.Call) → σ → S.withRuntime.Answer c × σ) (s : σ),
      ∃ last,
        StopsAt (fun i => (a.attemptFrom answer (answer (.repetitions policy) s).2 i).1)
          (some (answer (.repetitions policy) s).1) last ∧
        Program.run answer (a.retry policy).run s =
          a.attemptFrom answer (answer (.repetitions policy) s).2 last := by
  refine ⟨exists_played policy results, fun last never left time => ?_, fun a answer s => ?_⟩
  · obtain ⟨n, stops, comes⟩ := exists_played policy results left
    rwa [stops.eq_of_never never time] at comes
  · exact a.run_retry answer policy s

/-- Two attempts fail in ways that a repetition may cure, and the third succeeds. -/
def Attempts.third : Nat → Result Nat
  | 0 => .error (.store .noEndpoint)
  | 1 => .error (.api (.refused 500 "InternalError" "no leader"))
  | 2 => .ok 7
  | _ + 3 => .error (.unknown "")

/-- With time enough the third attempt is the last. If the time is up after the second, its failure is what
the operation comes to. -/
theorem retry_attempts_third :
    StopsAt third none 2 ∧ played default third 5 = (.ok 7, 3) ∧
      played default third 1 = (.error (.api (.refused 500 "InternalError" "no leader")), 2) := by
  have first : Result.IsCurable (third 0) := ⟨_, rfl, nofun⟩
  have second : Result.IsCurable (third 1) := ⟨_, rfl, nofun⟩
  have never : StopsAt third none 2 := by
    refine ⟨fun {i} less => ?_, nofun⟩
    obtain rfl | rfl : i = 0 ∨ i = 1 := by omega
    · exact ⟨first, nofun⟩
    · exact ⟨second, nofun⟩
  have up : StopsAt third (some 1) 1 := by
    refine ⟨fun {i} less => ?_, fun _ => rfl⟩
    obtain rfl : i = 0 := by omega
    exact ⟨first, nofun⟩
  obtain ⟨budgeted, unbudgeted, -⟩ := retry_attempts (S := attemptCalls Nat) (σ := Nat) default third
  obtain ⟨last, stops, comes⟩ := budgeted 1
  rw [stops.unique up] at comes
  exact ⟨never, unbudgeted 2 never 5 (by decide), comes⟩

end TenantOverlay
