import TenantOverlay.Operator.Calls
import TenantOverlay.Proofs.Program.Environment

/-!
# Fallible programs in an environment

`Fallible.Ensures` is the judgment of `Program.Ensures` for a program that can fail, with one
postcondition for its result and one for its error. There is a rule for each way in which the
operator's operations are put together: sequence, failure, repetition, counting, and failures that
are answers. A repeated operation needs only that a failed attempt leaves its precondition true
(`ensures_retry_again`); counting changes nothing (`ensures_counted`). `CallsOnly` is the judgment
that asks for nothing but a kind of calls.
-/

namespace TenantOverlay

variable {S : Signature} {σ α β ε δ : Type}

/-- A condition on what a fallible program comes to: one on results, one on errors. -/
def Outcome (ok : α → σ → Prop) (fail : ε → σ → Prop) : Except ε α → σ → Prop
  | .ok x => ok x
  | .error e => fail e

namespace Fallible

variable {env : Environment S σ} {allowed allowed' : S.Call → σ → Prop}
  {ok ok' : α → σ → Prop} {fail fail' : ε → σ → Prop} {a : Fallible S ε α} {s : σ}

/-- Whatever the answers, the program makes only allowed calls, its result satisfies `ok`, and its
error, if it fails, satisfies `fail`. -/
def Ensures (env : Environment S σ) (allowed : S.Call → σ → Prop) (ok : α → σ → Prop)
    (fail : ε → σ → Prop) (a : Fallible S ε α) (s : σ) : Prop :=
  Program.Ensures env allowed (Outcome ok fail) a.run s

lemma Ensures.mono (e : Ensures env allowed ok fail a s)
    (ha : ∀ c s, allowed c s → allowed' c s) (ho : ∀ x s, ok x s → ok' x s)
    (hf : ∀ x s, fail x s → fail' x s) : Ensures env allowed' ok' fail' a s := by
  refine Program.Ensures.mono e ha fun r t h => ?_
  cases r with
  | ok x => exact ho x t h
  | error x => exact hf x t h

/-- Weaker postconditions. -/
lemma Ensures.post (e : Ensures env allowed ok fail a s) (ho : ∀ x s, ok x s → ok' x s)
    (hf : ∀ x s, fail x s → fail' x s) : Ensures env allowed ok' fail' a s :=
  e.mono (fun _ _ h => h) ho hf

/-- More calls are allowed. -/
lemma Ensures.allow (e : Ensures env allowed ok fail a s)
    (ha : ∀ c s, allowed c s → allowed' c s) : Ensures env allowed' ok fail a s :=
  e.mono ha (fun _ _ h => h) fun _ _ h => h

/-- What the allowed calls and the others leave true is true at every call and at the end. -/
lemma Ensures.keep {I : σ → Prop} (e : Ensures env allowed ok fail a s) (k : env.Keeps allowed I)
    (h : I s) :
    Ensures env (fun c t => allowed c t ∧ I t) (fun x t => ok x t ∧ I t)
      (fun x t => fail x t ∧ I t) a s := by
  refine (Program.Ensures.keep e k h).post fun r t p => ?_
  cases r with
  | ok x => exact p
  | error x => exact p

/-- What the allowed calls and the others leave true is true at the end. -/
lemma Ensures.carry {I : σ → Prop} (e : Ensures env allowed ok fail a s) (k : env.Keeps allowed I)
    (h : I s) :
    Ensures env allowed (fun x t => ok x t ∧ I t) (fun x t => fail x t ∧ I t) a s :=
  (e.keep k h).allow fun _ _ p => p.1

/-- Two judgments on one program. -/
lemma Ensures.and (e : Ensures env allowed ok fail a s) (e' : Ensures env allowed' ok' fail' a s) :
    Ensures env (fun c t => allowed c t ∧ allowed' c t) (fun x t => ok x t ∧ ok' x t)
      (fun x t => fail x t ∧ fail' x t) a s := by
  refine (Program.Ensures.and e e').post fun r t p => ?_
  cases r with
  | ok x => exact p
  | error x => exact p

/-- Nothing is asked of a program. -/
lemma ensures_anything :
    Ensures env (fun _ _ => True) (fun _ _ => True) (fun _ _ => True) a s := by
  refine (Program.ensures_anything a.run s).post fun r t _ => ?_
  cases r with
  | ok x => trivial
  | error x => trivial

lemma ensures_pure {x : α} (h : ok x s) :
    Ensures env allowed ok fail (pure x : Fallible S ε α) s := h

lemma ensures_throw {e : ε} (h : fail e s) :
    Ensures env allowed ok fail (throw e : Fallible S ε α) s := h

lemma ensures_bind {f : α → Fallible S ε β} {ok : β → σ → Prop}
    (e : Ensures env allowed (fun x t => Ensures env allowed ok fail (f x) t) fail a s) :
    Ensures env allowed ok fail (a >>= f) s := by
  refine Program.ensures_bind (Program.Ensures.post e fun r t p => ?_)
  cases r with
  | ok x => exact p
  | error x => exact p

lemma ensures_map {f : α → β} {ok : β → σ → Prop} (e : Ensures env allowed (fun x => ok (f x)) fail a s) :
    Ensures env allowed ok fail (f <$> a) s := by
  rw [map_eq_pure_bind]
  exact ensures_bind e

/-- A failure under another name. -/
lemma ensures_adapt {f : ε → δ} {fail : δ → σ → Prop}
    (e : Ensures env allowed ok (fun x => fail (f x)) a s) :
    Ensures env allowed ok fail (ExceptT.adapt f a) s := by
  refine Program.ensures_bind (Program.Ensures.post e fun r t p => ?_)
  cases r with
  | ok x => exact p
  | error x => exact p

/-- A program makes only calls of a kind, wherever it starts and whatever the answers. -/
def CallsOnly (env : Environment S σ) (allowed : S.Call → Prop) (a : Fallible S ε α) : Prop :=
  ∀ s, Ensures env (fun c _ => allowed c) (fun _ _ => True) (fun _ _ => True) a s

section CallsOnly

variable {allowed : S.Call → Prop}

lemma callsOnly_pure {x : α} : CallsOnly env allowed (pure x : Fallible S ε α) := fun _ =>
  ensures_pure trivial

lemma callsOnly_throw {e : ε} : CallsOnly env allowed (throw e : Fallible S ε α) := fun _ =>
  ensures_throw trivial

lemma CallsOnly.bind {f : α → Fallible S ε β} (ha : CallsOnly env allowed a)
    (hf : ∀ x, CallsOnly env allowed (f x)) : CallsOnly env allowed (a >>= f) := fun s =>
  ensures_bind ((ha s).post (fun x t _ => hf x t) fun _ _ _ => trivial)

lemma callsOnly_ofResult {r : Result α} : CallsOnly env allowed (Action.ofResult r : Action S α) := by
  intro s
  show Outcome (fun _ _ => True) (fun _ _ => True) r s
  cases r with
  | ok x => trivial
  | error x => trivial

lemma CallsOnly.orElseIf {a : Action S α} {p : Error → Bool} {answer : α}
    (h : CallsOnly env allowed a) : CallsOnly env allowed (a.orElseIf p answer) := by
  refine fun s => Program.ensures_bind (Program.Ensures.post (h s) fun r t _ => ?_)
  cases r with
  | ok x => trivial
  | error e =>
    show Outcome _ _ (if p e then .ok answer else .error e) t
    split
    · trivial
    · trivial

end CallsOnly

end Fallible

namespace Action

open Fallible

variable {env : Environment S σ} {allowed : S.Call → σ → Prop} {ok : α → σ → Prop}
  {fail : Error → σ → Prop} {a : Action S α} {s : σ}

lemma ensures_ofResult {r : Result α} (h : Outcome ok fail r s) :
    Ensures env allowed ok fail (ofResult r : Action S α) s := h

lemma ensures_record {sample : Sample} {ok : Unit → σ → Prop} (h : ok () s) :
    Ensures env allowed ok fail (record sample : Action S Unit) s := h

lemma ensures_ask {c : S.Call} {ok : S.Answer c → σ → Prop}
    (h : ∀ t, env.meanwhile s t → allowed c t ∧ ∀ x u, env.answers c t x u → ok x u) :
    Ensures env allowed ok fail (ask c : Action S (S.Answer c)) s := h

/-- Attempts that can be made again after they have failed. -/
lemma ensures_attempts {pre : σ → Prop} (h : ∀ t, pre t → Ensures env allowed ok fail a t)
    (again : ∀ e t, fail e t → pre t) (n : Nat) (hs : pre s) :
    Ensures env allowed ok fail (a.attempts n) s := by
  induction n generalizing s with
  | zero => exact h s hs
  | succ n ih =>
    refine Program.ensures_bind (Program.Ensures.post (h s hs) fun r t p => ?_)
    cases r with
    | ok x => exact p
    | error e =>
      dsimp only
      split
      -- The attempt has failed and left the precondition true.
      · exact ih (again e t p)
      · exact p

lemma ensures_retry_again {pre : σ → Prop} {policy : BackoffPolicy}
    (h : ∀ t, pre t → Ensures env allowed ok fail a t) (again : ∀ e t, fail e t → pre t)
    (hs : pre s) : Ensures env allowed ok fail (a.retry policy) s := by
  refine ensures_bind ?_
  exact fun n => ensures_attempts h again n hs

/-- Of a failure nothing has to be known but that the attempt can be made again. -/
lemma ensures_retry {pre : σ → Prop} {policy : BackoffPolicy}
    (h : ∀ t, pre t → Ensures env allowed ok (fun _ => pre) a t) (hs : pre s) :
    Ensures env allowed ok (fun _ => pre) (a.retry policy) s :=
  ensures_retry_again h (fun _ _ p => p) hs

lemma callsOnly_retry {allowed : S.Call → Prop} {policy : BackoffPolicy}
    (h : CallsOnly env allowed a) : CallsOnly env allowed (a.retry policy) := by
  intro s
  have again : ∀ t, True → Ensures env (fun c _ => allowed c) (fun _ _ => True) (fun _ _ => True) a t :=
    fun t _ => h t
  exact ensures_retry again trivial

lemma ensures_counted {resource : String} {operation : Operation}
    (h : Ensures env allowed ok fail a s) :
    Ensures env allowed ok fail (a.counted resource operation) s := by
  refine Program.ensures_bind (Program.Ensures.post h fun r t p => ?_)
  exact p

lemma ensures_orElseIf {p : Error → Bool} {answer : α}
    (h : Ensures env allowed ok (fun e t => if p e then ok answer t else fail e t) a s) :
    Ensures env allowed ok fail (a.orElseIf p answer) s := by
  refine Program.ensures_bind (Program.Ensures.post h fun r t q => ?_)
  cases r with
  | ok x => exact q
  | error e =>
    show Outcome ok fail (if p e then .ok answer else .error e) t
    by_cases hp : p e
    · simpa only [hp, Outcome, if_true] using q
    · simpa only [hp, Outcome, Bool.false_eq_true, if_false] using q

end Action

namespace OperatorAction

open Fallible

variable {env : Environment services σ} {allowed : OperatorCall → σ → Prop}
  {fail : Error → σ → Prop} {s : σ}

/-- A request to the cluster. -/
lemma ensures_ofObject {k : Kind} {request : ObjectRequest k.Body} {ok : request.Reply → σ → Prop}
    (h : ∀ t, env.meanwhile s t → allowed (.cluster k request) t ∧
      ∀ x u, env.answers (.cluster k request) t x u → Outcome ok fail x u) :
    Ensures env allowed ok fail (ofObject k request) s :=
  ensures_bind (Action.ensures_ask h)

/-- A request to the store. -/
lemma ensures_ofStore {request : StoreRequest} {ok : request.Reply → σ → Prop}
    (h : ∀ t, env.meanwhile s t → allowed (.store request) t ∧
      ∀ x u, env.answers (.store request) t x u → Outcome ok fail x u) :
    Ensures env allowed ok fail (ofStore request) s :=
  ensures_bind (Action.ensures_ask h)

section CallsOnly

variable {allowed : OperatorCall → Prop} {k : Kind}

lemma callsOnly_ofObject {request : ObjectRequest k.Body} (h : allowed (.cluster k request)) :
    CallsOnly env allowed (ofObject k request) := by
  refine fun s => ensures_ofObject fun t _ => ⟨h, fun x u _ => ?_⟩
  cases x with
  | ok x => trivial
  | error e => trivial

lemma callsOnly_ofStore {request : StoreRequest} (h : allowed (.store request)) :
    CallsOnly env allowed (ofStore request) := by
  refine fun s => ensures_ofStore fun t _ => ⟨h, fun x u _ => ?_⟩
  cases x with
  | ok x => trivial
  | error e => trivial

lemma callsOnly_createIfMissing {ns : Option String} {v : k.Object}
    (h : allowed (.cluster k (.create ns v))) : CallsOnly env allowed (k.createIfMissing ns v) :=
  ((callsOnly_ofObject h).bind fun _ => callsOnly_pure).orElseIf

lemma callsOnly_deleteIfExists {ns : Option String} {name : String}
    (h : allowed (.cluster k (.delete ns name))) : CallsOnly env allowed (k.deleteIfExists ns name) :=
  ((callsOnly_ofObject h).bind fun _ => callsOnly_pure).orElseIf

end CallsOnly

end OperatorAction

end TenantOverlay
