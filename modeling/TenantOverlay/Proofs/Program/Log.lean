import TenantOverlay.Proofs.Program.Fallible

/-!
# Programs and the answers they have seen

`Environment.logged` is an environment of which nothing is known but the list of the calls and
answers so far; `Environment.recorded` keeps that list for any environment. What once has been seen
stays seen (`Lasting`), so that conditions of this kind are kept by every call; they say what a program
knows when it makes a call.
-/

namespace TenantOverlay

open Fallible

/-- A call and its answer. -/
structure Exchange (S : Signature) where
  call : S.Call
  answer : S.Answer call

variable {S : Signature} {likely : Exchange S → Prop} {I : List (Exchange S) → Prop}

/-- Every answer is possible that is likely. The state lists what has been asked and answered. -/
def Environment.logged (likely : Exchange S → Prop) : Environment S (List (Exchange S)) where
  answers c log x log' := likely ⟨c, x⟩ ∧ log' = log ++ [⟨c, x⟩]
  meanwhile log log' := log' = log
  refl _ := rfl
  trans h h' := h'.trans h

/-- An environment that also lists what has been asked and answered. -/
def Environment.recorded {σ : Type} (env : Environment S σ) : Environment S (σ × List (Exchange S)) where
  answers c s x t := env.answers c s.1 x t.1 ∧ t.2 = s.2 ++ [⟨c, x⟩]
  meanwhile s t := env.meanwhile s.1 t.1 ∧ t.2 = s.2
  refl s := ⟨env.refl s.1, rfl⟩
  trans h h' := ⟨env.trans h.1 h'.1, h'.2.trans h.2⟩

/-- A condition that stays true when more is seen. -/
def Lasting (I : List (Exchange S) → Prop) : Prop := ∀ log e, I log → I (log ++ [e])

lemma Lasting.and {J : List (Exchange S) → Prop} (hI : Lasting I) (hJ : Lasting J) :
    Lasting fun log => I log ∧ J log :=
  fun log e h => ⟨hI log e h.1, hJ log e h.2⟩

lemma lasting_mem (e : Exchange S) : Lasting (e ∈ ·) :=
  fun _ _ h => List.mem_append_left _ h

lemma lasting_sublist (seen : List (Exchange S)) : Lasting seen.Sublist :=
  fun _ _ h => h.trans (List.sublist_append_left _ _)

/-- Whatever has been seen was likely. -/
lemma keeps_likely {allowed : S.Call → List (Exchange S) → Prop} :
    (Environment.logged likely).Keeps allowed fun log => ∀ e ∈ log, likely e where
  meanwhile m h := m ▸ h
  call {c s t x} _ r h := by
    obtain ⟨likely, rfl⟩ := r
    intro e m
    obtain m | m := List.mem_append.1 m
    · exact h e m
    · obtain rfl := List.mem_singleton.1 m
      exact likely

end TenantOverlay
