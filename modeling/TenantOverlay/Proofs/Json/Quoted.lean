import Mathlib.Tactic.Lemma
import TenantOverlay.Json.Quoted

/-!
# Quoted texts that were written

`decode?_encode`: what `encode` writes is read back, up to the closing quote. Control characters are
written as UTF-16 units below the space, which are no surrogates, so that no two of them form a pair.
-/

namespace TenantOverlay.Json.Quoted

/-- The piece as which a written character is read. -/
def piece (c : Char) : Piece :=
  if c.toNat < 32 ∧ c ≠ '\n' ∧ c ≠ '\r' ∧ c ≠ '\t' ∧ c.toNat ≠ 8 ∧ c.toNat ≠ 12 then .unit c.toNat
  else .char c

lemma hexValue?_hexDigit (n : Nat) : hexValue? (hexDigit n) = some (n % 16) := by
  have all : ∀ k < 16, hexValue? (Nat.digitChar k) = some k := by decide
  exact all (n % 16) (Nat.mod_lt n (by decide))

/-- A control character is written by its number. -/
lemma unit?_hexDigit {n : Nat} (h : n < 32) :
    unit? '0' '0' (hexDigit (n / 16)) (hexDigit n) = some n := by
  unfold unit?
  have zero : hexValue? '0' = some 0 := by decide
  rw [zero, hexValue?_hexDigit, hexValue?_hexDigit]
  show some ((((0 * 16 + 0) * 16 + n / 16 % 16) * 16) + n % 16) = some n
  congr 1
  omega

/-- A written character is read back as its piece. -/
lemma pieces?_encodeChar (c : Char) (r : List Char) :
    pieces? (encodeChar c ++ r) = (pieces? r).map (prepend (piece c)) := by
  -- The characters with a short form come first, in the order in which they are written.
  unfold encodeChar
  split
  · subst c
    rfl
  split
  · subst c
    rfl
  split
  · subst c
    rfl
  split
  · subst c
    rfl
  split
  · subst c
    rfl
  split
  · rename_i h
    have : c = Char.ofNat 8 := by rw [← h, Char.ofNat_toNat]
    subst this
    rfl
  split
  · rename_i h
    have : c = Char.ofNat 12 := by rw [← h, Char.ofNat_toNat]
    subst this
    rfl
  split
  · rename_i control
    have unit : piece c = .unit c.toNat := if_pos ⟨control, by assumption, by assumption, by assumption,
      by assumption, by assumption⟩
    show (unit? '0' '0' _ _).bind _ = _
    rw [unit?_hexDigit control, unit]
    rfl
  · rename_i control
    have char : piece c = .char c := if_neg fun h => control h.1
    rw [char]
    -- A character that stands for itself is none of those that the reader treats differently.
    show pieces? (c :: r) = _
    rw [pieces?.eq_def]
    split
    · contradiction
    · rename_i e
      cases e
      contradiction
    · rename_i e
      cases e
      contradiction
    · rename_i e
      cases e
      contradiction
    · rename_i e
      cases e
      rw [if_neg (by simp_all)]

lemma pieces?_encode (cs r : List Char) :
    pieces? (encode cs ++ '"' :: r) = some (cs.map piece, r) := by
  induction cs with
  | nil => rfl
  | cons c cs ih =>
    show pieces? ((encodeChar c ++ encode cs) ++ '"' :: r) = _
    rw [List.append_assoc, pieces?_encodeChar, ih]
    rfl

/-- A unit that is no surrogate is a character by itself. -/
lemma assemble_unit {u : Nat} (h : u < 0xD800) (ps : List Piece) :
    assemble (.unit u :: ps) = (assemble ps).map (Char.ofNat u :: ·) := by
  have high : isHigh u = false := by
    simp only [isHigh, Bool.and_eq_false_iff, decide_eq_false_iff_not]
    omega
  have low : isLow u = false := by
    simp only [isLow, Bool.and_eq_false_iff, decide_eq_false_iff_not]
    omega
  cases ps with
  | nil => simp [assemble, high, low]
  | cons p ps =>
    cases p with
    | char c => simp [assemble, high, low]
    | unit v => simp [assemble, high, low]

/-- The pieces that are read are the characters that were written. -/
lemma assemble_piece (cs : List Char) : assemble (cs.map piece) = some cs := by
  induction cs with
  | nil => rfl
  | cons c cs ih =>
    rw [List.map_cons]
    by_cases control : c.toNat < 32 ∧ c ≠ '\n' ∧ c ≠ '\r' ∧ c ≠ '\t' ∧ c.toNat ≠ 8 ∧ c.toNat ≠ 12
    · have unit : piece c = .unit c.toNat := if_pos control
      rw [unit, assemble_unit (by omega), ih, Option.map_some, Char.ofNat_toNat]
    · have char : piece c = .char c := if_neg control
      rw [char, assemble, ih, Option.map_some]

/-- What was written is read back, up to the closing quote. -/
theorem decode?_encode (cs r : List Char) : decode? (encode cs ++ '"' :: r) = some (some cs, r) := by
  unfold decode?
  rw [pieces?_encode, Option.map_some]
  dsimp only
  rw [assemble_piece]

end TenantOverlay.Json.Quoted
