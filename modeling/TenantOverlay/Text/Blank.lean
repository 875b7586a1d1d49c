/-!
# White space

The characters with the Unicode property `White_Space`, and the removal of characters from both
ends of a text. `trimBy_eq_self_iff` says when nothing is removed.
-/

namespace TenantOverlay.Text

/-- The Unicode property `White_Space`. -/
def isBlank (c : Char) : Bool :=
  let n := c.toNat
  (0x09 ≤ n && n ≤ 0x0D) || n == 0x20 || n == 0x85 || n == 0xA0 || n == 0x1680 ||
    (0x2000 ≤ n && n ≤ 0x200A) || n == 0x2028 || n == 0x2029 || n == 0x202F || n == 0x205F ||
    n == 0x3000

theorem isBlank_of_isDigit {c : Char} (h : c.isDigit = true) : isBlank c = false := by
  simp only [Char.isDigit, Bool.and_eq_true, decide_eq_true_eq, ge_iff_le, UInt32.le_iff_toNat_le] at h
  have low : 48 ≤ c.toNat := h.1
  have high : c.toNat ≤ 57 := h.2
  simp only [isBlank, Bool.or_eq_false_iff, Bool.and_eq_false_iff, decide_eq_false_iff_not,
    beq_eq_false_iff_ne]
  omega

/-- The text without the characters of `p` at its two ends. -/
def trimBy (p : Char → Bool) (cs : List Char) : List Char :=
  ((cs.dropWhile p).reverse.dropWhile p).reverse

/-- The text without white space at its two ends. -/
def trim (s : String) : String :=
  String.ofList (trimBy isBlank s.toList)

theorem dropWhile_eq_self_iff {p : Char → Bool} {cs : List Char} :
    cs.dropWhile p = cs ↔ ∀ c ∈ cs.head?, p c = false := by
  cases cs with
  | nil => simp
  | cons c r =>
    cases h : p c with
    | false => simp [h]
    | true =>
      simp only [List.dropWhile_cons, h, if_true, List.head?_cons, Option.mem_def,
        Option.some.injEq, forall_eq', Bool.true_eq_false, iff_false]
      intro e
      have := congrArg List.length e
      have le := (List.dropWhile_sublist p (l := r)).length_le
      simp only [List.length_cons] at this
      omega

/-- Nothing is removed exactly when neither end has a character of `p`. -/
theorem trimBy_eq_self_iff {p : Char → Bool} {cs : List Char} :
    trimBy p cs = cs ↔ (∀ c ∈ cs.head?, p c = false) ∧ ∀ c ∈ cs.getLast?, p c = false := by
  constructor
  · intro h
    have short : (cs.dropWhile p).length = cs.length := by
      have a := (List.dropWhile_sublist p (l := cs)).length_le
      have b := (List.dropWhile_sublist p (l := (cs.dropWhile p).reverse)).length_le
      have c := congrArg List.length h
      simp only [trimBy, List.length_reverse] at b c
      omega
    have front : cs.dropWhile p = cs := (List.dropWhile_sublist p (l := cs)).eq_of_length short
    refine ⟨dropWhile_eq_self_iff.1 front, ?_⟩
    have back : cs.reverse.dropWhile p = cs.reverse := by
      have := congrArg List.reverse h
      simpa [trimBy, front] using this
    simpa [List.head?_reverse] using dropWhile_eq_self_iff.1 back
  · rintro ⟨hf, hb⟩
    have front := dropWhile_eq_self_iff.2 hf
    have back : cs.reverse.dropWhile p = cs.reverse :=
      dropWhile_eq_self_iff.2 (by simpa [List.head?_reverse] using hb)
    simp [trimBy, front, back]

end TenantOverlay.Text
