import Mathlib.Data.Prod.Lex
import TenantOverlay.Proofs.Text.Numerals
import TenantOverlay.Proofs.Text.Trimming
import TenantOverlay.Version

/-!
# Versions in text and in order

What is written for a version is read back as that version (`Version.parse_render`), so that the written form
of a version is its only plain one. Of two versions exactly one is earlier, unless they are the same
(`Version.xor_lt_iff`). The texts that are read as a version are those that spell it, with three numerals, two dots
and blanks around them (`Version.Spells`, `versions_read_exactly`).
-/

namespace TenantOverlay.Version

open Text Decimal

variable {v w : Version}

section Order

lemma lt_iff : v < w ↔ v.major < w.major ∨ v.major = w.major ∧
    (v.minor < w.minor ∨ v.minor = w.minor ∧ v.patch < w.patch) := Iff.rfl

/-- Of two versions exactly one is earlier, unless they are the same. -/
theorem xor_lt_iff : Xor (v < w) (w < v) ↔ v ≠ w := by
  have eq_iff : v = w ↔ v.major = w.major ∧ v.minor = w.minor ∧ v.patch = w.patch := by
    cases v
    cases w
    rw [Version.mk.injEq]
  rw [Xor, lt_iff, lt_iff, ne_eq, eq_iff]
  simp only [UInt64.lt_iff_toNat_lt, ← UInt64.toNat_inj]
  omega

/-- The three numbers of a version, of which the first that differ decide. -/
def numbers (v : Version) : ℕ ×ₗ ℕ ×ₗ ℕ :=
  toLex (v.major.toNat, toLex (v.minor.toNat, v.patch.toNat))

/-- Versions are ordered as their numbers are. -/
lemma lt_iff_numbers : v < w ↔ v.numbers < w.numbers := by
  unfold numbers
  rw [lt_iff, Prod.Lex.toLex_lt_toLex, Prod.Lex.toLex_lt_toLex]
  simp only [UInt64.lt_iff_toNat_lt, UInt64.toNat_inj]

lemma ble_iff_numbers : v.ble w = true ↔ v.numbers ≤ w.numbers := by
  unfold ble
  rw [Bool.not_eq_true', decide_eq_false_iff_not, lt_iff_numbers, not_lt]

end Order

section Grammar

variable {text : String} {cs a b c : List Char}

/-- A text spells a version when it is the numerals of its three numbers with dots between them, and blanks
around them. -/
def Spells (text : String) (v : Version) : Prop :=
  ∃ before a b c after, Surrounds isBlank before (a ++ '.' :: b ++ '.' :: c) after text.toList ∧
    IsNumeral a v.major.toNat ∧ IsNumeral b v.minor.toNat ∧ IsNumeral c v.patch.toNat

lemma part?_eq_some_iff {n : UInt64} : part? cs = some n ↔ IsNumeral cs n.toNat := by
  unfold part?
  simp only [Option.map_eq_some_iff, unsigned?_eq_some_iff]
  constructor
  · rintro ⟨m, ⟨numeral, small⟩, rfl⟩
    rwa [UInt64.toNat_ofNat_of_lt' small]
  · intro numeral
    exact ⟨n.toNat, ⟨numeral, n.toNat_lt⟩, UInt64.ofNat_toNat⟩

lemma dot_not_mem {n : Nat} (h : Text.IsNumeral cs n) : '.' ∉ cs := by
  intro m
  rcases h.mem m with plus | digit
  · cases plus
  · cases digit

lemma isBlank_of_mem_numeral {n : Nat} (h : Text.IsNumeral cs n) {d : Char} (m : d ∈ cs) : isBlank d = false := by
  rcases h.mem m with rfl | digit
  · rfl
  · exact isBlank_of_isDigit digit

/-- What a version's text comes to: three parts that are read one by one. -/
lemma parse_eq_ok_iff_parts : parse text = .ok v ↔ ∃ a b c,
    splitOn '.' (trimBy isBlank text.toList) = [a, b, c] ∧
      part? a = some v.major ∧ part? b = some v.minor ∧ part? c = some v.patch := by
  unfold parse
  dsimp only
  generalize splitOn '.' (trimBy isBlank text.toList) = parts
  constructor
  · intro h
    split at h
    · next w read =>
      cases h
      split at read
      · next a b c =>
        simp only [Option.bind_eq_bind, Option.bind_eq_some_iff, Option.pure_def, Option.some_inj] at read
        obtain ⟨major, ha, minor, hb, patch, hc, rfl⟩ := read
        exact ⟨a, b, c, rfl, ha, hb, hc⟩
      · cases read
    · cases h
  · rintro ⟨a, b, c, rfl, ha, hb, hc⟩
    simp only [ha, hb, hc]
    rfl

/-- Three numerals with dots between them, in parts. -/
lemma splitOn_numerals {k m n : Nat} (ha : Text.IsNumeral a k) (hb : Text.IsNumeral b m)
    (hc : Text.IsNumeral c n) : splitOn '.' (a ++ '.' :: b ++ '.' :: c) = [a, b, c] := by
  rw [List.append_assoc, List.cons_append, splitOn_append_cons (dot_not_mem ha),
    splitOn_append_cons (dot_not_mem hb), splitOn_of_not_mem (dot_not_mem hc)]

/-- No blank stands in three numerals with dots between them. -/
lemma isTrimmed_numerals {k m n : Nat} (ha : Text.IsNumeral a k) (hb : Text.IsNumeral b m)
    (hc : Text.IsNumeral c n) : IsTrimmed isBlank (a ++ '.' :: b ++ '.' :: c) := by
  have visible : ∀ d ∈ a ++ '.' :: b ++ '.' :: c, isBlank d = false := by
    intro d hd
    simp only [List.mem_append, List.mem_cons] at hd
    rcases hd with (hd | rfl | hd) | rfl | hd
    · exact isBlank_of_mem_numeral ha hd
    · rfl
    · exact isBlank_of_mem_numeral hb hd
    · rfl
    · exact isBlank_of_mem_numeral hc hd
  exact ⟨fun d hd => visible d (List.mem_of_mem_head? hd), fun d hd => visible d (List.mem_of_mem_getLast? hd)⟩

/-- The texts that are read as a version are those that spell it. -/
lemma parse_eq_ok_iff : parse text = .ok v ↔ Spells text v := by
  simp only [parse_eq_ok_iff_parts, part?_eq_some_iff]
  constructor
  · rintro ⟨a, b, c, split, major, minor, patch⟩
    have whole := (splitOn_eq_iff.1 split).2.1
    rw [List.intercalate_cons_cons, List.intercalate_cons_cons, List.intercalate_singleton] at whole
    obtain ⟨-, before, after, around⟩ := trimBy_eq_iff.1 whole
    refine ⟨before, a, b, c, after, ?_, major, minor, patch⟩
    simpa only [List.append_assoc, List.cons_append, List.nil_append] using around
  · rintro ⟨before, a, b, c, after, around, major, minor, patch⟩
    refine ⟨a, b, c, ?_, major, minor, patch⟩
    rw [around.trimBy_eq (isTrimmed_numerals major minor patch), splitOn_numerals major minor patch]

/-- A text that is not read is reported as it is. -/
lemma parse_cases (text : String) :
    (∃ v, parse text = .ok v) ∨ parse text = .error (.invalidConfig (.malformedVersion text)) := by
  unfold parse
  dsimp only
  split
  · exact .inl ⟨_, rfl⟩
  · exact .inr rfl

end Grammar

section Text

/-- What is written for a version is read back as that version. -/
theorem parse_render (v : Version) : parse v.render = .ok v := by
  have around : Surrounds isBlank []
      (natDigits v.major.toNat ++ '.' :: natDigits v.minor.toNat ++ '.' :: natDigits v.patch.toNat) []
      v.render.toList := by
    refine ⟨?_, nofun, nofun⟩
    simp only [render, String.toList_append, toList_toString, List.append_assoc, List.append_nil]
    rfl
  exact parse_eq_ok_iff.2
    ⟨_, _, _, _, _, around, isNumeral_natDigits _, isNumeral_natDigits _, isNumeral_natDigits _⟩

/-- The text that is written for a version: it has no blanks around it, no signs and no leading zeros. -/
def IsPlain (text : String) : Prop := ∃ v : Version, text = v.render

/-- A version has one plain text. -/
lemma IsPlain.eq_render {text : String} (h : IsPlain text) (parsed : parse text = .ok v) : text = v.render := by
  obtain ⟨w, rfl⟩ := h
  rw [parse_render] at parsed
  rw [Except.ok.inj parsed]

end Text

end TenantOverlay.Version

namespace TenantOverlay

/-- A text is read as a version exactly when it spells that version, and any other text is reported as a
configuration that is invalid, which no repetition can cure. So the three numbers of any version are read back from
a text with dots between them, and versions are ordered as their numbers are, the first that differ deciding. -/
theorem versions_read_exactly (text : String) :
    (∀ v, Version.parse text = .ok v ↔ Version.Spells text v) ∧
    ((∃ v, Version.Spells text v) ∨ ∃ fault, Version.parse text = .error (.invalidConfig fault) ∧
      (Error.invalidConfig fault).isRetryable = false) ∧
    (∀ major minor patch : UInt64,
      Version.parse (toString major.toNat ++ "." ++ toString minor.toNat ++ "." ++ toString patch.toNat) =
        .ok ⟨major, minor, patch⟩) ∧
    ∀ v w : Version, (v < w ↔ v.numbers < w.numbers) ∧ (v.ble w = true ↔ v.numbers ≤ w.numbers) := by
  refine ⟨fun v => Version.parse_eq_ok_iff, ?_, fun major minor patch => ?_, fun v w => ?_⟩
  · obtain ⟨v, read⟩ | refused := Version.parse_cases text
    · exact .inl ⟨v, Version.parse_eq_ok_iff.1 read⟩
    · exact .inr ⟨_, refused, rfl⟩
  · exact Version.parse_render ⟨major, minor, patch⟩
  · exact ⟨Version.lt_iff_numbers, Version.ble_iff_numbers⟩

/-- Blanks around a version, plus signs and leading zeros are read over, and the number after the last that fits
is not read. -/
example : Version.parse "\u2003+0.02.18446744073709551615\n" = .ok ⟨0, 2, 18446744073709551615⟩ ∧
    Version.parse "0.2.18446744073709551616" =
      .error (.invalidConfig (.malformedVersion "0.2.18446744073709551616")) := by decide +kernel

end TenantOverlay
