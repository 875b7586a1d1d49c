import Mathlib.Data.List.TakeWhile
import TenantOverlay.Config.SocketAddress
import TenantOverlay.Proofs.Text.Digits

/-!
# The port of an address

Whether an address can be read does not depend on the port that follows it, as long as that is a port
(`SocketAddress.exists_parse?_of_port`). The reason is that the readers of addresses never look beyond certain
marks: that of four numbers heeds the colon after them, and that of eight groups the bracket at their end
(`Heeds`).
-/

namespace TenantOverlay.SocketAddress

open Decimal Text

variable {α β : Type} {d : Char} {w : List Char}

/-- What follows a text that ends before a mark: nothing, or the mark with anything after it. -/
inductive IsMark (d : Char) : List Char → Prop where
  | ended : IsMark d []
  | marked (r : List Char) : IsMark d (d :: r)

/-- What is read from a text does not depend on what follows it, which is left as it is. -/
def Decided (d : Char) (read : Reader α) : Prop :=
  (∀ rest, IsMark d rest → read rest = none) ∨
    ∃ a w, d ∉ w ∧ ∀ rest, IsMark d rest → read rest = some (a, w ++ rest)

/-- A reader does not look beyond a mark. -/
def Heeds (d : Char) (read : Reader α) : Prop := ∀ w, d ∉ w → Decided d fun rest => read (w ++ rest)

lemma decided_none : Decided d (fun _ => (none : Option (α × List Char))) := .inl fun _ _ => rfl

lemma decided_some (a : α) (h : d ∉ w) : Decided d (fun rest => some (a, w ++ rest)) :=
  .inr ⟨a, w, h, fun _ _ => rfl⟩

lemma Decided.congr {read read' : Reader α} (h : Decided d read)
    (same : ∀ rest, IsMark d rest → read' rest = read rest) : Decided d read' := by
  obtain failed | ⟨a, w, lacks, done⟩ := h
  · exact .inl fun rest mark => (same rest mark).trans (failed rest mark)
  · exact .inr ⟨a, w, lacks, fun rest mark => (same rest mark).trans (done rest mark)⟩

lemma Decided.bind {read : Reader α} {next : α × List Char → Option (β × List Char)} (h : Decided d read)
    (k : ∀ a w, d ∉ w → Decided d fun rest => next (a, w ++ rest)) :
    Decided d fun rest => read rest >>= next := by
  obtain failed | ⟨a, w, lacks, done⟩ := h
  · refine .inl fun rest mark => ?_
    show read rest >>= next = none
    rw [failed rest mark]
    rfl
  · obtain failed | ⟨b, w', lacks', done'⟩ := k a w lacks
    · refine .inl fun rest mark => ?_
      show read rest >>= next = none
      rw [done rest mark]
      exact failed rest mark
    · refine .inr ⟨b, w', lacks', fun rest mark => ?_⟩
      show read rest >>= next = _
      rw [done rest mark]
      exact done' rest mark

/-- What a reader makes of the part before a mark does not depend on what follows the mark. -/
lemma Heeds.eq_some {read : Reader α} (h : Heeds d read) (lacks : d ∉ w) {a : α} {r rest : List Char}
    (e : read (w ++ d :: r) = some (a, rest)) :
    ∃ w', d ∉ w' ∧ rest = w' ++ d :: r ∧ ∀ s, read (w ++ d :: s) = some (a, w' ++ d :: s) := by
  obtain failed | ⟨b, w', lacks', done⟩ := h w lacks
  · cases (failed _ (.marked r)).symm.trans e
  · obtain ⟨rfl, rfl⟩ := Prod.mk.inj (Option.some.inj ((done _ (.marked r)).symm.trans e))
    exact ⟨w', lacks', rfl, fun s => done _ (.marked s)⟩

/-- No mark is left where there was none. -/
lemma Heeds.not_mem {read : Reader α} (h : Heeds d read) (lacks : d ∉ w) {a : α} {rest : List Char}
    (e : read w = some (a, rest)) : d ∉ rest := by
  rw [← List.append_nil w] at e
  obtain failed | ⟨b, w', lacks', done⟩ := h w lacks
  · cases (failed _ .ended).symm.trans e
  · obtain ⟨rfl, rfl⟩ := Prod.mk.inj (Option.some.inj ((done _ .ended).symm.trans e))
    rwa [List.append_nil]

lemma Decided.ite {read : Reader α} (p : Prop) [Decidable p] (h : Decided d read) :
    Decided d fun rest => if p then none else read rest := by
  split
  · exact decided_none
  · exact h

section Characters

variable {p : Char → Bool} {rest : List Char}

lemma takeWhile_mark (stop : p d = false) (mark : IsMark d rest) :
    (w ++ rest).takeWhile p = w.takeWhile p := by
  induction w with
  | nil =>
    cases mark with
    | ended => rfl
    | marked r => exact List.takeWhile_cons_of_neg (Bool.eq_false_iff.1 stop)
  | cons c w ih => rw [List.cons_append, List.takeWhile_cons, List.takeWhile_cons, ih]

lemma dropWhile_mark (stop : p d = false) (mark : IsMark d rest) :
    (w ++ rest).dropWhile p = w.dropWhile p ++ rest := by
  have whole : w.takeWhile p ++ (w ++ rest).dropWhile p = w.takeWhile p ++ (w.dropWhile p ++ rest) := by
    rw [← List.append_assoc, List.takeWhile_append_dropWhile, ← takeWhile_mark stop mark,
      List.takeWhile_append_dropWhile]
  exact List.append_cancel_left whole

lemma not_mem_dropWhile (h : d ∉ w) : d ∉ w.dropWhile p := fun m => h ((List.dropWhile_sublist p).mem m)

end Characters

lemma heeds_char {c : Char} (other : c ≠ d) : Heeds d (char c) := by
  intro w lacks
  cases w with
  | nil =>
    refine .inl fun rest mark => ?_
    cases mark with
    | ended => rfl
    | marked r => exact if_neg other
  | cons e w =>
    rw [List.mem_cons, not_or] at lacks
    by_cases same : c = e
    · exact .inr ⟨(), w, lacks.2, fun _ _ => if_pos same⟩
    · exact .inl fun _ _ => if_neg same

lemma heeds_decimal {bound : Nat} (stop : d.isDigit = false) : Heeds d (decimal bound) := by
  intro w lacks
  have read (rest : List Char) (mark : IsMark d rest) : decimal bound (w ++ rest) =
      if (w.takeWhile Char.isDigit).isEmpty ∨ bound ≤ digitsValue (w.takeWhile Char.isDigit) then none
      else some (digitsValue (w.takeWhile Char.isDigit), w.dropWhile Char.isDigit ++ rest) := by
    unfold decimal
    rw [takeWhile_mark stop mark, dropWhile_mark stop mark]
  exact .congr (.ite _ (decided_some _ (not_mem_dropWhile lacks))) read

lemma heeds_octet (stop : d.isDigit = false) : Heeds d octet := by
  intro w lacks
  have read (rest : List Char) (mark : IsMark d rest) : octet (w ++ rest) =
      if (w.takeWhile Char.isDigit).length > 3 ∨ (w.takeWhile Char.isDigit).length > 1 ∧
        (w.takeWhile Char.isDigit).head? = some '0' then none else decimal 256 (w ++ rest) := by
    unfold octet
    rw [takeWhile_mark stop mark]
    rfl
  exact .congr (.ite _ (heeds_decimal stop w lacks)) read

lemma heeds_quad (stop : d.isDigit = false) (other : '.' ≠ d) : Heeds d quad := by
  intro w lacks
  refine (heeds_octet stop w lacks).bind fun a w lacks => ?_
  refine (heeds_char other w lacks).bind fun _ w lacks => ?_
  refine (heeds_octet stop w lacks).bind fun b w lacks => ?_
  refine (heeds_char other w lacks).bind fun _ w lacks => ?_
  refine (heeds_octet stop w lacks).bind fun c w lacks => ?_
  refine (heeds_char other w lacks).bind fun _ w lacks => ?_
  refine (heeds_octet stop w lacks).bind fun d w lacks => ?_
  exact decided_some _ lacks

lemma heeds_group (stop : (hexValue? d).isSome = false) : Heeds d group := by
  intro w lacks
  have read (rest : List Char) (mark : IsMark d rest) : group (w ++ rest) =
      if (w.takeWhile fun c => (hexValue? c).isSome).isEmpty ∨
        (w.takeWhile fun c => (hexValue? c).isSome).length > 4 then none
      else some ((w.takeWhile fun c => (hexValue? c).isSome).foldl (fun n c => 16 * n + (hexValue? c).getD 0) 0,
        (w.dropWhile fun c => (hexValue? c).isSome) ++ rest) := by
    unfold group
    rw [takeWhile_mark stop mark, dropWhile_mark stop mark]
  exact .congr (.ite _ (decided_some _ (not_mem_dropWhile lacks))) read

lemma heeds_separated (first : Bool) {read : Reader α} (other : ':' ≠ d) (h : Heeds d read) :
    Heeds d (separated first read) := by
  intro w lacks
  unfold separated
  cases first with
  | true => exact h w lacks
  | false => exact (heeds_char other w lacks).bind fun _ w lacks => h w lacks

/-- As many groups as there are do not depend on what follows the mark. -/
lemma groups_decided (limit : Nat) (first : Bool) (lacks : ']' ∉ w) : ∃ gs quads w', ']' ∉ w' ∧
    ∀ rest, IsMark ']' rest → groups first limit (w ++ rest) = (gs, quads, w' ++ rest) := by
  induction limit generalizing first w with
  | zero => exact ⟨[], false, w, lacks, fun _ _ => rfl⟩
  | succ limit ih =>
    have quadFirst : Decided ']' fun rest =>
        if limit = 0 then none else separated first quad (w ++ rest) :=
      .ite _ (heeds_separated first (by decide) (heeds_quad rfl (by decide)) w lacks)
    obtain failed | ⟨⟨a, b, c, d⟩, w', lacks', done⟩ := quadFirst
    · obtain failed' | ⟨g, w', lacks', done⟩ := heeds_separated first (by decide) (heeds_group rfl) w lacks
      · refine ⟨[], false, w, lacks, fun rest mark => ?_⟩
        simp only [groups, failed rest mark, failed' rest mark]
      · obtain ⟨gs, quads, w'', lacks'', rest'⟩ := ih false lacks'
        refine ⟨g :: gs, quads, w'', lacks'', fun rest mark => ?_⟩
        simp only [groups, failed rest mark, done rest mark, rest' rest mark]
    · refine ⟨[256 * a + b, 256 * c + d], true, w', lacks', fun rest mark => ?_⟩
      simp only [groups, done rest mark]

/-- The groups after a double colon, with those before it and zeros between them. -/
def afterGap (front : List Nat) : Reader (List Nat) := fun cs => do
  let ((), cs) ← char ':' cs
  let ((), cs) ← char ':' cs
  let (back, _, cs) := groups true (7 - front.length) cs
  return (front ++ List.replicate (8 - front.length - back.length) 0 ++ back, cs)

lemma heeds_afterGap (front : List Nat) : Heeds ']' (afterGap front) := by
  intro w lacks
  unfold afterGap
  refine (heeds_char (by decide) w lacks).bind fun _ w lacks => ?_
  refine (heeds_char (by decide) w lacks).bind fun _ w lacks => ?_
  obtain ⟨back, quads, w, lacks, read⟩ := groups_decided (7 - front.length) true lacks
  refine .congr (decided_some (front ++ List.replicate (8 - front.length - back.length) 0 ++ back) lacks)
    fun rest mark => ?_
  simp only [read rest mark]
  rfl

lemma heeds_groups8 : Heeds ']' groups8 := by
  intro w lacks
  obtain ⟨front, quads, w, lacks, read⟩ := groups_decided 8 true lacks
  by_cases whole : front.length = 8
  · refine .congr (decided_some front lacks) fun rest mark => ?_
    simp only [groups8, read rest mark, if_pos whole]
  · refine .congr (.ite (quads = true) (heeds_afterGap front w lacks)) fun rest mark => ?_
    simp only [groups8, read rest mark, if_neg whole]
    rfl

/-- What stands between the brackets: the groups and the network that the address belongs to. -/
def enclosed : Reader (List Nat × Nat) := fun cs => do
  let (gs, cs) ← groups8 cs
  let (scope, cs) := match (char '%' cs).bind fun (_, r) => decimal UInt32.size r with
    | some (scope, r) => (scope, r)
    | none => (0, cs)
  return ((gs, scope), cs)

lemma heeds_enclosed : Heeds ']' enclosed := by
  intro w lacks
  refine (heeds_groups8 w lacks).bind fun gs w lacks => ?_
  have network : Decided ']' fun rest => char '%' (w ++ rest) >>= fun (_, r) => decimal UInt32.size r :=
    (heeds_char (by decide) w lacks).bind fun _ w lacks => heeds_decimal rfl w lacks
  obtain failed | ⟨scope, w', lacks', done⟩ := network
  · refine .congr (decided_some (gs, 0) lacks) fun rest mark => ?_
    have none := failed rest mark
    simp only [Option.bind_eq_bind] at none
    simp only [none]
    rfl
  · refine .congr (decided_some (gs, scope) lacks') fun rest mark => ?_
    have some := done rest mark
    simp only [Option.bind_eq_bind] at some
    simp only [some]
    rfl

lemma char_eq_some_iff {c : Char} {cs r : List Char} {u : Unit} : char c cs = some (u, r) ↔ cs = c :: r := by
  cases cs with
  | nil => exact iff_of_false nofun nofun
  | cons e cs =>
    by_cases same : c = e
    · subst same
      rw [char, if_pos rfl, Option.some.injEq, Prod.mk.injEq, List.cons.injEq, and_iff_right rfl, and_iff_right rfl]
    · rw [char, if_neg same]
      exact iff_of_false nofun fun h => same (List.cons.inj h).1.symm

lemma dotted_eq_some_iff {cs : List Char} {a : SocketAddress} : dotted cs = some (a, []) ↔
    ∃ n r p, quad cs = some (n, r) ∧ portPart r = some (p, []) ∧ a = ⟨.v4 n.1 n.2.1 n.2.2.1 n.2.2.2, p⟩ := by
  unfold dotted
  simp only [Option.bind_eq_bind, Option.bind_eq_some_iff, Prod.exists, Option.pure_def, Option.some.injEq]
  constructor
  · rintro ⟨n₁, n₂, n₃, n₄, r, read, p, _, port, made⟩
    cases made
    exact ⟨n₁, n₂, n₃, n₄, r, p, read, port, rfl⟩
  · rintro ⟨n₁, n₂, n₃, n₄, r, p, read, port, rfl⟩
    exact ⟨n₁, n₂, n₃, n₄, r, read, p, [], port, rfl⟩

lemma bracketed_eq_some_iff {cs : List Char} {a : SocketAddress} : bracketed cs = some (a, []) ↔
    ∃ r n r' p, cs = '[' :: r ∧ enclosed r = some (n, ']' :: r') ∧ portPart r' = some (p, []) ∧
      a = ⟨.v6 n.1 n.2, p⟩ := by
  unfold bracketed enclosed
  simp only [Option.bind_eq_bind, Option.bind_eq_some_iff, Prod.exists, Option.pure_def, Option.some.injEq,
    char_eq_some_iff]
  constructor
  · rintro ⟨_, r, rfl, gs, rest, groups, _, r', bracket, p, _, port, made⟩
    cases made
    exact ⟨r, gs, _, r', p, rfl, ⟨gs, rest, groups, Prod.ext rfl bracket⟩, port, rfl⟩
  · rintro ⟨r, gs, scope, r', p, rfl, ⟨gs, rest, groups, read⟩, port, rfl⟩
    simp only [Prod.mk.injEq] at read
    obtain ⟨⟨rfl, rfl⟩, bracket⟩ := read
    exact ⟨(), r, rfl, gs, rest, groups, (), r', bracket, p, [], port, rfl⟩

/-- A port is digits after a colon. -/
lemma portPart_eq_some {cs : List Char} {p : Nat} (h : portPart cs = some (p, [])) :
    ∃ ds, cs = ':' :: ds ∧ ∀ c ∈ ds, c.isDigit = true := by
  unfold portPart at h
  simp only [Option.bind_eq_bind, Option.bind_eq_some_iff, Prod.exists, char_eq_some_iff] at h
  obtain ⟨_, ds, rfl, read⟩ := h
  refine ⟨ds, rfl, ?_⟩
  unfold decimal at read
  dsimp only at read
  split at read
  · cases read
  · rw [Option.some.injEq, Prod.mk.injEq] at read
    exact List.dropWhile_eq_nil_iff.1 read.2

lemma portPart_natDigits {p : Nat} (h : p < 65536) : portPart (':' :: natDigits p) = some (p, []) := by
  have digits : ∀ c ∈ natDigits p, c.isDigit = true := fun _ => isDigit_natDigits
  show decimal 65536 (natDigits p) = some (p, [])
  unfold decimal
  dsimp only
  rw [List.takeWhile_eq_self_iff.2 digits, List.dropWhile_eq_nil_iff.2 digits, digitsValue_natDigits]
  refine if_neg ?_
  rw [List.isEmpty_iff, not_or, Nat.not_le]
  exact ⟨natDigits_ne_nil p, h⟩

section Port

variable {host : List Char} {p q : Nat}

/-- A port that is followed by nothing begins with the last colon. -/
lemma eq_nil_of_portPart {rest : List Char} {n : Nat} (h : portPart (w ++ ':' :: rest) = some (n, [])) :
    w = [] ∧ ':' ∉ rest := by
  obtain ⟨ds, split, digits⟩ := portPart_eq_some h
  have colon : ':' ∉ ds := fun m => by cases digits _ m
  cases w with
  | nil =>
    obtain rfl := (List.cons.inj split).2
    exact ⟨rfl, colon⟩
  | cons c w =>
    obtain rfl := (List.cons.inj split).2
    exact absurd (List.mem_append_right w List.mem_cons_self) colon

/-- The four numbers end with the first colon of the text, which has to be the one before the port. -/
lemma dotted_of_port (small : q < 65536) {a : SocketAddress}
    (h : dotted (host ++ ':' :: natDigits p) = some (a, [])) :
    ∃ b, dotted (host ++ ':' :: natDigits q) = some (b, []) := by
  obtain ⟨n, r, m, read, port, -⟩ := dotted_eq_some_iff.1 h
  have heeds : Heeds ':' quad := heeds_quad rfl (by decide)
  by_cases colon : ':' ∈ host
  · obtain ⟨w, behind, rfl, lacks⟩ := List.eq_append_cons_of_mem colon
    rw [List.append_assoc, List.cons_append] at read
    obtain ⟨w', -, rfl, -⟩ := heeds.eq_some lacks read
    exact absurd (List.mem_append_right behind List.mem_cons_self) (eq_nil_of_portPart port).2
  · obtain ⟨w', -, rfl, others⟩ := heeds.eq_some colon read
    obtain rfl := (eq_nil_of_portPart port).1
    exact ⟨_, dotted_eq_some_iff.2 ⟨n, _, q, others _, portPart_natDigits small, rfl⟩⟩

/-- The groups end with the first bracket, behind which there has to be the colon before the port. -/
lemma bracketed_of_port (small : q < 65536) {a : SocketAddress}
    (h : bracketed (host ++ ':' :: natDigits p) = some (a, [])) :
    (∃ r, host = '[' :: r) ∧ ∃ b, bracketed (host ++ ':' :: natDigits q) = some (b, []) := by
  obtain ⟨r, n, r', m, opened, read, port, -⟩ := bracketed_eq_some_iff.1 h
  cases host with
  | nil => cases opened
  | cons c host =>
    obtain ⟨rfl, rfl⟩ := List.cons.inj opened
    refine ⟨⟨host, rfl⟩, ?_⟩
    rw [List.append_eq] at read
    by_cases bracket : ']' ∈ host
    · obtain ⟨w, behind, rfl, lacks⟩ := List.eq_append_cons_of_mem bracket
      rw [List.append_assoc, List.cons_append] at read
      obtain ⟨w', lacks', split, others⟩ := heeds_enclosed.eq_some lacks read
      obtain rfl : w' = [] := by
        cases w' with
        | nil => rfl
        | cons c w' =>
          obtain rfl := (List.cons.inj split).1
          exact absurd List.mem_cons_self lacks'
      obtain rfl := (List.cons.inj split).2
      obtain rfl := (eq_nil_of_portPart port).1
      refine ⟨_, bracketed_eq_some_iff.2 ⟨_, n, _, q, rfl, ?_, portPart_natDigits small, rfl⟩⟩
      rw [List.append_eq, List.append_assoc]
      exact others _
    · have lacks : ']' ∉ host ++ ':' :: natDigits p := by
        rw [List.mem_append, List.mem_cons, not_or, not_or]
        exact ⟨bracket, by decide, fun m => by cases isDigit_natDigits m⟩
      exact absurd List.mem_cons_self (heeds_enclosed.not_mem lacks read)

/-- A text that begins with a bracket does not begin with a number. -/
lemma dotted_bracket (r : List Char) : dotted ('[' :: r) = none := rfl

end Port

/-- A text is an address and a port of one form, or else of the other, to its end. -/
lemma exists_parse?_iff {text : String} : (∃ a, parse? text = some a) ↔
    (∃ a, dotted text.toList = some (a, [])) ∨
      dotted text.toList = none ∧ ∃ a, bracketed text.toList = some (a, []) := by
  unfold parse?
  generalize dotted text.toList = numbers
  generalize bracketed text.toList = groups
  rcases numbers with _ | ⟨a, _ | ⟨c, rest⟩⟩
  · rcases groups with _ | ⟨a, _ | ⟨c, rest⟩⟩ <;> simp
  · simp
  · simp

/-- An address that can be read with one port can be read with any other. -/
theorem exists_parse?_of_port {host : String} {p q : Nat} (small : q < 65536)
    (h : ∃ a, parse? (host ++ ":" ++ toString p) = some a) : ∃ a, parse? (host ++ ":" ++ toString q) = some a := by
  have chars (n : Nat) : (host ++ ":" ++ toString n).toList = host.toList ++ ':' :: natDigits n := by
    rw [String.toList_append, String.toList_append, toList_toString, List.append_assoc]
    rfl
  rw [exists_parse?_iff, chars] at h ⊢
  obtain ⟨a, numbers⟩ | ⟨-, a, groups⟩ := h
  · exact .inl (dotted_of_port small numbers)
  · obtain ⟨⟨r, opened⟩, read⟩ := bracketed_of_port small groups
    exact .inr ⟨by rw [opened, List.cons_append, dotted_bracket], read⟩

end TenantOverlay.SocketAddress
