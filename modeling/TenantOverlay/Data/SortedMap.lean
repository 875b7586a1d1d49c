/-!
# Finite maps in key order

A map is its list of entries, which the type keeps in strictly increasing key order, so that two
maps with the same entries are equal and reading the entries gives them in order. `get?_insert`,
`get?_erase` and `get?_filter` describe each operation by look-ups, and `ext` says that look-ups
determine the map.
-/

namespace TenantOverlay

/-- The entries are listed with strictly increasing keys. -/
structure SortedMap (κ α : Type) [Ord κ] where
  entries : List (κ × α)
  sorted : entries.Pairwise fun a b => compare a.1 b.1 = .lt

namespace SortedMap

variable {κ α β : Type} [Ord κ]

theorem eq_of_entries_eq {m n : SortedMap κ α} (h : m.entries = n.entries) : m = n := by
  cases m; cases n; simp_all

instance [DecidableEq κ] [DecidableEq α] : DecidableEq (SortedMap κ α) := fun m n =>
  if h : m.entries = n.entries then isTrue (eq_of_entries_eq h)
  else isFalse fun e => h (congrArg entries e)

def empty : SortedMap κ α := ⟨[], .nil⟩

instance : EmptyCollection (SortedMap κ α) := ⟨empty⟩
instance : Inhabited (SortedMap κ α) := ⟨empty⟩

def keys (m : SortedMap κ α) : List κ := m.entries.map (·.1)
def values (m : SortedMap κ α) : List α := m.entries.map (·.2)
def size (m : SortedMap κ α) : Nat := m.entries.length

/-- The value at a key. -/
def get? (m : SortedMap κ α) (k : κ) : Option α :=
  (m.entries.find? fun e => compare e.1 k == .eq).map (·.2)

def contains (m : SortedMap κ α) (k : κ) : Bool :=
  m.entries.any fun e => compare e.1 k == .eq

/-- The entries that satisfy a condition. -/
def filter (m : SortedMap κ α) (p : κ → α → Bool) : SortedMap κ α :=
  ⟨m.entries.filter fun e => p e.1 e.2, m.sorted.filter _⟩

/-- The map without a key. -/
def erase (m : SortedMap κ α) (k : κ) : SortedMap κ α :=
  m.filter fun k' _ => compare k' k != .eq

/-- Each value changed by a function. -/
def map (f : κ → α → β) (m : SortedMap κ α) : SortedMap κ β :=
  ⟨m.entries.map fun e => (e.1, f e.1 e.2), by
    rw [List.pairwise_map]
    exact m.sorted⟩

section Insert

variable [Std.TransOrd κ]

/-- The entries before a key, the new one, and the entries after it. -/
def insert (m : SortedMap κ α) (k : κ) (a : α) : SortedMap κ α where
  entries :=
    m.entries.filter (fun e => compare e.1 k == .lt) ++
      (k, a) :: m.entries.filter fun e => compare e.1 k == .gt
  sorted := by
    rw [List.pairwise_append, List.pairwise_cons]
    refine ⟨m.sorted.filter _, ⟨?_, m.sorted.filter _⟩, ?_⟩
    · intro e he
      simp only [List.mem_filter, beq_iff_eq] at he
      exact Std.OrientedCmp.gt_iff_lt.1 he.2
    · intro e he f hf
      simp only [List.mem_filter, beq_iff_eq, List.mem_cons] at he hf
      rcases hf with rfl | hf
      · exact he.2
      · exact Std.TransCmp.lt_trans he.2 (Std.OrientedCmp.gt_iff_lt.1 hf.2)

/-- The entries of a list; of two entries with the same key the later one counts. -/
def ofList (l : List (κ × α)) : SortedMap κ α :=
  l.foldl (fun m e => m.insert e.1 e.2) empty

/-- The value at a key is replaced by a function of it. -/
def alter (m : SortedMap κ α) (k : κ) (f : Option α → Option α) : SortedMap κ α :=
  match f (m.get? k) with
  | none => m.erase k
  | some a => m.insert k a

end Insert

section Laws

@[simp] theorem get?_empty (k : κ) : (empty : SortedMap κ α).get? k = none := rfl

theorem contains_eq_isSome (m : SortedMap κ α) (k : κ) : m.contains k = (m.get? k).isSome := by
  rw [Bool.eq_iff_iff]
  simp [contains, get?]

variable [Std.LawfulEqOrd κ] (m : SortedMap κ α)

theorem get?_eq_some_iff {k : κ} {a : α} : m.get? k = some a ↔ (k, a) ∈ m.entries := by
  obtain ⟨l, sorted⟩ := m
  simp only [get?, Option.map_eq_some_iff]
  induction l with
  | nil => simp
  | cons e l ih =>
    rw [List.pairwise_cons] at sorted
    by_cases h : compare e.1 k = .eq
    · have hk := Std.LawfulEqOrd.eq_of_compare h
      simp only [List.find?_cons, h, beq_self_eq_true, Option.some.injEq, exists_eq_left',
        List.mem_cons]
      constructor
      · intro ha
        exact Or.inl (by rw [← hk, ← ha])
      · rintro (rfl | hm)
        · rfl
        · have := sorted.1 _ hm
          simp [h] at this
    · rw [List.find?_cons_of_neg (by simpa using h), ih sorted.2]
      simp only [List.mem_cons]
      constructor
      · exact Or.inr
      · rintro (rfl | hm)
        · simp [Std.ReflCmp.compare_self] at h
        · exact hm

theorem get?_insert [Std.TransOrd κ] [DecidableEq κ] (k k' : κ) (a : α) :
    (m.insert k a).get? k' = if k = k' then some a else m.get? k' := by
  apply Option.ext
  intro b
  rw [get?_eq_some_iff]
  simp only [insert, List.mem_append, List.mem_cons, List.mem_filter, Prod.mk.injEq, beq_iff_eq]
  by_cases h : k = k'
  · subst h
    simp [Std.ReflCmp.compare_self, eq_comm]
  · rw [if_neg h, get?_eq_some_iff]
    constructor
    · rintro (⟨hm, -⟩ | ⟨rfl, -⟩ | ⟨hm, -⟩)
      · exact hm
      · exact absurd rfl h
      · exact hm
    · intro hm
      cases c : compare k' k with
      | lt => exact Or.inl ⟨hm, rfl⟩
      | eq => exact absurd (Std.LawfulEqOrd.eq_of_compare c).symm h
      | gt => exact Or.inr (Or.inr ⟨hm, rfl⟩)

theorem get?_filter (p : κ → α → Bool) (k : κ) :
    (m.filter p).get? k = (m.get? k).filter (p k) := by
  apply Option.ext
  intro a
  rw [get?_eq_some_iff, Option.filter_eq_some_iff, get?_eq_some_iff]
  simp [filter]

theorem get?_erase [DecidableEq κ] (k k' : κ) : (m.erase k).get? k' = if k = k' then none else m.get? k' := by
  rw [erase, get?_filter]
  by_cases h : k = k'
  · subst h
    cases m.get? k <;> simp [Std.ReflCmp.compare_self]
  · have : compare k' k ≠ .eq := fun c => h (Std.LawfulEqOrd.eq_of_compare c).symm
    cases m.get? k' <;> simp [h, this]

/-- Maps with the same look-ups are equal. -/
theorem ext [Std.TransOrd κ] {m n : SortedMap κ α} (h : ∀ k, m.get? k = n.get? k) : m = n := by
  apply eq_of_entries_eq
  have mem : ∀ e, e ∈ m.entries ↔ e ∈ n.entries := fun e => by
    rw [← m.get?_eq_some_iff, ← n.get?_eq_some_iff, h]
  have irrefl : ∀ k : κ, compare k k ≠ .lt := fun k => by simp [Std.ReflCmp.compare_self]
  obtain ⟨l, hl⟩ := m
  obtain ⟨r, hr⟩ := n
  simp only at mem ⊢
  clear h
  induction l generalizing r with
  | nil =>
    cases r with
    | nil => rfl
    | cons e r => exact absurd ((mem e).2 List.mem_cons_self) (by simp)
  | cons d l ih =>
    cases r with
    | nil => exact absurd ((mem d).1 List.mem_cons_self) (by simp)
    | cons e r =>
      rw [List.pairwise_cons] at hl hr
      have de : d = e := by
        rcases List.mem_cons.1 ((mem d).1 List.mem_cons_self) with hd | hd
        · exact hd
        · rcases List.mem_cons.1 ((mem e).2 List.mem_cons_self) with he | he
          · exact he.symm
          · exact absurd (Std.TransCmp.lt_trans (hr.1 _ hd) (hl.1 _ he)) (irrefl _)
      subst de
      congr 1
      refine ih hl.2 r hr.2 fun f => ?_
      have := mem f
      simp only [List.mem_cons] at this
      constructor
      · intro hf
        rcases this.1 (Or.inr hf) with rfl | hf'
        · exact absurd (hl.1 _ hf) (irrefl _)
        · exact hf'
      · intro hf
        rcases this.2 (Or.inr hf) with rfl | hf'
        · exact absurd (hr.1 _ hf) (irrefl _)
        · exact hf'

end Laws

end SortedMap

end TenantOverlay
