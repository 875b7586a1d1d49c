import TenantOverlay.Proofs.Store.Memory
import TenantOverlay.Proofs.Text.Trimming

/-!
# The store in memory as a tree of paths

A key names a path, which is the key without the slashes around it (`Names`, `names_iff`), and all keys of a
store that has only been sent requests are paths (`KeyTree.bare_after`). What lies below a path has it, a slash
and a rest for its key (`KeyTree.childKey`), and the store finds just that (`KeyTree.mem_childrenOf_iff`). The
`cases` lemmas say what each request comes to. By `KeyTree.acts_on_path` the requests for one key fit together.
-/

namespace TenantOverlay

/-- No slash stands at either end of a key. -/
structure IsPath (key : String) : Prop where
  head : key.toList.head? ≠ some '/'
  last : key.toList.getLast? ≠ some '/'

/-- A key names a path when it is the path with any slashes around it. -/
structure Names (key path : String) : Prop where
  isPath : IsPath path
  slashes : ∃ before after : Nat,
    key.toList = List.replicate before '/' ++ path.toList ++ List.replicate after '/'

section Names

variable {key path : String}

lemma isPath_iff_isTrimmed : IsPath key ↔ Text.IsTrimmed (· == '/') key.toList := by
  constructor
  · rintro ⟨head, last⟩
    refine ⟨fun c m => beq_eq_false_iff_ne.2 ?_, fun c m => beq_eq_false_iff_ne.2 ?_⟩
    · rintro rfl
      exact head m
    · rintro rfl
      exact last m
  · rintro ⟨head, last⟩
    exact ⟨fun e => absurd (head _ e) (by decide), fun e => absurd (last _ e) (by decide)⟩

/-- The path that a key names is its normal form. -/
theorem names_iff : Names key path ↔ normalizeKey key = path := by
  have chars : normalizeKey key = path ↔ Text.trimBy (· == '/') key.toList = path.toList := by
    unfold normalizeKey
    exact ⟨fun e => by rw [← e, String.toList_ofList], fun e => by rw [e, String.ofList_toList]⟩
  rw [chars, Text.trimBy_eq_iff, ← isPath_iff_isTrimmed]
  constructor
  · rintro ⟨isPath, before, after, split⟩
    refine ⟨isPath, _, _, split, fun c m => ?_, fun c m => ?_⟩
    · exact beq_iff_eq.2 (List.eq_of_mem_replicate m)
    · exact beq_iff_eq.2 (List.eq_of_mem_replicate m)
  · rintro ⟨isPath, before, after, split, front, back⟩
    have slashes (cs : List Char) (h : ∀ c ∈ cs, (c == '/') = true) : cs = List.replicate cs.length '/' :=
      List.eq_replicate_iff.2 ⟨rfl, fun c m => eq_of_beq (h c m)⟩
    exact ⟨isPath, before.length, after.length, by rw [← slashes before front, ← slashes after back, split]⟩

lemma isPath_normalizeKey (key : String) : IsPath (normalizeKey key) := (names_iff.2 rfl).isPath

end Names

namespace KeyTree

variable {t : KeyTree} {key path directory value : String}

/-- A key in a directory. -/
abbrev childKey (directory name : String) : String := directory ++ "/" ++ name

lemma below?_childKey {name : String} : below? directory (childKey directory name) = some name.toList := by
  rw [below?_eq_some_iff, childKey, String.toList_append, String.toList_append, List.append_assoc]
  rfl

lemma eq_childKey_of_below? {k : String} {rest : List Char} (h : below? directory k = some rest) :
    k = childKey directory (String.ofList rest) := by
  rw [below?_eq_some_iff] at h
  apply String.toList_inj.1
  rw [h, childKey, String.toList_append, String.toList_append, String.toList_ofList (l := rest),
    List.append_assoc]
  rfl

/-- A key lies below a directory when it is the directory with a slash and something after it. -/
lemma isBelow_iff {k : String} : isBelow directory k = true ↔ ∃ rest, k = childKey directory rest := by
  unfold isBelow
  rw [Option.isSome_iff_exists]
  constructor
  · rintro ⟨rest, below⟩
    exact ⟨_, eq_childKey_of_below? below⟩
  · rintro ⟨rest, rfl⟩
    exact ⟨_, below?_childKey⟩

/-- The values below a directory are those under its keys. -/
lemma mem_childrenOf_iff {rest : List Char} :
    (rest, value) ∈ t.childrenOf directory ↔
      t.get? (childKey directory (String.ofList rest)) = some value := by
  unfold childrenOf
  simp only [List.mem_filterMap, Option.map_eq_some_iff, Prod.mk.injEq]
  constructor
  · rintro ⟨⟨k, v⟩, m, r, below, rfl, rfl⟩
    rw [← eq_childKey_of_below? below]
    exact t.get?_eq_some_iff.2 m
  · intro present
    refine ⟨_, t.get?_eq_some_iff.1 present, rest, ?_, rfl, rfl⟩
    rw [below?_childKey, String.toList_ofList]

/-- No two of them have the same key. -/
lemma nodup_childrenOf (t : KeyTree) (directory : String) : ((t.childrenOf directory).map (·.1)).Nodup := by
  refine List.pairwise_map.2 (List.Pairwise.filterMap _ (fun e f less c hc d hd same => ?_) t.sorted)
  simp only [Option.map_eq_some_iff] at hc hd
  obtain ⟨rest, below, rfl⟩ := hc
  obtain ⟨rest', below', rfl⟩ := hd
  obtain rfl : rest = rest' := same
  rw [eq_childKey_of_below? below, eq_childKey_of_below? below'] at less
  exact absurd (Std.ReflCmp.compare_self.symm.trans less) nofun

/-- There is a value below a directory. -/
def HasBelow (t : KeyTree) (directory : String) : Prop :=
  ∃ rest, (t.get? (childKey directory rest)).isSome = true

lemma childrenOf_ne_nil_iff : t.childrenOf directory ≠ [] ↔ t.HasBelow directory := by
  constructor
  · intro some
    obtain ⟨⟨rest, value⟩, m⟩ := List.exists_mem_of_ne_nil _ some
    exact ⟨_, Option.isSome_of_eq_some (mem_childrenOf_iff.1 m)⟩
  · rintro ⟨rest, present⟩
    obtain ⟨value, e⟩ := Option.isSome_iff_exists.1 present
    rw [← String.ofList_toList (s := rest)] at e
    exact List.ne_nil_of_mem (mem_childrenOf_iff.2 e)

/-- Several values lie below a directory when two keys do. -/
lemma two_le_childrenOf_iff : 2 ≤ (t.childrenOf directory).length ↔ ∃ rest rest', rest ≠ rest' ∧
    (t.get? (childKey directory rest)).isSome = true ∧ (t.get? (childKey directory rest')).isSome = true := by
  constructor
  · intro two
    have apart := t.nodup_childrenOf directory
    have present (c) (m : c ∈ t.childrenOf directory) :
        (t.get? (childKey directory (String.ofList c.1))).isSome = true :=
      Option.isSome_of_eq_some (mem_childrenOf_iff.1 m)
    match children : t.childrenOf directory, two with
    | c :: d :: _, _ =>
      rw [children] at apart present
      refine ⟨_, _, fun same => ?_, present c (by simp), present d (by simp)⟩
      exact List.rel_of_pairwise_cons apart List.mem_cons_self (String.ofList_injective same)
  · rintro ⟨rest, rest', apart, present, present'⟩
    have found {rest : String} (h : (t.get? (childKey directory rest)).isSome = true) :
        ∃ v, (rest.toList, v) ∈ t.childrenOf directory := by
      obtain ⟨v, e⟩ := Option.isSome_iff_exists.1 h
      exact ⟨v, mem_childrenOf_iff.2 (by rwa [String.ofList_toList])⟩
    obtain ⟨v, m⟩ := found present
    obtain ⟨v', m'⟩ := found present'
    match t.childrenOf directory, m, m' with
    | [c], m, m' =>
      have same := (List.mem_singleton.1 m).trans (List.mem_singleton.1 m').symm
      exact absurd (String.toList_inj.1 (congrArg Prod.fst same)) apart
    | _ :: _ :: _, _, _ => simp

lemma holds_iff_hasBelow : t.holds key = true ↔ (t.get? key).isSome = true ∨ t.HasBelow key := by
  rw [holds_eq_true_iff]
  constructor
  · rintro ⟨k, rfl | below, present⟩
    · exact .inl present
    · obtain ⟨rest, rfl⟩ := isBelow_iff.1 below
      exact .inr ⟨rest, present⟩
  · rintro (present | ⟨rest, present⟩)
    · exact ⟨key, .inl rfl, present⟩
    · exact ⟨_, .inr (isBelow_iff.2 ⟨rest, rfl⟩), present⟩

/-- A key is there when it has a value or values below it. -/
lemma holds_iff : t.holds key = true ↔ (t.get? key).isSome = true ∨ t.childrenOf key ≠ [] := by
  rw [holds_iff_hasBelow, childrenOf_ne_nil_iff]

/-- The values directly below a directory, with the names of their files. -/
def files (t : KeyTree) (directory : String) : List (List Char × String) :=
  (t.childrenOf directory).filter fun c => !c.1.contains '/'

/-- There is a file of a name directly below a directory when there is a value under its key. -/
lemma mem_files_iff {rest : List Char} : (rest, value) ∈ t.files directory ↔
    '/' ∉ rest ∧ t.get? (childKey directory (String.ofList rest)) = some value := by
  unfold files
  rw [List.mem_filter, mem_childrenOf_iff, and_comm]
  simp

/-- What lies directly below a directory: its keys in the store without a further slash. -/
def IsLevel (t level : KeyTree) (directory : String) : Prop :=
  ∀ k value, level.get? k = some value ↔
    t.get? k = some value ∧ ∃ name : String, '/' ∉ name.toList ∧ k = childKey directory name

/-- The entries directly below a directory. -/
def level (t : KeyTree) (directory : String) : KeyTree :=
  t.filter fun k _ => (below? directory k).any fun rest => !rest.contains '/'

lemma isLevel_level : t.IsLevel (t.level directory) directory := by
  intro k value
  rw [level, SortedMap.get?_filter, Option.filter_eq_some_iff, Option.any_eq_true]
  refine and_congr_right fun _ => ?_
  constructor
  · rintro ⟨rest, below, single⟩
    refine ⟨String.ofList rest, ?_, eq_childKey_of_below? below⟩
    rw [String.toList_ofList]
    simpa using single
  · rintro ⟨name, single, rfl⟩
    refine ⟨_, below?_childKey, ?_⟩
    simpa using single

/-- There is only one such content. -/
lemma IsLevel.eq_level {l : KeyTree} (h : t.IsLevel l directory) : l = t.level directory :=
  SortedMap.ext fun k => Option.ext fun value => (h k value).trans (isLevel_level k value).symm

lemma values_files : (t.files directory).map (·.2) = (t.level directory).values := by
  unfold files childrenOf level SortedMap.values SortedMap.filter
  dsimp only
  induction t.entries with
  | nil => rfl
  | cons e entries ih =>
    cases below : below? directory e.1 with
    | none =>
      simp only [List.filterMap_cons, List.filter_cons, below, Option.map_none, Option.any_none]
      exact ih
    | some rest =>
      simp only [List.filterMap_cons, List.filter_cons, below, Option.map_some, Option.any_some]
      split
      · rw [List.map_cons, List.map_cons, ih]
      · exact ih

end KeyTree

namespace Result

variable {key : String} {values : List String}

/-- The only value of some at a key. -/
def only (key : String) : List String → Result String
  | [] => .error (.notFound key)
  | [v] => .ok v
  | _ :: _ :: _ => .error (.multipleValues key)

lemma only_eq_notFound_iff : (∃ what, only key values = .error (.notFound what)) ↔ values = [] := by
  match values with
  | [] => exact iff_of_true ⟨_, rfl⟩ rfl
  | [_] => exact iff_of_false nofun nofun
  | _ :: _ :: _ => exact iff_of_false nofun nofun

lemma only_eq_multipleValues_iff :
    (∃ what, only key values = .error (.multipleValues what)) ↔ 2 ≤ values.length := by
  match values with
  | [] => exact iff_of_false nofun nofun
  | [_] => exact iff_of_false nofun (by simp)
  | _ :: _ :: _ => exact iff_of_true ⟨_, rfl⟩ (by simp)

end Result

namespace KeyTree

section Reads

variable {t : KeyTree} {key path : String} (named : normalizeKey key = path)

include named

lemma search_eq_only (noFile : t.get? path = none) :
    t.search key = Result.only path ((t.childrenOf path).map (·.2)) := by
  unfold search
  simp only [named, noFile]
  match t.childrenOf path with
  | [] => rfl
  | [_] => rfl
  | _ :: _ :: _ => rfl

lemma list_of_directory (nonempty : t.childrenOf path ≠ []) :
    t.list key = .ok ((t.files path).map (·.2)) := by
  unfold list
  rw [named]
  dsimp only
  split
  · exact absurd ‹_› nonempty
  · rfl

lemma list_of_nothing (none : t.childrenOf path = []) : t.list key = .error (.notFound path) := by
  unfold list
  simp only [named, none]

end Reads

section Contents

/-- What a store holds after requests. -/
def after (requests : List StoreRequest) : KeyTree := requests.foldl (fun t r => (t.answer r).2) .empty

variable {t : KeyTree} {k : String}

/-- Each key of a store is a path. -/
def Bare (t : KeyTree) : Prop := ∀ k, (t.get? k).isSome = true → IsPath k

lemma Bare.answer (bare : t.Bare) (r : StoreRequest) : (t.answer r).2.Bare := by
  intro k present
  obtain ⟨value, e⟩ := Option.isSome_iff_exists.1 present
  obtain before | written := get?_answer_eq_some e
  · exact bare k (Option.isSome_of_eq_some before)
  · cases r with
    | create key v =>
      cases written
      exact isPath_normalizeKey key
    | delete | «exists» | list | search => cases written

/-- Whatever is requested, all keys are paths. -/
lemma bare_after (requests : List StoreRequest) : (after requests).Bare := by
  suffices run : ∀ t : KeyTree, t.Bare → (requests.foldl (fun t r => (t.answer r).2) t).Bare from
    run _ fun _ => nofun
  induction requests with
  | nil => exact fun _ bare => bare
  | cons r requests ih => exact fun t bare => ih _ (bare.answer r)

end Contents

section Requests

variable {t : KeyTree} {key path k value : String}

/-- A value that is removed by a deletion lies at the key or below it. -/
lemma get?_delete_eq_some_iff : (t.answer (.delete key)).2.get? k = some value ↔
    t.get? k = some value ∧ k ≠ normalizeKey key ∧ ∀ rest, k ≠ childKey (normalizeKey key) rest := by
  rw [← not_exists, ← isBelow_iff, Bool.not_eq_true]
  by_cases covered : k = normalizeKey key ∨ isBelow (normalizeKey key) k = true
  · rw [get?_answer_delete covered]
    refine iff_of_false nofun ?_
    rintro ⟨-, own, above⟩
    exact covered.elim own (Bool.eq_false_iff.1 above)
  · rw [not_or, Bool.not_eq_true] at covered
    rw [get?_answer_delete_of_not covered.1 covered.2]
    exact (and_iff_left covered).symm

lemma create_eq_ok_iff : (t.create key value).1 = .ok () ↔ t.get? (normalizeKey key) = none := by
  obtain ⟨taken, e⟩ | ⟨free, e⟩ := t.create_cases key value
  · rw [e]
    refine iff_of_false nofun fun free => ?_
    rw [free] at taken
    cases taken
  · rw [e]
    exact iff_of_true rfl free

lemma get?_create (free : t.get? (normalizeKey key) = none) :
    (t.answer (.create key value)).2.get? k = if k = normalizeKey key then some value else t.get? k := by
  rw [get?_answer_create]
  by_cases own : k = normalizeKey key
  · rw [if_pos own.symm, if_pos own, own, free]
    rfl
  · rw [if_neg (Ne.symm own), if_neg own]

/-- What a deletion comes to: it removes what there is, or finds nothing and changes nothing. -/
lemma delete_cases (t : KeyTree) (key : String) :
    t.holds (normalizeKey key) = true ∧ (t.delete key).1 = .ok () ∨
      t.holds (normalizeKey key) = false ∧ t.delete key = (.error (.notFound (normalizeKey key)), t) := by
  unfold delete
  dsimp only
  cases t.holds (normalizeKey key) with
  | true => exact .inl ⟨rfl, rfl⟩
  | false => exact .inr ⟨rfl, rfl⟩

lemma delete_eq_ok_iff : (t.delete key).1 = .ok () ↔ t.holds (normalizeKey key) = true := by
  obtain ⟨there, e⟩ | ⟨absent, e⟩ := t.delete_cases key
  · exact iff_of_true e there
  · rw [e, absent]
    exact iff_of_false nofun nofun

/-- What a search comes to: the value of the key itself, or the only one below it. -/
lemma search_cases (t : KeyTree) (key : String) :
    (∃ value, t.get? (normalizeKey key) = some value ∧ t.search key = .ok value) ∨
      t.get? (normalizeKey key) = none ∧
        t.search key = Result.only (normalizeKey key) ((t.childrenOf (normalizeKey key)).map (·.2)) := by
  cases own : t.get? (normalizeKey key) with
  | some value => exact .inl ⟨value, rfl, search_of_get? own⟩
  | none => exact .inr ⟨rfl, search_eq_only rfl own⟩

lemma search_eq_notFound_iff :
    (∃ what, t.search key = .error (.notFound what)) ↔ t.holds (normalizeKey key) = false := by
  rw [← Bool.not_eq_true, holds_iff, not_or, not_ne_iff]
  obtain ⟨value, own, e⟩ | ⟨free, e⟩ := t.search_cases key
  · rw [e, own]
    exact iff_of_false nofun fun absent => absent.1 rfl
  · rw [e, free, Result.only_eq_notFound_iff, List.map_eq_nil_iff]
    exact (and_iff_right nofun).symm

lemma search_eq_multipleValues_iff : (∃ what, t.search key = .error (.multipleValues what)) ↔
    t.get? (normalizeKey key) = none ∧ 2 ≤ (t.childrenOf (normalizeKey key)).length := by
  obtain ⟨value, own, e⟩ | ⟨free, e⟩ := t.search_cases key
  · rw [e, own]
    exact iff_of_false nofun nofun
  · rw [e, free, Result.only_eq_multipleValues_iff, List.length_map]
    exact (and_iff_right rfl).symm

/-- What a list comes to: the values directly below a key, if there is anything below it. -/
lemma list_cases (t : KeyTree) (key : String) :
    t.HasBelow (normalizeKey key) ∧ t.list key = .ok (t.level (normalizeKey key)).values ∨
      ¬ t.HasBelow (normalizeKey key) ∧ t.list key = .error (.notFound (normalizeKey key)) := by
  by_cases below : t.HasBelow (normalizeKey key)
  · refine .inl ⟨below, ?_⟩
    rw [list_of_directory rfl (childrenOf_ne_nil_iff.2 below), values_files]
  · exact .inr ⟨below, list_of_nothing rfl (not_ne_iff.1 (mt childrenOf_ne_nil_iff.1 below))⟩

lemma list_eq_ok_iff {values : List String} : t.list key = .ok values ↔
    t.HasBelow (normalizeKey key) ∧ ∃ level, t.IsLevel level (normalizeKey key) ∧ level.values = values := by
  obtain ⟨below, e⟩ | ⟨nothing, e⟩ := t.list_cases key
  · rw [e, and_iff_right below, Except.ok.injEq]
    constructor
    · rintro rfl
      exact ⟨_, isLevel_level, rfl⟩
    · rintro ⟨level, isLevel, rfl⟩
      rw [isLevel.eq_level]
  · rw [e]
    exact iff_of_false nofun fun h => nothing h.1

lemma list_eq_notFound_iff :
    (∃ what, t.list key = .error (.notFound what)) ↔ ¬ t.HasBelow (normalizeKey key) := by
  obtain ⟨below, e⟩ | ⟨nothing, e⟩ := t.list_cases key
  · rw [e]
    exact iff_of_false nofun fun h => h below
  · rw [e]
    exact iff_of_true ⟨_, rfl⟩ nothing

lemma answer_eq_of_error {r : StoreRequest} {e : Error} (h : (t.answer r).1 = .error e) : (t.answer r).2 = t := by
  cases r with
  | create key value =>
    obtain ⟨-, c⟩ | ⟨-, c⟩ := t.create_cases key value
    · rw [answer, c]
    · rw [answer, c] at h
      cases h
  | delete key =>
    obtain ⟨-, c⟩ | ⟨-, c⟩ := t.delete_cases key
    · cases c.symm.trans h
    · rw [answer, c]
  | «exists» | list | search => rfl

lemma answer_eq_of_read {r : StoreRequest} (h : r.isWrite = false) : (t.answer r).2 = t := by
  cases r with
  | create | delete => cases h
  | «exists» | list | search => rfl

/-- What is below a directory is found behind the slash after it. -/
lemma isValid_of_below? {rest : List Char} (below : below? path k = some rest) :
    (⟨path.utf8ByteSize + 1⟩ : String.Pos.Raw).IsValid k ∧
      ∃ front : String, front.utf8ByteSize = path.utf8ByteSize + 1 ∧ k = front ++ String.ofList rest := by
  have size : (path ++ "/").utf8ByteSize = path.utf8ByteSize + 1 := String.utf8ByteSize_append
  have split : k = (path ++ "/") ++ String.ofList rest := eq_childKey_of_below? below
  refine ⟨String.Pos.Raw.isValid_iff_exists_append.2 ⟨_, _, split, ?_⟩, _, size, split⟩
  exact String.Pos.Raw.ext size.symm

/-- What the requests for a key that names a path say, and what they do. -/
structure ActsOn (t : KeyTree) (key path : String) : Prop where
  names {p : String} : Names key p ↔ p = path
  bare : t.Bare
  answered : ∃ there, (t.answer (.exists key)).1 = .ok there
  exists_iff : (t.answer (.exists key)).1 = .ok true ↔ (t.get? path).isSome = true ∨ t.HasBelow path
  exists_iff_search :
    (t.answer (.exists key)).1 = .ok true ↔ ¬ ∃ what, (t.answer (.search key)).1 = .error (.notFound what)
  exists_iff_delete : (t.answer (.exists key)).1 = .ok true ↔ (t.answer (.delete key)).1 = .ok ()
  deleted {k value : String} : (t.answer (.delete key)).2.get? k = some value ↔
    t.get? k = some value ∧ k ≠ path ∧ ∀ rest, k ≠ childKey path rest
  create_iff {value : String} : (t.answer (.create key value)).1 = .ok () ↔ t.get? path = none
  created {k value : String} : (t.answer (.create key value)).1 = .ok () →
    (t.answer (.create key value)).2.get? k = if k = path then some value else t.get? k
  found {value : String} : (t.answer (.create key value)).1 = .ok () →
    ((t.answer (.create key value)).2.answer (.search key)).1 = .ok value
  /-- There is no one value where the key has none of its own and two keys below it have one. -/
  several : (∃ what, (t.answer (.search key)).1 = .error (.multipleValues what)) ↔
    t.get? path = none ∧ ∃ rest rest', rest ≠ rest' ∧
      (t.get? (childKey path rest)).isSome = true ∧ (t.get? (childKey path rest')).isSome = true
  /-- The values directly below the path are listed in the order of their keys. -/
  list_iff {values : List String} : (t.answer (.list key)).1 = .ok values ↔
    t.HasBelow path ∧ ∃ level, t.IsLevel level path ∧ level.values = values
  list_notFound : (∃ what, (t.answer (.list key)).1 = .error (.notFound what)) ↔ ¬ t.HasBelow path
  refused {r : StoreRequest} {e : Error} : (t.answer r).1 = .error e → (t.answer r).2 = t
  reads {r : StoreRequest} : r.isWrite = false → (t.answer r).2 = t
  /-- The name of what is listed begins a byte after the path, where a character begins. -/
  cut {k : String} {rest : List Char} : below? path k = some rest →
    (⟨path.utf8ByteSize + 1⟩ : String.Pos.Raw).IsValid k ∧
      ∃ front : String, front.utf8ByteSize = path.utf8ByteSize + 1 ∧ k = front ++ String.ofList rest

/-- All that the requests for a key say, after any requests, is what there is at its path and below it. -/
theorem acts_on_path (requests : List StoreRequest) (key : String) :
    (after requests).ActsOn key (normalizeKey key) := by
  have there {t : KeyTree} : (t.answer (.exists key)).1 = .ok true ↔ t.holds (normalizeKey key) = true := by
    rw [answer, Except.ok.injEq]
  constructor
  case names => exact names_iff.trans eq_comm
  case bare => exact bare_after requests
  case answered => exact ⟨_, rfl⟩
  case exists_iff => exact there.trans holds_iff_hasBelow
  case exists_iff_search =>
    rw [there, ← Bool.not_eq_false]
    exact not_congr search_eq_notFound_iff.symm
  case exists_iff_delete => exact there.trans delete_eq_ok_iff.symm
  case deleted => exact get?_delete_eq_some_iff
  case create_iff => exact create_eq_ok_iff
  case created => exact fun created => get?_create (create_eq_ok_iff.1 created)
  case found =>
    intro value created
    refine search_of_get? ?_
    rw [get?_create (create_eq_ok_iff.1 created), if_pos rfl]
  case several => exact search_eq_multipleValues_iff.trans (and_congr_right fun _ => two_le_childrenOf_iff)
  case list_iff => exact list_eq_ok_iff
  case list_notFound => exact list_eq_notFound_iff
  case refused => exact answer_eq_of_error
  case reads => exact answer_eq_of_read
  case cut => exact isValid_of_below?

/-- A directory that is a file too, and a neighbour whose name begins like it. -/
example : ((after [.create "/a" "0", .create "a/é" "1", .create "ab/c" "2", .create "a/b/c" "3",
    .delete "/a/b/"]).answer (.list "//a/")).1 = .ok ["1"] := by decide

end Requests

end KeyTree

end TenantOverlay
