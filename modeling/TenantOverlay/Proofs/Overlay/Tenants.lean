import Mathlib.Data.List.DropRight
import TenantOverlay.Proofs.Overlay.Naming

/-!
# The names of different tenants

When the objects of two overlays stand at places of their own, and their networks have keys of their
own. The identifier of a cluster is one part of every name, and in some of them not the last part, so
that identifiers can be different and still lead to the same name. `BindingClash` lists how the role
bindings of two clusters become namesakes (`shares_binding_iff`), and `KeysNest` how the keys of one
network come to lie among those of another (`shares_key_iff`). Identifiers are `IdsApart` when neither
happens; then nothing is shared (`places_disjoint`, `keys_disjoint`).
-/

namespace TenantOverlay

/-- A role binding of the cluster `a` is the namesake of one of the cluster `b`, for the identifier
`a` ends in what tells the role bindings of `b` apart. -/
inductive BindingClash (a b : String) : Prop where
  | psp : a = b ++ "-psp" → BindingClash a b
  | deletion : a = b ++ "-deletion" → BindingClash a b
  | deletionPsp : a = b ++ "-deletion-psp" → BindingClash a b
  | network : networkApp ++ "-" ++ a = b ++ "-deletion" → BindingClash a b

/-- An identifier without slashes at its end. -/
def idStem (id : String) : String := String.ofList (id.toList.rdropWhile (· == '/'))

/-- A key is the one of a directory or lies below it. -/
def AtOrBelow (directory key : String) : Prop := key = directory ∨ isBelow directory key = true

/-- The keys of one of two networks lie among those of the other. -/
def KeysNest (a b : String) : Prop :=
  AtOrBelow (idStem a) (idStem b) ∨ AtOrBelow (idStem b) (idStem a)

/-- Neither objects nor keys of two clusters are in one another's way. -/
structure IdsApart (a b : String) : Prop where
  bindings : ¬ BindingClash a b
  bindings' : ¬ BindingClash b a
  keys : ¬ KeysNest a b

section Decisions

variable {a b : String}

lemma bindingClash_iff : BindingClash a b ↔ a = b ++ "-psp" ∨ a = b ++ "-deletion" ∨
    a = b ++ "-deletion-psp" ∨ networkApp ++ "-" ++ a = b ++ "-deletion" := by
  constructor
  · rintro (e | e | e | e)
    · exact .inl e
    · exact .inr (.inl e)
    · exact .inr (.inr (.inl e))
    · exact .inr (.inr (.inr e))
  · rintro (e | e | e | e)
    · exact .psp e
    · exact .deletion e
    · exact .deletionPsp e
    · exact .network e

lemma idsApart_iff : IdsApart a b ↔ ¬ BindingClash a b ∧ ¬ BindingClash b a ∧ ¬ KeysNest a b :=
  ⟨fun h => ⟨h.bindings, h.bindings', h.keys⟩, fun h => ⟨h.1, h.2.1, h.2.2⟩⟩

instance : Decidable (BindingClash a b) := decidable_of_iff' _ bindingClash_iff
instance : Decidable (AtOrBelow a b) := inferInstanceAs (Decidable (_ ∨ _))
instance : Decidable (KeysNest a b) := inferInstanceAs (Decidable (_ ∨ _))
instance : Decidable (IdsApart a b) := decidable_of_iff' _ idsApart_iff

end Decisions

section Keys

variable {d e k p : String}

lemma atOrBelow_iff : AtOrBelow d k ↔
    ∃ rest, k.toList = d.toList ++ rest ∧ ∀ c ∈ rest.head?, c = '/' := by
  constructor
  · rintro (rfl | below)
    · exact ⟨[], (List.append_nil _).symm, nofun⟩
    · obtain ⟨rest, h⟩ := Option.isSome_iff_exists.1 below
      refine ⟨'/' :: rest, below?_eq_some_iff.1 h, ?_⟩
      simp
  · rintro ⟨_ | ⟨c, rest⟩, h, slash⟩
    · rw [List.append_nil] at h
      exact .inl (String.toList_inj.1 h)
    · obtain rfl : c = '/' := slash c rfl
      exact .inr (Option.isSome_iff_exists.2 ⟨rest, below?_eq_some_iff.2 h⟩)

lemma atOrBelow_self (d : String) : AtOrBelow d d := .inl rfl

/-- What two paths have in front of them does not matter. -/
lemma atOrBelow_append_iff : AtOrBelow (p ++ d) (p ++ k) ↔ AtOrBelow d k := by
  simp only [atOrBelow_iff, String.toList_append, List.append_assoc, List.append_cancel_left_eq]

/-- Of two directories with a common key one lies at or below the other. -/
lemma atOrBelow_or_of_common (h : AtOrBelow d k) (h' : AtOrBelow e k) :
    AtOrBelow d e ∨ AtOrBelow e d := by
  obtain ⟨x, hx, slash⟩ := atOrBelow_iff.1 h
  obtain ⟨y, hy, slash'⟩ := atOrBelow_iff.1 h'
  obtain ⟨m, he, rfl⟩ | ⟨m, hd, rfl⟩ := List.append_eq_append_iff.1 (hx.symm.trans hy)
  · refine .inl (atOrBelow_iff.2 ⟨m, he, ?_⟩)
    cases m with
    | nil => exact nofun
    | cons c m => exact slash
  · refine .inr (atOrBelow_iff.2 ⟨m, hd, ?_⟩)
    cases m with
    | nil => exact nofun
    | cons c m => exact slash'

end Keys

namespace Overlay

variable (o : Overlay)

/-- The names of an overlay's role bindings. -/
def bindingNames : List String :=
  [o.roleBinding, o.pspRoleBinding, o.deletionRoleBinding, o.deletionPspRoleBinding]

/-- The store keeps something for the network under a key. -/
def HasKey (key : String) : Prop := AtOrBelow (normalizeKey o.storePath) key

/-- The key of a network, as the store has it. -/
lemma normalizeKey_storePath :
    normalizeKey o.storePath = storeRoot ++ "/br-" ++ idStem o.clusterId := by
  have split : o.storePath = (storeRoot ++ "/br-") ++ o.clusterId := by
    simp only [storePath, bridgeName, String.append_assoc]
    rfl
  -- What is in front of the identifier neither begins nor ends with a slash.
  generalize front : storeRoot ++ "/br-" = p at split ⊢
  have first : ∀ c ∈ (p ++ o.clusterId).toList.head?, (c == '/') = false := by
    subst front
    simp [storeRoot]
  have last : p.toList.reverse.dropWhile (· == '/') = p.toList.reverse := by
    subst front
    decide
  apply String.toList_inj.1
  rw [normalizeKey, split, String.toList_ofList, Text.trimBy, Text.dropWhile_eq_self_iff.2 first,
    String.toList_append, List.reverse_append, List.dropWhile_append, String.toList_append, idStem,
    String.toList_ofList, List.rdropWhile]
  split
  · rename_i nothing
    rw [List.isEmpty_iff.1 nothing, last, List.reverse_reverse, List.reverse_nil, List.append_nil]
  · rw [List.reverse_append, List.reverse_reverse]

variable {o} {o' : Overlay}

/-- Two networks share a key just when the keys of one lie among those of the other. -/
theorem shares_key_iff : (∃ k, o.HasKey k ∧ o'.HasKey k) ↔ KeysNest o.clusterId o'.clusterId := by
  unfold HasKey KeysNest
  simp only [normalizeKey_storePath]
  constructor
  · rintro ⟨k, h, h'⟩
    exact (atOrBelow_or_of_common h h').imp atOrBelow_append_iff.1 atOrBelow_append_iff.1
  · rintro (below | below)
    · exact ⟨_, atOrBelow_append_iff.2 below, atOrBelow_self _⟩
    · exact ⟨_, atOrBelow_self _, atOrBelow_append_iff.2 below⟩

/-- Texts with different last characters are different. -/
lemma append_ne_of_getLast? {x y : String} {c d : Char} (hx : x.toList.getLast? = some c)
    (hy : y.toList.getLast? = some d) (ne : c ≠ d) (a b : String) : a ++ x ≠ b ++ y := by
  intro e
  have last := congrArg (fun s : String => s.toList.getLast?) e
  simp only [String.toList_append, List.getLast?_append, hx, hy, Option.some_or,
    Option.some.injEq] at last
  exact ne last

/-- Names that begin alike are the same just when they go on alike. -/
lemma extended_inj {p a b x y : String} : p ++ a ++ x = p ++ b ++ y ↔ a ++ x = b ++ y := by
  rw [String.append_assoc, String.append_assoc, String.append_right_inj]

lemma extends_iff {p a b x : String} : p ++ a = p ++ b ++ x ↔ a = b ++ x := by
  rw [String.append_assoc, String.append_right_inj]

/-- Role bindings of different clusters are namesakes only when the identifiers clash. -/
lemma clash_of_namesakes (ne : o.clusterId ≠ o'.clusterId) {n : String} (m : n ∈ o.bindingNames)
    (m' : n ∈ o'.bindingNames) :
    BindingClash o.clusterId o'.clusterId ∨ BindingClash o'.clusterId o.clusterId := by
  have psp : "-psp".toList.getLast? = some 'p' := rfl
  have deletion : "-deletion".toList.getLast? = some 'n' := rfl
  have deletionPsp : "-deletion-psp".toList.getLast? = some 'p' := rfl
  have split (a : String) : a ++ "-deletion-psp" = a ++ "-deletion" ++ "-psp" := by
    rw [String.append_assoc]
    rfl
  simp only [bindingNames, List.mem_cons, List.not_mem_nil, or_false] at m m'
  rcases m with rfl | rfl | rfl | rfl
  -- The name of the one is that of the network.
  · rcases m' with e | e | e | e
    · exact absurd ((String.append_right_inj _).1 e) ne
    · exact .inl (.psp (extends_iff.1 e))
    · exact .inl (.network e)
    · exact .inl (.deletionPsp (extends_iff.1 e))
  · rcases m' with e | e | e | e
    · exact .inr (.psp (extends_iff.1 e.symm))
    · exact absurd ((String.append_left_inj _).1 (extended_inj.1 e)) ne
    · exact absurd e (append_ne_of_getLast? psp deletion (by decide) _ _)
    · have e := (extended_inj.1 e).trans (split _)
      exact .inl (.deletion ((String.append_left_inj _).1 e))
  -- The name of the one is that of its deletion, which ends in another character than most.
  · rcases m' with e | e | e | e
    · exact .inr (.network e.symm)
    · exact absurd e (append_ne_of_getLast? deletion psp (by decide) _ _)
    · exact absurd ((String.append_left_inj _).1 e) ne
    · exact absurd e (append_ne_of_getLast? deletion deletionPsp (by decide) _ _)
  · rcases m' with e | e | e | e
    · exact .inr (.deletionPsp (extends_iff.1 e.symm))
    · have e := (extended_inj.1 e.symm).trans (split _)
      exact .inr (.deletion ((String.append_left_inj _).1 e))
    · exact absurd e (append_ne_of_getLast? deletionPsp deletion (by decide) _ _)
    · exact absurd ((String.append_left_inj _).1 (extended_inj.1 e)) ne

/-- A clash of the identifiers makes namesakes. -/
lemma namesakes_of_clash (h : BindingClash o.clusterId o'.clusterId) :
    ∃ n ∈ o.bindingNames, n ∈ o'.bindingNames := by
  have own : o.roleBinding ∈ o.bindingNames := List.mem_cons_self
  cases h with
  | psp e =>
    refine ⟨_, own, ?_⟩
    have : o.roleBinding = o'.pspRoleBinding := extends_iff.2 e
    simp [bindingNames, this]
  | deletion e =>
    have : o.pspRoleBinding = o'.deletionPspRoleBinding := by
      unfold pspRoleBinding deletionPspRoleBinding
      rw [extended_inj, e, String.append_assoc]
      rfl
    exact ⟨o.pspRoleBinding, by simp [bindingNames], by simp [bindingNames, this]⟩
  | deletionPsp e =>
    refine ⟨_, own, ?_⟩
    have : o.roleBinding = o'.deletionPspRoleBinding := extends_iff.2 e
    simp [bindingNames, this]
  | network e =>
    refine ⟨_, own, ?_⟩
    have : o.roleBinding = o'.deletionRoleBinding := e
    simp [bindingNames, this]

/-- Different clusters share a role binding just when their identifiers clash. -/
theorem shares_binding_iff (ne : o.clusterId ≠ o'.clusterId) :
    (∃ n ∈ o.bindingNames, n ∈ o'.bindingNames) ↔
      BindingClash o.clusterId o'.clusterId ∨ BindingClash o'.clusterId o.clusterId := by
  constructor
  · rintro ⟨n, m, m'⟩
    exact clash_of_namesakes ne m m'
  · rintro (clash | clash)
    · exact namesakes_of_clash clash
    · obtain ⟨n, m', m⟩ := namesakes_of_clash clash
      exact ⟨n, m, m'⟩

/-- The namespaces of different clusters are different. -/
lemma namespace_ne_of_ne (ne : o.clusterId ≠ o'.clusterId) :
    o.networkNamespace ≠ o'.networkNamespace ∧ o.destroyerNamespace ≠ o'.destroyerNamespace :=
  ⟨fun e => ne ((String.append_right_inj _).1 e), fun e => ne ((String.append_right_inj _).1 e)⟩

/-- The namespace of a network is not that of a cleanup. -/
lemma networkNamespace_ne_destroyerNamespace (o o' : Overlay) :
    o.networkNamespace ≠ o'.destroyerNamespace := by
  intro e
  have letters := congrArg (fun s : String => s.toList[8]?) e
  simp [networkNamespace, destroyerNamespace, networkApp, destroyerApp] at letters

/-- Identifiers that are apart are different. -/
lemma ne_of_idsApart (apart : IdsApart o.clusterId o'.clusterId) : o.clusterId ≠ o'.clusterId := by
  intro e
  apply apart.keys
  rw [e]
  exact .inl (atOrBelow_self _)

/-- Overlays of clusters that are apart have no place in common. -/
theorem places_disjoint (apart : IdsApart o.clusterId o'.clusterId) {p : Place} (m : p ∈ o.places) :
    p ∉ o'.places := by
  have ne := ne_of_idsApart apart
  obtain ⟨networks, destroyers⟩ := namespace_ne_of_ne ne
  have mixed := networkNamespace_ne_destroyerNamespace o o'
  have mixed' := (networkNamespace_ne_destroyerNamespace o' o).symm
  have bindings (n : String) (m : n ∈ o.bindingNames) : n ∉ o'.bindingNames := fun m' =>
    (clash_of_namesakes ne m m').elim apart.bindings apart.bindings'
  simp only [bindingNames, List.forall_mem_cons] at bindings
  simp only [List.mem_cons, List.not_mem_nil, or_false, not_or] at bindings
  simp only [places, networkPlaces, cleanupPlaces, jobPlaces, List.mem_append, List.mem_cons,
    List.not_mem_nil, or_false] at m ⊢
  rcases m with ((rfl | rfl | rfl | rfl | rfl) | rfl | rfl | rfl) | rfl | rfl
  all_goals simp [daemonSetPlace, accountPlace, networkNamespacePlace, destroyerNamespacePlace,
    bindingPlace, jobPlace, ObjectKey.of, networks, destroyers, mixed, mixed', bindings]

/-- Networks of clusters that are apart have no key in common. -/
theorem keys_disjoint (apart : IdsApart o.clusterId o'.clusterId) {k : String} (h : o.HasKey k) :
    ¬ o'.HasKey k := fun h' => apart.keys (shares_key_iff.1 ⟨k, h, h'⟩)

end Overlay

end TenantOverlay
