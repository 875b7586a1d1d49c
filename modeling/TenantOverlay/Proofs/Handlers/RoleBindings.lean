import TenantOverlay.Handlers.RoleBindings
import TenantOverlay.Proofs.Operator.Environment
import TenantOverlay.Proofs.Overlay.Naming
import TenantOverlay.Proofs.Reconcile.Handler

/-!
# What the handler of role bindings does

`roleBindings_deletes` and `roleBindings_creates` are the conditions between its operations. The
list that the handler fetches mirrors the cluster (`Fetched`). A deletion takes away every binding
of the network, whatever it looks like. After creation and update both are as they are wanted
(`AsDesired`): a missing one has been created, and one that differed has been deleted first, so that
the creation cannot have found the old one.
-/

namespace TenantOverlay

open Fallible MemoryServices Overlay

variable {fault : Error → Prop} {others : MemoryServices → MemoryServices → Prop}

namespace RoleBindings

/-- What a deletion of some bindings may change. -/
def deletion (names : List String) : Footprint := { deletes := names.map bindingPlace }

/-- Some bindings are those of the cluster that have one of some names. -/
structure Fetched (names : List String) (v : List RoleBinding) (s : MemoryServices) : Prop where
  name (b : RoleBinding) : b ∈ v → bindingName b ∈ names
  found (name : String) : name ∈ names →
    s.object? (bindingPlace name) = v.find? fun b => bindingName b == name

/-- Every binding of the cluster that has one of some names is listed. -/
structure Listed (names : List String) (v : List RoleBinding) (s : MemoryServices) : Prop where
  name (b : RoleBinding) : b ∈ v → bindingName b ∈ names
  found (name : String) : name ∈ names →
    s.object? (bindingPlace name) = none ∨ ∃ b ∈ v, bindingName b = name

lemma Fetched.listed {names : List String} {v : List RoleBinding} {s : MemoryServices}
    (h : Fetched names v s) : Listed names v s where
  name := h.name
  found name m := by
    rw [h.found name m]
    cases e : v.find? fun b => bindingName b == name with
    | none => exact .inl rfl
    | some b => exact .inr ⟨b, List.mem_of_find?_eq_some e, by simpa using List.find?_some e⟩

lemma Listed.lacks {names : List String} {v : List RoleBinding} {s : MemoryServices}
    (h : Listed names v s) (gone : s.Lacks (v.map fun b => bindingPlace (bindingName b))) :
    s.Lacks (names.map bindingPlace) := by
  intro p m
  obtain ⟨name, mn, rfl⟩ := List.mem_map.1 m
  obtain absent | ⟨b, mb, rfl⟩ := h.found name mn
  · exact absent
  · exact gone _ (List.mem_map_of_mem mb)

/-- Taking bindings away keeps a list of them complete. -/
lemma keeps_listed (q : Quiet fault others) {names ns : List String} {v : List RoleBinding} :
    (environment fault others).Keeps (fun c _ => (deletion ns).Covers c) (Listed names v) := by
  refine environment_keeps (fun s t o h => ⟨h.name, fun name m => ?_⟩) fun c s a h =>
    ⟨h.name, fun name m => ?_⟩
  · rw [q.object? rfl o]
    exact h.found name m
  · refine (h.found name m).imp_left fun absent => object?_answer_of_none (fun e => ?_) absent
    exact absurd (a.stores e) List.not_mem_nil

lemma bindingName_eq {s : MemoryServices} (h : (s.cluster.table .roleBindings).Filed) {n : String}
    {b : RoleBinding} (e : s.object? (bindingPlace n) = some b) : bindingName b = n := by
  have named := (h _ b e).1
  unfold bindingName
  rw [named]
  rfl

/-- One more binding in front of those that have other names. -/
lemma Fetched.cons {n : String} {rest : List String} {first : Option RoleBinding}
    {v : List RoleBinding} {s : MemoryServices} (h : Fetched rest v s) (fresh : n ∉ rest)
    (e : s.object? (bindingPlace n) = first) (named : ∀ b, first = some b → bindingName b = n) :
    Fetched (n :: rest) (first.toList ++ v) s where
  name b m := by
    obtain m | m := List.mem_append.1 m
    · rw [named b (by simpa using m)]
      exact List.mem_cons_self
    · exact List.mem_cons_of_mem _ (h.name b m)
  found name m := by
    rw [List.find?_append]
    obtain rfl | later := List.mem_cons.1 m
    · rw [e]
      cases first with
      | none =>
        refine (List.find?_eq_none.2 fun b mv same => fresh ?_).symm
        obtain rfl := beq_iff_eq.1 same
        exact h.name b mv
      | some b =>
        simp only [Option.toList_some, List.find?_singleton, named b rfl, beq_self_eq_true, if_true,
          Option.some_or]
    -- Another name is not that of the first binding, so it is looked up in the rest.
    · have different : first.toList.find? (bindingName · == name) = none := by
        refine List.find?_eq_none.2 fun b mb same => fresh ?_
        obtain rfl := named b (by simpa using mb)
        obtain rfl := beq_iff_eq.1 same
        exact later
      rw [different, Option.none_or]
      exact h.found name later

/-- The fetched bindings are those of the cluster. -/
lemma ensures_fetch (q : Quiet fault others) {names : List String} (nodup : names.Nodup)
    {s : MemoryServices} (h : (s.cluster.table .roleBindings).Filed) :
    Ensures (environment fault others) (fun c _ => Footprint.Covers {} c) (Fetched names)
      (fun _ t => (t.cluster.table .roleBindings).Filed) (fetch names) s := by
  induction names generalizing s with
  | nil => exact ensures_pure ⟨fun _ m => absurd m List.not_mem_nil, nofun⟩
  | cons n rest ih =>
    have ⟨fresh, nodup⟩ := List.nodup_cons.1 nodup
    refine ensures_bind ((ensures_get (q.settled_filed rfl) h fun _ _ => Footprint.covers_get).post
      ?_ fun _ _ p => p)
    rintro first t ⟨rfl, filed⟩
    -- The first binding stays as it was found while the others are fetched.
    have kept := q.keeps_object (f := {}) (bindingPlace n) (· = t.object? (bindingPlace n)) rfl
      List.not_mem_nil List.not_mem_nil
    refine ensures_bind (((ih nodup filed).carry kept rfl).post ?_ fun _ _ p => p.1)
    rintro v u ⟨fetched, same⟩
    exact ensures_pure (fetched.cons fresh same fun b e => bindingName_eq filed e)

lemma ensures_deleteAll (q : Quiet fault others) {names : List String} {v : List RoleBinding}
    (hv : ∀ b ∈ v, bindingName b ∈ names) {s : MemoryServices} :
    Ensures (environment fault others) (fun c _ => (deletion names).Covers c)
      (fun _ t => t.Lacks (v.map fun b => bindingPlace (bindingName b))) (fun _ _ => True)
      (deleteAll v) s := by
  induction v generalizing s with
  | nil => exact ensures_pure nofun
  | cons b rest ih =>
    have mem : bindingPlace (bindingName b) ∈ (deletion names).deletes :=
      List.mem_map_of_mem (hv b List.mem_cons_self)
    refine ensures_bind ((ensures_deleteIfExists (fun _ => q.notFound)
      fun _ => Footprint.covers_delete mem).post ?_ fun _ _ _ => trivial)
    intro _ t gone
    have kept := q.keeps_lacks (f := deletion names) [bindingPlace (bindingName b)]
      (by simp [bindingPlace, Kind.isOfNetwork]) fun _ _ => List.not_mem_nil
    refine ((ih fun b m => hv b (List.mem_cons_of_mem _ m)).carry kept ?_).post ?_ fun _ _ _ => trivial
    · intro p m
      obtain rfl := List.mem_singleton.1 m
      exact gone
    · rintro _ u ⟨others, gone⟩ p m
      obtain rfl | m := List.mem_cons.1 m
      · exact gone _ List.mem_cons_self
      · exact others p m

end RoleBindings

open RoleBindings

/-- A deletion takes away the bindings of the network. -/
theorem roleBindings_deletes (q : Quiet fault others) (o : Overlay) :
    roleBindingsResource.Deletes (environment fault others)
      (fun c _ => (deletion [o.roleBinding, o.pspRoleBinding]).Covers c) o
      (fun s => (s.cluster.table .roleBindings).Filed)
      (Listed [o.roleBinding, o.pspRoleBinding])
      (fun s => s.Lacks [bindingPlace o.roleBinding, bindingPlace o.pspRoleBinding]) where
  current s h := by
    have nodup : [o.roleBinding, o.pspRoleBinding].Nodup :=
      o.bindings_nodup.sublist (List.prefix_append _ _).sublist
    refine ensures_bind (((ensures_fetch q nodup h).mono (fun _ _ => Footprint.Covers.of_empty)
      (fun _ _ p => p) fun _ _ p => p).post ?_ fun _ _ p => p)
    intro v t fetched
    refine ensures_pure fun w e => ?_
    cases e
    exact fetched.listed
  desired v s h := ensures_pure h
  patch v d s h := by
    refine ensures_pure ⟨fun e => ?_, fun w e => ?_⟩
    · obtain rfl := List.isEmpty_iff.1 (@Patch.remove_delete_eq_none (List RoleBinding) _ v e)
      exact h.lacks nofun
    · obtain rfl := @Patch.remove_delete_eq_some (List RoleBinding) _ v w e
      exact h
  delete v s h := by
    refine ensures_bind (((ensures_deleteAll q h.name).carry (keeps_listed q) h).post ?_ fun _ _ p => p.2)
    rintro _ t ⟨gone, listed⟩
    exact ensures_pure fun _ => listed.lacks gone

namespace RoleBindings

/-- What a creation of some bindings may change. -/
def creation (names : List String) : Footprint where
  stores := names.map bindingPlace
  deletes := names.map bindingPlace

/-- A binding grants what is wanted, to whom it is wanted, under the labels that are wanted. -/
structure AsDesired (desired b : RoleBinding) : Prop where
  roleRef : b.body.roleRef = desired.body.roleRef
  subjects : b.body.subjects = desired.body.subjects
  labels : b.metadata.labels = desired.metadata.labels

lemma asDesired_of_not_differs {desired b : RoleBinding} (h : differs b desired = false) :
    AsDesired desired b := by
  simp only [differs, Bool.or_eq_false_iff, bne_eq_false_iff_eq] at h
  exact ⟨h.1.1, h.1.2, h.2⟩

/-- Bindings that can be told apart by their names. -/
structure Named (wanted : List RoleBinding) : Prop where
  name (b : RoleBinding) : b ∈ wanted → b.metadata.name = some (bindingName b)
  distinct (b c : RoleBinding) : b ∈ wanted → c ∈ wanted → bindingName b = bindingName c → b = c

/-- How far the work on a binding is, when some have still to be created and some to be recreated:
one that has to be created is not there, or is as it is wanted. -/
def Status (missing drifted : List RoleBinding) (b : RoleBinding) (found : Option RoleBinding) :
    Prop :=
  (b ∈ missing ∧ ∀ c, found = some c → AsDesired b c) ∨ b ∈ drifted ∨
    ∃ c, found = some c ∧ AsDesired b c

/-- How far the work on all bindings is. -/
def Pending (wanted missing drifted : List RoleBinding) (s : MemoryServices) : Prop :=
  ∀ b ∈ wanted, Status missing drifted b (s.object? (bindingPlace (bindingName b)))

variable {wanted missing drifted : List RoleBinding} {s : MemoryServices}

lemma Pending.mono {missing' drifted' : List RoleBinding} (h : Pending wanted missing drifted s)
    (hm : missing ⊆ missing') (hd : drifted ⊆ drifted') : Pending wanted missing' drifted' s := by
  intro b m
  exact (h b m).imp (fun p => ⟨hm p.1, p.2⟩) (Or.imp_left fun p => hd p)

/-- The work on the other bindings stays as far as it is while one is worked on. -/
lemma keeps_others (q : Quiet fault others) (named : Named wanted) {b : RoleBinding}
    (hb : b ∈ wanted) :
    (environment fault others).Keeps (fun c _ => (creation [bindingName b]).Covers c) fun s =>
      ∀ c ∈ wanted, c ≠ b →
        Status missing drifted c (s.object? (bindingPlace (bindingName c))) := by
  refine environment_keeps (fun s t o h c m ne => ?_) fun call s a h c m ne => ?_
  · rw [q.object? rfl o]
    exact h c m ne
  · have elsewhere : bindingPlace (bindingName c) ∉ [bindingPlace (bindingName b)] := by
      intro e
      have same : bindingName c = bindingName b := by simpa [bindingPlace, ObjectKey.of] using e
      exact ne (named.distinct c b m hb same)
    rw [object?_answer (fun e => elsewhere (a.stores e)) fun e => elsewhere (a.deletes e)]
    exact h c m ne

/-- The work on bindings stays as far as it is if nobody touches bindings. -/
lemma keeps_pending (q : Quiet fault others) {f : Footprint}
    (hs : ∀ name, bindingPlace name ∉ f.stores) (hd : ∀ name, bindingPlace name ∉ f.deletes) :
    (environment fault others).Keeps (fun c _ => f.Covers c) (Pending wanted missing drifted) := by
  refine environment_keeps (fun s t o h b m => ?_) fun call s a h b m => ?_
  · rw [q.object? rfl o]
    exact h b m
  · rw [object?_answer (fun e => hs _ (a.stores e)) fun e => hd _ (a.deletes e)]
    exact h b m

lemma creation_covers {b : RoleBinding} (hb : b ∈ wanted) {c : OperatorCall}
    (h : (creation [bindingName b]).Covers c) : (creation (wanted.map bindingName)).Covers c := by
  have sub : [bindingPlace (bindingName b)] ⊆ (wanted.map bindingName).map bindingPlace := by
    intro p m
    obtain rfl := List.mem_singleton.1 m
    exact List.mem_map_of_mem (List.mem_map_of_mem hb)
  exact h.within ⟨sub, sub, List.Subset.refl _⟩

/-- The creation of one missing binding. -/
lemma ensures_createOne (q : Quiet fault others) (named : Named wanted) {b : RoleBinding}
    (hb : b ∈ wanted) (h : Pending wanted (b :: missing) drifted s)
    (fresh : ∀ c, s.object? (bindingPlace (bindingName b)) = some c → AsDesired b c) :
    Ensures (environment fault others) (fun c _ => (creation (wanted.map bindingName)).Covers c)
      (fun _ => Pending wanted missing drifted) (fun _ => Pending wanted (b :: missing) drifted)
      (Kind.createIfMissing .roleBindings none b) s := by
  have rest : ∀ c ∈ wanted, c ≠ b →
      Status missing drifted c (s.object? (bindingPlace (bindingName c))) := by
    intro c m ne
    exact (h c m).imp_left fun p => ⟨(List.mem_cons.1 p.1).resolve_left ne, p.2⟩
  have created : Ensures (environment fault others)
      (fun c _ => (creation [bindingName b]).Covers c) _ _
      (Kind.createIfMissing .roleBindings none b) s :=
    ensures_createIfMissing (q.settled_object (bindingPlace (bindingName b))
        (fun v => ∀ c, v = some c → AsDesired b c) rfl)
      (fun _ => q.alreadyExists) (named.name b hb) (fun _ => ⟨rfl, rfl, rfl⟩)
      (fun _ => Footprint.covers_create (named.name b hb) List.mem_cons_self) fresh
  refine (created.carry (keeps_others q named hb) rest).mono (fun _ _ => creation_covers hb) ?_ ?_
  · rintro _ t ⟨stands, rest⟩ c m
    by_cases e : c = b
    · subst e
      exact .inr (.inr stands)
    · exact rest c m e
  · rintro _ t ⟨fresh, rest⟩ c m
    by_cases e : c = b
    · subst e
      exact .inl ⟨List.mem_cons_self, fresh⟩
    · exact (rest c m e).imp_left fun p => ⟨List.mem_cons_of_mem _ p.1, p.2⟩

/-- The creation of all missing bindings. -/
lemma ensures_createAll (q : Quiet fault others) (named : Named wanted) (hm : missing ⊆ wanted)
    (apart : List.Disjoint missing drifted) (h : Pending wanted missing drifted s) :
    Ensures (environment fault others) (fun c _ => (creation (wanted.map bindingName)).Covers c)
      (fun _ => Pending wanted [] drifted) (fun _ => Pending wanted missing drifted)
      (createAll missing) s := by
  induction missing generalizing s with
  | nil => exact ensures_pure h
  | cons b rest ih =>
    have hb : b ∈ wanted := hm List.mem_cons_self
    have fresh : ∀ c, s.object? (bindingPlace (bindingName b)) = some c → AsDesired b c := by
      intro c e
      -- A missing binding is not one of the drifted ones, so what is found in its place is as wanted.
      obtain ⟨-, fresh⟩ | different | ⟨c', e', desired⟩ := h b hb
      · exact fresh c e
      · exact absurd different (apart List.mem_cons_self)
      · rw [e] at e'
        cases e'
        exact desired
    refine ensures_bind ((ensures_createOne q named hb h fresh).post ?_ fun _ _ p => p)
    intro _ t h
    refine (ih (List.subset_of_cons_subset hm) (List.disjoint_of_disjoint_cons_left apart) h).post
      (fun _ _ p => p) fun _ _ p => p.mono (List.subset_cons_self _ _) (List.Subset.refl _)

/-- The deletion and the new creation of all bindings that differ. -/
lemma ensures_recreateAll (q : Quiet fault others) (named : Named wanted) (hd : drifted ⊆ wanted)
    (h : Pending wanted [] drifted s) :
    Ensures (environment fault others) (fun c _ => (creation (wanted.map bindingName)).Covers c)
      (fun _ => Pending wanted [] []) (fun _ => Pending wanted [] drifted)
      (recreateAll drifted) s := by
  induction drifted generalizing s with
  | nil => exact ensures_pure h
  | cons b rest ih =>
    have hb : b ∈ wanted := hd List.mem_cons_self
    have others' : ∀ c ∈ wanted, c ≠ b →
        Status [] rest c (s.object? (bindingPlace (bindingName c))) := by
      intro c m ne
      exact (h c m).imp_right (Or.imp_left fun p => (List.mem_cons.1 p).resolve_left ne)
    -- When the deletion fails, the binding still has to be recreated.
    have back {t : MemoryServices} (h : ∀ c ∈ wanted, c ≠ b →
        Status [] rest c (t.object? (bindingPlace (bindingName c)))) :
        Pending wanted [] (b :: rest) t := by
      intro c m
      by_cases e : c = b
      · subst e
        exact .inr (.inl List.mem_cons_self)
      · exact (h c m e).imp_right (Or.imp_left fun p => List.mem_cons_of_mem _ p)
    have deleted : Ensures (environment fault others)
        (fun c _ => (creation [bindingName b]).Covers c) _ _
        (Kind.deleteIfExists .roleBindings none (bindingName b)) s :=
      ensures_deleteIfExists (fun _ => q.notFound)
        fun _ => Footprint.covers_delete List.mem_cons_self
    refine ensures_bind (((deleted.carry (keeps_others q named hb) others').mono
      (fun _ _ => creation_covers hb) (fun _ _ p => p) fun _ _ p => p).post ?_ fun _ _ p => back p.2)
    rintro _ t ⟨gone, others'⟩
    -- The old one is gone, so that a creation that finds one finds the new one.
    have fresh : ∀ c, t.object? (bindingPlace (bindingName b)) = some c → AsDesired b c := by
      intro c e
      rw [gone] at e
      cases e
    have pending : Pending wanted [b] rest t := by
      intro c m
      by_cases e : c = b
      · subst e
        exact .inl ⟨List.mem_cons_self, fresh⟩
      · exact (others' c m e).imp_left fun p => absurd p.1 List.not_mem_nil
    refine ensures_bind ((ensures_createOne q named hb pending fresh).post ?_ ?_)
    · intro _ u h
      exact (ih (List.subset_of_cons_subset hd) h).post (fun _ _ p => p)
        fun _ _ p => p.mono (List.Subset.refl _) (List.subset_cons_self _ _)
    -- When the creation fails, the next attempt deletes the binding once more.
    · intro _ u h c m
      obtain ⟨mb, -⟩ | p := h c m
      · obtain rfl := List.mem_singleton.1 mb
        exact .inr (.inl List.mem_cons_self)
      · exact .inr (p.imp_left fun p => List.mem_cons_of_mem _ p)

lemma mem_missing {current : List RoleBinding} {b : RoleBinding} :
    b ∈ RoleBindings.missing current wanted ↔ b ∈ wanted ∧ namesake? current b = none := by
  simp only [RoleBindings.missing, List.mem_filter, Option.isNone_iff_eq_none]

lemma mem_drifted {current : List RoleBinding} {b : RoleBinding} :
    b ∈ RoleBindings.drifted current wanted ↔
      b ∈ wanted ∧ ∃ c, namesake? current b = some c ∧ differs c b = true := by
  simp only [RoleBindings.drifted, List.mem_filter, Option.any_eq_true]

lemma disjoint_missing_drifted (current : List RoleBinding) :
    List.Disjoint (RoleBindings.missing current wanted) (RoleBindings.drifted current wanted) := by
  intro b hm hd
  obtain ⟨-, none⟩ := mem_missing.1 hm
  obtain ⟨-, c, some, -⟩ := mem_drifted.1 hd
  rw [none] at some
  cases some

/-- When a list of bindings has been fetched, the missing and the drifted ones are to be worked on. -/
lemma Fetched.pending {current : List RoleBinding} (h : Fetched (wanted.map bindingName) current s) :
    Pending wanted (RoleBindings.missing current wanted) (RoleBindings.drifted current wanted) s := by
  intro b m
  rw [h.found _ (List.mem_map_of_mem m)]
  cases e : namesake? current b with
  | none =>
    refine .inl ⟨mem_missing.2 ⟨m, e⟩, fun c e' => ?_⟩
    have none : current.find? (fun c => bindingName c == bindingName b) = none := e
    rw [none] at e'
    cases e'
  | some c =>
    cases d : differs c b with
    | true => exact .inr (.inl (mem_drifted.2 ⟨m, c, e, d⟩))
    | false => exact .inr (.inr ⟨c, e, asDesired_of_not_differs d⟩)

lemma nonEmpty_eq_none {v : List RoleBinding} (h : nonEmpty v = none) : v = [] := by
  unfold nonEmpty at h
  split at h
  · exact List.isEmpty_iff.1 ‹_›
  · cases h

lemma nonEmpty_eq_some {v w : List RoleBinding} (h : nonEmpty v = some w) : w = v := by
  unfold nonEmpty at h
  split at h
  · cases h
  · cases h
    rfl

/-- A patch that lists what there is to do. -/
def Planned (wanted : List RoleBinding) (p : Patch (List RoleBinding)) (s : MemoryServices) : Prop :=
  ∃ missing drifted, missing ⊆ wanted ∧ drifted ⊆ wanted ∧ List.Disjoint missing drifted ∧
    p.create = nonEmpty missing ∧ p.update = nonEmpty drifted ∧ Pending wanted missing drifted s

/-- A patch of which the creations have been carried out. -/
def Made (wanted : List RoleBinding) (p : Patch (List RoleBinding)) (s : MemoryServices) : Prop :=
  ∃ drifted, drifted ⊆ wanted ∧ p.update = nonEmpty drifted ∧ Pending wanted [] drifted s

lemma named_networkBindings (o : Overlay) : Named o.networkBindings where
  name b m := by
    simp only [networkBindings, List.mem_cons, List.not_mem_nil, or_false] at m
    obtain rfl | rfl := m <;> rfl
  distinct b c mb mc e := by
    have nodup := o.bindings_nodup
    simp only [List.nodup_cons, List.mem_cons, not_or] at nodup
    simp only [networkBindings, List.mem_cons, List.not_mem_nil, or_false] at mb mc
    obtain rfl | rfl := mb <;> obtain rfl | rfl := mc
    · rfl
    · exact absurd e nodup.1.1
    · exact absurd e.symm nodup.1.1
    · rfl

end RoleBindings

/-- After creation and update the bindings of the network are as they are wanted. -/
theorem roleBindings_creates (q : Quiet fault others) (o : Overlay) :
    roleBindingsResource.Creates (environment fault others)
      (fun c _ => (creation [o.roleBinding, o.pspRoleBinding]).Covers c) o
      (fun s => (s.cluster.table .roleBindings).Filed)
      (Fetched [o.roleBinding, o.pspRoleBinding])
      (Planned o.networkBindings) (Made o.networkBindings)
      (Pending o.networkBindings [] []) where
  current s h := by
    have nodup : [o.roleBinding, o.pspRoleBinding].Nodup :=
      o.bindings_nodup.sublist (List.prefix_append _ _).sublist
    refine ensures_bind (((ensures_fetch q nodup h).allow fun _ _ => Footprint.Covers.of_empty).post
      ?_ fun _ _ p => p)
    intro v t fetched
    refine ensures_pure fun w e => ?_
    cases e
    exact fetched
  desired v s h := by
    refine ensures_pure (ensures_pure ?_)
    exact ⟨_, _, fun _ m => (mem_missing.1 m).1, fun _ m => (mem_drifted.1 m).1,
      disjoint_missing_drifted v, rfl, rfl, Fetched.pending h⟩
  nothingToCreate p s h e := by
    obtain ⟨missing, drifted, -, hd, -, hc, hu, pending⟩ := h
    obtain rfl := nonEmpty_eq_none (hc.symm.trans e)
    exact ⟨drifted, hd, hu, pending⟩
  create p w s h e := by
    obtain ⟨missing, drifted, hm, hd, apart, hc, hu, pending⟩ := h
    obtain rfl := nonEmpty_eq_some (hc.symm.trans e)
    refine ensures_bind ((ensures_createAll q (named_networkBindings o) hm apart pending).post ?_ ?_)
    · exact fun _ t pending => ensures_pure fun _ => ⟨drifted, hd, hu, pending⟩
    · exact fun _ t pending => ⟨_, drifted, hm, hd, apart, hc, hu, pending⟩
  nothingToUpdate p s h e := by
    obtain ⟨drifted, -, hu, pending⟩ := h
    obtain rfl := nonEmpty_eq_none (hu.symm.trans e)
    exact pending
  update p w s h e := by
    obtain ⟨drifted, hd, hu, pending⟩ := h
    obtain rfl := nonEmpty_eq_some (hu.symm.trans e)
    refine ensures_bind ((ensures_recreateAll q (named_networkBindings o) hd pending).post ?_ ?_)
    · exact fun _ t pending => ensures_pure fun _ => pending
    · exact fun _ t pending => ⟨_, hd, hu, pending⟩

end TenantOverlay
