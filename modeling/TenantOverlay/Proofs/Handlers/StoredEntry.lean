import TenantOverlay.Proofs.Handlers.StoredNetwork
import TenantOverlay.Proofs.NetworkEntry
import TenantOverlay.Proofs.Operator.Effects

/-!
# What becomes of the network's entry

While nobody else is at work, the entry that the handler fetches decides which change it makes
(`StoredNetwork.due`, `StoredNetwork.removal`). After a creation the entry is found and asks for the
overlay's network, unless the network's own key had a value that reads as the empty entry: such a
value is taken for none, and the creation does not overwrite it. A deletion empties the network's key
and everything below it only if an entry was found in which something is set.
-/

namespace TenantOverlay

open Fallible MemoryServices Overlay

variable {fault : Error → Prop} {o : Overlay}

namespace StoredNetwork

/-- The entry that a store has for a network: the one that is found, or the empty one for none. -/
inductive Fetched (o : Overlay) (t : KeyTree) : NetworkEntry → Prop where
  | found {text : String} {e : NetworkEntry} : t.search o.entryPath = .ok text →
    NetworkEntry.parse text = .ok e → Fetched o t e
  | missing {err : Error} : t.search o.entryPath = .error err → err.isNotFound = true →
    Fetched o t .empty

/-- The network's own key has a value that reads as the empty entry. -/
def Blank (o : Overlay) (t : KeyTree) : Prop :=
  ∃ text, t.get? o.entryPath = some text ∧ NetworkEntry.parse text = .ok .empty

/-- A value under the network's own key is the one that is fetched. -/
lemma Fetched.parse_own {t : KeyTree} {e : NetworkEntry} (h : Fetched o t e) {text : String}
    (own : t.get? o.entryPath = some text) : NetworkEntry.parse text = .ok e := by
  cases h with
  | found searched parsed =>
    cases search_entryPath searched own
    exact parsed
  | missing searched _ => exact nomatch search_entryPath searched own

lemma Fetched.found_of_set {t : KeyTree} {e : NetworkEntry} (h : Fetched o t e) (set : e.isEmpty = false) :
    ∃ text, t.search o.entryPath = .ok text ∧ NetworkEntry.parse text = .ok e := by
  cases h with
  | found searched parsed => exact ⟨_, searched, parsed⟩
  | missing => cases set

/-- The entry is fetched as it stands, or it cannot be fetched at all. -/
lemma ensures_fetched (silent : ∀ e, fault e → e.IsSilent) (s : MemoryServices) :
    Ensures (environment fault nobody) (fun _ _ => True) (fun e t => t = s ∧ Fetched o s.store e)
      (fun err t => t = s ∧ (fault err ∨ ∀ e, ¬Fetched o s.store e)) (fetch o) s := by
  have searched : Ensures (environment fault nobody) (fun _ _ => True)
      (fun v t => t = s ∧ ((∃ text, v = some text ∧ s.store.search o.entryPath = .ok text) ∨
        ∃ err, v = none ∧ s.store.search o.entryPath = .error err ∧ err.isNotFound = true))
      (fun err t => t = s ∧ (fault err ∨ ∀ e, ¬Fetched o s.store e))
      ((Option.some <$> OperatorAction.ofStore (.search o.entryPath)).orElseIf Error.isNotFound none)
      s := by
    refine Action.ensures_orElseIf (ensures_map (ensures_storeRequest (I := (· = s)) settled_nobody rfl
      (fun _ _ => trivial) ?_ ?_))
    · rintro t rfl
      show Outcome _ _ (t.store.search o.entryPath) t
      cases r : t.store.search o.entryPath with
      | ok text => exact ⟨rfl, .inl ⟨text, rfl, rfl⟩⟩
      | error err =>
        show if err.isNotFound then _ else _
        split
        · exact ⟨rfl, .inr ⟨err, rfl, rfl, ‹_›⟩⟩
        · refine ⟨rfl, .inr fun e fetched => ?_⟩
          cases fetched with
          | found h _ => exact nomatch r.symm.trans h
          | missing h gone =>
            cases r.symm.trans h
            contradiction
    · rintro err t he rfl
      simp only [(silent err he).1, Bool.false_eq_true, if_false]
      exact ⟨⟨trivial, .inl he⟩, rfl, .inl he⟩
  refine ensures_bind (searched.post ?_ fun _ _ p => p)
  rintro _ t ⟨rfl, ⟨text, rfl, h⟩ | ⟨err, rfl, h, gone⟩⟩
  · refine Action.ensures_ofResult ?_
    cases parsed : NetworkEntry.parse text with
    | ok e => exact ⟨rfl, .found h parsed⟩
    | error err =>
      refine ⟨rfl, .inr fun e fetched => ?_⟩
      cases fetched with
      | found h' parsed' =>
        cases h.symm.trans h'
        exact nomatch parsed.symm.trans parsed'
      | missing h' _ => exact nomatch h.symm.trans h'
  · exact ensures_pure ⟨rfl, .missing h gone⟩

lemma ensures_current (silent : ∀ e, fault e → e.IsSilent) (s : MemoryServices) :
    Ensures (environment fault nobody) (fun _ _ => True)
      (fun f t => ∃ e, f = .continue e ∧ t = s ∧ Fetched o s.store e) (fun _ t => t = s)
      (storedNetworkResource.current o) s := by
  refine ensures_bind ((ensures_fetched silent s).post ?_ fun _ _ p => p.1)
  rintro e t ⟨rfl, fetched⟩
  exact ensures_pure ⟨e, rfl, rfl, fetched⟩

/-- An entry that is written fills the network's own key. -/
lemma makes_write (silent : ∀ e, fault e → e.IsSilent) (e : NetworkEntry) :
    Makes fault (written o.entryPath e.render) (fun _ => True) (write o e) := by
  refine makes_storeRequest (fun e he => (silent e he).2) (fun _ => view_answer_write) fun s err h => ?_
  have answered : (s.store.create o.entryPath e.render).1 = .error err := h
  obtain ⟨-, h'⟩ | ⟨-, h'⟩ := s.store.create_cases o.entryPath e.render
  · rw [h'] at answered
    cases answered
    rfl
  · rw [h'] at answered
    cases answered

lemma makes_clear (silent : ∀ e, fault e → e.IsSilent) :
    Makes fault (cleared o.storePath) (fun _ => True) (clear o) := by
  refine makes_storeRequest (fun e he => (silent e he).1) (fun _ => view_answer_clear) fun s err h => ?_
  have answered : (s.store.delete o.storePath).1 = .error err := h
  unfold KeyTree.delete at answered
  dsimp only at answered
  split at answered
  · cases answered
  · cases answered
    rfl

lemma makes_create (silent : ∀ e, fault e → e.IsSilent) (o : Overlay) (e : NetworkEntry) :
    Makes fault (written o.entryPath e.render) (· = .proceed) (storedNetworkResource.create o e) :=
  (makes_write silent e).result rfl

lemma makes_update (silent : ∀ e, fault e → e.IsSilent) (o : Overlay) (e : NetworkEntry) :
    Makes fault ((cleared o.storePath).andThen (written o.entryPath e.render)) (· = .proceed)
      (storedNetworkResource.update o e) :=
  (makes_clear silent).next fun _ _ => (makes_write silent e).result rfl

lemma makes_delete (silent : ∀ e, fault e → e.IsSilent) (o : Overlay) (e : NetworkEntry) :
    Makes fault (cleared o.storePath) (· = .proceed) (storedNetworkResource.delete o e) :=
  (makes_clear silent).result rfl

/-- An entry that an overlay asks for is not empty. -/
lemma networkEntry_isEmpty (o : Overlay) : o.networkEntry.isEmpty = false := by
  simp [NetworkEntry.isEmpty, networkEntry, NetworkEntry.vxlan, NetworkEntry.empty]

/-- What an entry that was fetched asks for: a patch, and the change that it comes to. -/
inductive Due (o : Overlay) (e : NetworkEntry) : Patch NetworkEntry → Effects → Prop where
  | create : e.isEmpty = true →
    Due o e { create := some o.networkEntry } (written o.entryPath o.networkEntry.render)
  | nothing : e.isEmpty = false → e.sameNetwork o.networkEntry = true → Due o e {} .nothing
  | replace : e.isEmpty = false → e.sameNetwork o.networkEntry = false →
    Due o e { update := some o.networkEntry }
      ((cleared o.storePath).andThen (written o.entryPath o.networkEntry.render))

lemma exists_due (o : Overlay) (e : NetworkEntry) :
    ∃ c, Due o e (StoredNetwork.updatePatch e o.networkEntry) c := by
  unfold StoredNetwork.updatePatch
  rw [networkEntry_isEmpty]
  cases empty : e.isEmpty with
  | true => exact ⟨_, .create empty⟩
  | false =>
    cases same : e.sameNetwork o.networkEntry with
    | true => exact ⟨_, .nothing empty same⟩
    | false => exact ⟨_, .replace empty same⟩

/-- The entry that was fetched in a state asks for a patch, and the change that it comes to is under
way: made from its beginning, it leads to where it would have led. -/
structure Underway (o : Overlay) (s : MemoryServices) (p : Patch NetworkEntry) (c : Effects)
    (t : MemoryServices) : Prop where
  due : ∃ e, Fetched o s.store e ∧ Due o e p c
  leads : c.act t.view = c.act s.view

/-- The change that the entry of a state asks for has been made. -/
def Complete (o : Overlay) (s t : MemoryServices) : Prop :=
  ∃ e p c, Fetched o s.store e ∧ Due o e p c ∧ t.view = c.act s.view

end StoredNetwork

open StoredNetwork

/-- Creation and update make the change that the entry asks for. -/
theorem storedNetwork_settles (silent : ∀ e, fault e → e.IsSilent) (o : Overlay) (s : MemoryServices) :
    storedNetworkResource.Creates (environment fault nobody) (fun _ _ => True) o (· = s)
      (fun e t => t = s ∧ Fetched o s.store e)
      (fun p t => ∃ c, Underway o s p c t)
      (fun p t => ∃ c, Underway o s p c t ∧ (p.update = none → t.view = c.act s.view))
      (StoredNetwork.Complete o s) where
  current t h := by
    subst h
    refine (ensures_current silent t).post ?_ fun _ _ p => p
    rintro f u ⟨e, rfl, rfl, fetched⟩ v eq
    cases eq
    exact ⟨rfl, fetched⟩
  desired e t h := by
    obtain ⟨rfl, fetched⟩ := h
    obtain ⟨c, due⟩ := exists_due o e
    exact ensures_pure (ensures_pure ⟨c, ⟨e, fetched, due⟩, rfl⟩)
  nothingToCreate p t h noCreate := by
    obtain ⟨c, underway⟩ := h
    refine ⟨c, underway, fun noUpdate => ?_⟩
    obtain ⟨e, -, due⟩ := underway.due
    cases due with
    | create => cases noCreate
    | nothing => exact underway.leads
    | replace => cases noUpdate
  create p w t h create := by
    obtain ⟨c, underway⟩ := h
    obtain ⟨e, fetched, due⟩ := underway.due
    cases due with
    | create empty =>
      cases create
      refine ((makes_create silent o o.networkEntry).again underway.leads).post ?_ ?_
      · rintro _ u ⟨-, made⟩ -
        refine ⟨_, ⟨⟨e, fetched, .create empty⟩, ?_⟩, fun _ => made⟩
        rw [made, Effects.act_act]
      · rintro _ u ⟨-, leads⟩
        exact ⟨_, ⟨e, fetched, .create empty⟩, leads⟩
    | nothing => cases create
    | replace => cases create
  nothingToUpdate p t h noUpdate := by
    obtain ⟨c, underway, made⟩ := h
    obtain ⟨e, fetched, due⟩ := underway.due
    exact ⟨e, p, c, fetched, due, made noUpdate⟩
  update p w t h update := by
    obtain ⟨c, underway, -⟩ := h
    obtain ⟨e, fetched, due⟩ := underway.due
    cases due with
    | create => cases update
    | nothing => cases update
    | replace set differs =>
      cases update
      refine ((makes_update silent o o.networkEntry).again underway.leads).post ?_ ?_
      · rintro _ u ⟨-, made⟩ -
        exact ⟨e, _, _, fetched, .replace set differs, made⟩
      · rintro _ u ⟨-, leads⟩
        exact ⟨_, ⟨⟨e, fetched, .replace set differs⟩, leads⟩, nofun⟩

namespace StoredNetwork

/-- The entry that is found asks for the network of the overlay. -/
def Agrees (o : Overlay) (t : KeyTree) : Prop :=
  ∃ text e, t.search o.entryPath = .ok text ∧ NetworkEntry.parse text = .ok e ∧
    e.isEmpty = false ∧ e.sameNetwork o.networkEntry = true

lemma agrees_of_own {t : KeyTree} (h : t.get? o.entryPath = some o.networkEntry.render) :
    Agrees o t := by
  refine ⟨_, o.networkEntry, search_entryPath rfl h, NetworkEntry.parse_render _,
    networkEntry_isEmpty o, ?_⟩
  simp [NetworkEntry.sameNetwork]

/-- What is under the network's own key after its entry has been written. -/
lemma get?_written {t : MemoryServices} {v : View} {text : String}
    (h : t.view = (written o.entryPath text).act v) :
    t.store.get? o.entryPath = some ((v.value o.entryPath).getD text) := by
  have own := congrFun (congrArg View.value h) o.entryPath
  rw [value_written, o.normalizeKey_entryPath, if_pos rfl] at own
  exact own

/-- Nothing is written over. -/
lemma written_eq_self {v : View} {text value : String} (own : v.value o.entryPath = some value) :
    (written o.entryPath text).act v = v := by
  refine View.ext (Effects.object_ofValues _ v) (funext fun key => ?_)
  rw [value_written, o.normalizeKey_entryPath]
  split
  · subst key
    rw [own]
    rfl
  · rfl

lemma entry_cleared (v : View) : ((cleared o.storePath).act v).value o.entryPath = none := by
  rw [value_cleared, if_pos (.inr o.isBelow_entryPath)]

/-- A value that reads as the empty entry is taken for none, and is not written over. -/
lemma Complete.blank {s t : MemoryServices} (h : Complete o s t) (blank : Blank o s.store) :
    t.store = s.store := by
  obtain ⟨text, own, parsed⟩ := blank
  obtain ⟨e, p, c, fetched, due, made⟩ := h
  cases parsed.symm.trans (fetched.parse_own own)
  cases due with
  | create =>
    rw [written_eq_self (v := s.view) own] at made
    exact store_eq_of_view made
  | nothing set => cases set
  | replace set => cases set

lemma Complete.agrees {s t : MemoryServices} (h : Complete o s t) (blank : ¬Blank o s.store) :
    Agrees o t.store := by
  obtain ⟨e, p, c, fetched, due, made⟩ := h
  cases due with
  | create empty =>
    have free : s.store.get? o.entryPath = none := by
      cases own : s.store.get? o.entryPath with
      | none => rfl
      | some text =>
        obtain rfl := beq_iff_eq.1 empty
        exact absurd ⟨text, own, fetched.parse_own own⟩ blank
    have own := get?_written made
    rw [show s.view.value o.entryPath = none from free] at own
    exact agrees_of_own own
  | nothing set same =>
    obtain ⟨text, searched, parsed⟩ := fetched.found_of_set set
    rw [store_eq_of_view made]
    exact ⟨text, e, searched, parsed, set, same⟩
  | replace =>
    rw [Effects.act_andThen] at made
    have own := get?_written made
    rw [entry_cleared] at own
    exact agrees_of_own own

/-- A creation does not touch what is there: it asks for the network of the overlay, or reads as the
empty entry. -/
def Stands (o : Overlay) (t : KeyTree) : Prop := Blank o t ∨ Agrees o t

lemma Complete.stands {s t : MemoryServices} (h : Complete o s t) : Stands o t.store := by
  by_cases blank : Blank o s.store
  · rw [h.blank blank]
    exact .inl blank
  · exact .inr (h.agrees blank)

end StoredNetwork

/-- Where the handler of the stored network goes on after a creation, the entry that is found asks for
the network of the overlay. Only where the network's own key had a value that reads as the empty
entry, the store is as it was. -/
theorem networkEntry_converges {o : Overlay} {s t : MemoryServices}
    (reached : Program.Reaches (environment Error.IsSilent nobody)
      ((storedNetworkResource.ensureCreated o).run, s) (.done (.ok (.continue ())), t)) :
    (¬Blank o s.store → ∃ text e, t.store.search o.entryPath = .ok text ∧
      NetworkEntry.parse text = .ok e ∧ e.network = o.body.network.network ∧
        e.subnetLength = o.body.network.subnetLength ∧ e.backend.vni = o.body.network.vni) ∧
    (Blank o s.store → t.store = s.store) := by
  have ensured := (storedNetwork_settles (fun _ h => h) o s).ensureCreated rfl
  have complete := result_of_reaches ensured (fun _ => settled_nobody) reached rfl
  refine ⟨fun blank => ?_, complete.blank⟩
  obtain ⟨text, e, searched, parsed, -, same⟩ := complete.agrees blank
  simp only [NetworkEntry.sameNetwork, Bool.and_eq_true, beq_iff_eq] at same
  exact ⟨text, e, searched, parsed, same.1.1, same.1.2, same.2⟩

/-- A store with some values. -/
def MemoryServices.ofValues (values : List (String × String)) : MemoryServices :=
  { store := values.foldl (fun t v => (t.create v.1 v.2).2) .empty }

/-- The entry of another network, with the lease of a subnet, is replaced. -/
theorem networkEntry_converges_replaced :
    ∃ (o : Overlay) (s t : MemoryServices), o = Overlay.sample "a" ∧
      s.store.keys = ["coreos.com/network/br-a/config", "coreos.com/network/br-a/subnets/10.0.0.4-30"] ∧
      ¬Blank o s.store ∧
      Program.Reaches (environment Error.IsSilent nobody) ((storedNetworkResource.ensureCreated o).run, s)
        (.done (.ok (.continue ())), t) ∧
      ∃ text e, t.store.search o.entryPath = .ok text ∧ NetworkEntry.parse text = .ok e ∧
        e.network = o.body.network.network ∧ e.subnetLength = o.body.network.subnetLength ∧
          e.backend.vni = o.body.network.vni := by
  let o := Overlay.sample "a"
  let other := NetworkEntry.vxlan "10.0.0.0/16" 30 27
  let s := MemoryServices.ofValues [("coreos.com/network/br-a/config", other.render),
    ("coreos.com/network/br-a/subnets/10.0.0.4-30", "{}")]
  have set : ¬Blank o s.store := by
    rintro ⟨text, own, parsed⟩
    have present : s.store.get? o.entryPath = some other.render := by decide +kernel
    cases own.symm.trans present
    rw [NetworkEntry.parse_render] at parsed
    exact absurd (Except.ok.inj parsed) (by decide)
  have done : (undisturbed (storedNetworkResource.ensureCreated o).run s).1.result? =
      some (.ok (.continue ())) := by decide +kernel
  have reached : Program.Reaches (environment Error.IsSilent nobody) _ _ := reaches_undisturbed done
  exact ⟨o, s, _, rfl, by decide +kernel, set, reached, (networkEntry_converges reached).1 set⟩

/-- A text of which nothing can be read stays in the network's own key, although the handler goes on. -/
theorem networkEntry_blank_stays :
    ∃ (o : Overlay) (s t : MemoryServices), o = Overlay.sample "a" ∧
      s.store.entries = [("coreos.com/network/br-a/config", "\x7b\x7d")] ∧
      Program.Reaches (environment Error.IsSilent nobody) ((storedNetworkResource.ensureCreated o).run, s)
        (.done (.ok (.continue ())), t) ∧
      ¬∃ text e, t.store.search o.entryPath = .ok text ∧ NetworkEntry.parse text = .ok e ∧
        e.network = o.body.network.network ∧ e.subnetLength = o.body.network.subnetLength ∧
          e.backend.vni = o.body.network.vni := by
  let o := Overlay.sample "a"
  let s := MemoryServices.ofValues [("coreos.com/network/br-a/config", "\x7b\x7d")]
  have done : (undisturbed (storedNetworkResource.ensureCreated o).run s).1.result? =
      some (.ok (.continue ())) := by decide +kernel
  have found : (undisturbed (storedNetworkResource.ensureCreated o).run s).2.store.search o.entryPath =
      .ok "\x7b\x7d" := by decide +kernel
  have parsed : NetworkEntry.parse "\x7b\x7d" = .ok .empty := by decide +kernel
  refine ⟨o, s, _, rfl, by decide +kernel, reaches_undisturbed done, ?_⟩
  rintro ⟨text, e, searched, read, network, -, -⟩
  cases searched.symm.trans found
  cases read.symm.trans parsed
  exact absurd network (by decide)

namespace StoredNetwork

/-- Where a deletion goes on, an entry has been fetched. If something is set in it, the network's key
and all below it have been cleared, and otherwise nothing has happened. -/
lemma ensures_deletion (silent : ∀ e, fault e → e.IsSilent) (o : Overlay) (s : MemoryServices) :
    Ensures (environment fault nobody) (fun _ _ => True)
      (fun f t => f = .continue () → ∃ e, Fetched o s.store e ∧
        (e.isEmpty = true → t.view = s.view) ∧
        (e.isEmpty = false → t.view = (cleared o.storePath).act s.view))
      (fun _ _ => True) (storedNetworkResource.ensureDeleted o) s := by
  refine ensures_bind ((Resource.ensures_atStage (ensures_current silent s)).post ?_ fun _ _ _ => trivial)
  rintro f t ⟨e, rfl, rfl, fetched⟩
  -- What is wanted and what has to change is found out without a call.
  show Ensures _ _ _ _ (storedNetworkResource.apply (storedNetworkResource.delete o)
    (if e.isEmpty then ({} : Patch NetworkEntry) else { delete := some e }).delete) t
  cases empty : e.isEmpty with
  | true => exact ensures_pure fun _ => ⟨e, fetched, fun _ => rfl, fun set => nomatch empty.symm.trans set⟩
  | false =>
    refine Resource.ensures_atStage ((makes_delete silent o e t).post ?_ fun _ _ _ => trivial)
    rintro f u ⟨-, made⟩ -
    exact ⟨e, fetched, fun none => (nomatch none.symm.trans empty), fun _ => made⟩

end StoredNetwork

/-- Where the handler of the stored network goes on after a deletion, it has left alone all keys but
that of the network and those below it. These are all cleared if an entry was found in which
something is set; if none was found, the store is as it was. -/
theorem networkRoot_cleared {o : Overlay} {s t : MemoryServices}
    (reached : Program.Reaches (environment Error.IsSilent nobody)
      ((storedNetworkResource.ensureDeleted o).run, s) (.done (.ok (.continue ())), t)) :
    (∀ key, key ≠ normalizeKey o.storePath → isBelow (normalizeKey o.storePath) key = false →
      t.store.get? key = s.store.get? key) ∧
    (∀ text e, s.store.search o.entryPath = .ok text → NetworkEntry.parse text = .ok e →
      e.isEmpty = false → ∀ key,
        key = normalizeKey o.storePath ∨ isBelow (normalizeKey o.storePath) key = true →
          t.store.get? key = none) ∧
    ∀ err, s.store.search o.entryPath = .error err → err.isNotFound = true → t.store = s.store := by
  have ensured := ensures_deletion (fun _ h => h) o s
  obtain ⟨e, fetched, kept, gone⟩ := result_of_reaches ensured (fun _ => settled_nobody) reached rfl
  have value (h : e.isEmpty = false) (key : String) : t.store.get? key =
      if key = normalizeKey o.storePath ∨ isBelow (normalizeKey o.storePath) key = true then none
      else s.store.get? key := by
    have own := congrFun (congrArg View.value (gone h)) key
    rw [value_cleared] at own
    exact own
  refine ⟨fun key own above => ?_, fun text e' searched parsed set key covered => ?_,
    fun err searched notFound => ?_⟩
  · cases empty : e.isEmpty with
    | true => rw [store_eq_of_view (kept empty)]
    | false =>
      rw [value empty, if_neg]
      exact fun covered => covered.elim own fun below => nomatch above.symm.trans below
  · cases fetched with
    | found searched' parsed' =>
      cases searched.symm.trans searched'
      cases parsed.symm.trans parsed'
      rw [value set, if_pos covered]
    | missing searched' => exact nomatch searched.symm.trans searched'
  · cases fetched with
    | found searched' => exact nomatch searched.symm.trans searched'
    | missing => exact store_eq_of_view (kept rfl)

/-- The entry of a network goes with the leases below it. What stands beside it, under a name that
begins in the same way, stays. -/
theorem networkRoot_cleared_beside :
    ∃ (o : Overlay) (s t : MemoryServices), o = Overlay.sample "a" ∧
      s.store.keys = ["coreos.com/network/br-a/config", "coreos.com/network/br-a/subnets/10.0.0.4-30",
        "coreos.com/network/br-ab/config"] ∧
      Program.Reaches (environment Error.IsSilent nobody) ((storedNetworkResource.ensureDeleted o).run, s)
        (.done (.ok (.continue ())), t) ∧
      t.store.get? "coreos.com/network/br-a/config" = none ∧
      t.store.get? "coreos.com/network/br-a/subnets/10.0.0.4-30" = none ∧
      t.store.get? "coreos.com/network/br-ab/config" =
        s.store.get? "coreos.com/network/br-ab/config" := by
  let o := Overlay.sample "a"
  let s := MemoryServices.ofValues [("coreos.com/network/br-a/config", o.networkEntry.render),
    ("coreos.com/network/br-a/subnets/10.0.0.4-30", "\x7b\x7d"),
    ("coreos.com/network/br-ab/config", o.networkEntry.render)]
  have done : (undisturbed (storedNetworkResource.ensureDeleted o).run s).1.result? =
      some (.ok (.continue ())) := by decide +kernel
  have reached : Program.Reaches (environment Error.IsSilent nobody) _ _ := reaches_undisturbed done
  obtain ⟨others, own, -⟩ := networkRoot_cleared reached
  have searched : s.store.search o.entryPath = .ok o.networkEntry.render := by decide +kernel
  have gone := own _ _ searched (NetworkEntry.parse_render _) (networkEntry_isEmpty o)
  exact ⟨o, s, _, rfl, by decide +kernel, reached, gone _ (by decide +kernel), gone _ (by decide +kernel),
    others _ (by decide +kernel) (by decide +kernel)⟩

/-- A lease without an entry stays, for no entry says that there is a network. -/
theorem networkRoot_lease_stays :
    ∃ (o : Overlay) (s t : MemoryServices) (key : String), o = Overlay.sample "a" ∧
      s.store.keys = ["coreos.com/network/br-a/subnets/10.0.0.4-30"] ∧
      Program.Reaches (environment Error.IsSilent nobody) ((storedNetworkResource.ensureDeleted o).run, s)
        (.done (.ok (.continue ())), t) ∧
      isBelow (normalizeKey o.storePath) key = true ∧ (t.store.get? key).isSome = true := by
  let o := Overlay.sample "a"
  let key := "coreos.com/network/br-a/subnets/10.0.0.4-30"
  let s := MemoryServices.ofValues [(key, "\x7b\x7d")]
  have done : (undisturbed (storedNetworkResource.ensureDeleted o).run s).1.result? =
      some (.ok (.continue ())) := by decide +kernel
  exact ⟨o, s, _, key, rfl, by decide +kernel, reaches_undisturbed done, by decide +kernel,
    by decide +kernel⟩

end TenantOverlay
