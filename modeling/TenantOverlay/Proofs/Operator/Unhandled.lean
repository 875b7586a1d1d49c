import TenantOverlay.Proofs.Operator.Edits
import TenantOverlay.Proofs.Operator.Protocol

/-!
# Overlays that are not handled

When no router has handlers for the version of an overlay, a look at the overlay changes nothing but
the overlay itself (`unhandled_left_alone`). A pass over it comes to nothing, so that of the protocol
only the replacements remain. A deleted overlay without an identifier is let go of all the same, for
there is nothing to clean up by; what is done then is not left to the engine.
-/

namespace TenantOverlay

open Fallible MemoryServices Program

section Executions

variable {α : Type} {fault : Error → Prop} {s t : MemoryServices} {p q : Program services.withRuntime α}

lemma eq_of_reaches_done {a : α} (reached : Reaches (environment fault nobody) (.done a, s) (q, t)) :
    t = s := by
  generalize hb : (q, t) = b at reached
  suffices b = (.done a, s) from congrArg Prod.snd (hb.trans this)
  clear hb
  induction reached with
  | refl => rfl
  | @tail b d _ step ih =>
    subst ih
    cases step with
    | meanwhile m => rw [eq_of_meanwhile m]

/-- A program that is at a call is still there, or goes on from an answer. -/
lemma reaches_call {c : OperatorCall} {next : services.Answer c → Program services.withRuntime α}
    (reached : Reaches (environment fault nobody) (.call (.outside c) next, s) (q, t)) :
    t = s ∨ ∃ x u, (environment fault nobody).answers c s x u ∧
      Reaches (environment fault nobody) (next x, u) (q, t) := by
  generalize ha : (Program.call (S := services.withRuntime) (.outside c) next, s) = a at reached
  induction reached using Relation.ReflTransGen.head_induction_on with
  | refl =>
    cases ha
    exact .inl rfl
  | @head a b step rest ih =>
    subst ha
    cases step with
    | meanwhile m =>
      obtain rfl := eq_of_meanwhile m
      exact ih rfl
    | outside answered => exact .inr ⟨_, _, answered, rest⟩

end Executions

variable {r : Reconciler} {o v : Overlay} {fault : Error → Prop} {s t : MemoryServices}
  {q : Program services.withRuntime (Except ReconcileError NextLook)}

namespace Reconciler

section Unresolved

/-- Without handlers there is no pass. -/
lemma pass_unresolved (unresolved : r.engine.resolve o = none) : r.pass o = pure none := by
  unfold pass Engine.reconcile
  rw [unresolved]
  rfl

lemma passLive_unresolved (unresolved : r.engine.resolve o = none) : r.passLive o = pure .onChange := by
  unfold passLive
  rw [pass_unresolved unresolved]
  rfl

lemma passDeleted_unresolved (unresolved : r.engine.resolve o = none) :
    r.passDeleted o = pure .onChange := by
  unfold passDeleted
  rw [pass_unresolved unresolved]
  rfl

/-- The handlers for an overlay depend on what it is to be like, and not on what it is called. -/
lemma resolve_congr (same : v.body = o.body) : r.engine.resolve v = r.engine.resolve o := by
  unfold Engine.resolve
  rw [show Managed.version v = Managed.version o from congrArg OverlaySpec.bundleVersion same]

/-- A deleted overlay without handlers is not looked at any further, unless it has the finalizer and no
identifier. -/
lemma reconcile_unresolved_deleted (unresolved : r.engine.resolve o = none) (deleted : o.isDeleted = true)
    (kept : o.hasFinalizer = false ∨ o.clusterId ≠ "") : r.reconcile o = pure .onChange := by
  cases marked : o.hasFinalizer with
  | false => exact reconcile_unmarked deleted marked
  | true =>
    rw [marked] at kept
    have named := kept.resolve_left (Bool.noConfusion ·)
    rw [reconcile_deleted deleted marked named, passDeleted_unresolved unresolved]

/-- A living overlay without handlers that has the finalizer is not looked at any further. -/
lemma reconcile_unresolved_marked (unresolved : r.engine.resolve o = none) (live : o.isDeleted = false)
    (valid : o.body.validate = .ok ()) (marked : o.hasFinalizer = true) :
    r.reconcile o = pure .onChange := by
  rw [reconcile_marked live valid marked, passLive_unresolved unresolved]

/-- To put the finalizer on is one call, and the pass comes after it. -/
lemma run_marking (r : Reconciler) (o : Overlay) : (onObject (addFinalizer o) >>= r.passLive).run =
    .call (.outside (.cluster .overlays (.replace o.metadata.namespaceName o.addFinalizer)))
      fun reply : Result Overlay => match reply with
        | .ok v => (r.passLive v).run
        | .error e => .done (.error (.object e)) := by
  refine congrArg (Program.call (S := services.withRuntime) (.outside _))
    (funext fun reply : Result Overlay => ?_)
  cases reply <;> rfl

end Unresolved

end Reconciler

namespace Overlay

/-- Where the object of an overlay stands, if it has a name. -/
def place? (o : Overlay) : Option Place :=
  o.metadata.name.map fun name => overlayPlace (.of o.metadata.namespaceName name)

/-- What a look at an overlay without handlers leaves alone. -/
structure LeftAlone (o : Overlay) (s t : MemoryServices) : Prop where
  store : t.store = s.store
  others (p : Place) : o.place? ≠ some p → t.object? p = s.object? p
  live : o.isDeleted = false → ((∃ e, o.body.validate = .error e) ∨ o.hasFinalizer = true) → t = s
  /-- Nothing else is done to a living overlay without the finalizer than to put it on. -/
  unmarked : o.isDeleted = false → o.hasFinalizer = false →
    t = s ∨ t = (s.answer (.cluster .overlays (.replace o.metadata.namespaceName o.addFinalizer))).2
  deleted : o.isDeleted = true → (o.hasFinalizer = false ∨ o.clusterId ≠ "") → t = s
  /-- Without an identifier there is nothing to clean up by. -/
  nameless : o.isDeleted = true → o.hasFinalizer = true → o.clusterId = "" →
    t = s ∨
      t = (s.answer (.cluster .overlays (.replace o.metadata.namespaceName o.removeFinalizer))).2

/-- The overlay, for another generation. -/
def withVersion (o : Overlay) (version : String) : Overlay :=
  { o with body := { o.body with bundleVersion := version } }

/-- The overlay, for another cluster. -/
def withClusterId (o : Overlay) (id : String) : Overlay :=
  { o with body := { o.body with cluster := { o.body.cluster with id := id } } }

lemma leftAlone_refl (o : Overlay) (s : MemoryServices) : o.LeftAlone s s where
  store := rfl
  others _ _ := rfl
  live _ _ := rfl
  unmarked _ _ := .inl rfl
  deleted _ _ := rfl
  nameless _ _ _ := .inl rfl

end Overlay

section Replaced

/-- The replacement of an overlay touches nothing but its place. -/
lemma object?_replaced (written : Overlay) (same : written.metadata.name = o.metadata.name) {p : Place}
    (elsewhere : o.place? ≠ some p) :
    (s.answer (.cluster .overlays (.replace o.metadata.namespaceName written))).2.object? p =
      s.object? p := by
  have place : (written.metadata.name.map (ObjectKey.of o.metadata.namespaceName)).map (Place.mk .overlays) =
      o.place? := by
    rw [same, Option.map_map]
    rfl
  exact object?_answer (fun e => elsewhere (place.symm.trans e)) nofun

/-- What is stored is what was to be stored, apart from its place and version. -/
lemma body_of_replaced {k : Kind} {ns : Option String} {written w : k.Object}
    (answered : (environment fault nobody).answers (.cluster k (.replace ns written)) s (.ok w) t) :
    w.body = written.body := by
  rcases answered with stored | ⟨e, -, failed, -⟩
  · have replaced : ((s.cluster.table k).replace ns written).1 = .ok w := (congrArg Prod.fst stored).symm
    rcases (s.cluster.table k).replace_cases ns written with ⟨e, h⟩ | ⟨_, _, _, h⟩
    · rw [h] at replaced
      cases replaced
    · rw [h] at replaced
      cases replaced
      rfl
  · cases failed

end Replaced

section Situations

/-- What is at its end leaves everything alone. -/
lemma leftAlone_of_pure {result : Except ReconcileError NextLook}
    (reached : Reaches (environment fault nobody) (.done result, s) (q, t)) : o.LeftAlone s t := by
  rw [eq_of_reaches_done reached]
  exact o.leftAlone_refl s

lemma leftAlone_of_release (deleted : o.isDeleted = true) (marked : o.hasFinalizer = true)
    (nameless : o.clusterId = "")
    (reached : Reaches (environment fault nobody) ((Reconciler.release o).run, s) (q, t)) :
    o.LeftAlone s t := by
  rw [Reconciler.run_release] at reached
  obtain rfl | ⟨reply, u, answered, ended⟩ := reaches_call reached
  · exact o.leftAlone_refl t
  obtain rfl := eq_of_reaches_done ended
  obtain rfl | rfl := state_of_answers answered
  · exact o.leftAlone_refl t
  · exact {
      store := rfl
      others := fun p elsewhere => object?_replaced _ rfl elsewhere
      live := fun live => absurd (live.symm.trans deleted) Bool.false_ne_true
      unmarked := fun live => absurd (live.symm.trans deleted) Bool.false_ne_true
      deleted := fun _ kept => kept.elim (fun unmarked => absurd (unmarked.symm.trans marked)
        Bool.false_ne_true) fun named => absurd nameless named
      nameless := fun _ _ _ => .inr rfl }

lemma leftAlone_of_marking (unresolved : r.engine.resolve o = none) (live : o.isDeleted = false)
    (valid : o.body.validate = .ok ()) (unmarked : o.hasFinalizer = false)
    (reached : Reaches (environment fault nobody)
      ((Reconciler.onObject (Reconciler.addFinalizer o) >>= r.passLive).run, s) (q, t)) :
    o.LeftAlone s t := by
  rw [Reconciler.run_marking] at reached
  obtain rfl | ⟨reply, u, answered, rest⟩ := reaches_call reached
  · exact o.leftAlone_refl t
  -- The pass is over the overlay as it has been stored, which has no handlers either.
  have ended : t = u := by
    cases reply with
    | error e => exact eq_of_reaches_done rest
    | ok v =>
      have same : r.engine.resolve v = none :=
        (Reconciler.resolve_congr (body_of_replaced answered)).trans unresolved
      have idle : r.passLive v = pure .onChange := Reconciler.passLive_unresolved same
      have rest : Reaches _ ((r.passLive v).run, u) (q, t) := rest
      rw [idle] at rest
      exact eq_of_reaches_done rest
  subst ended
  obtain rfl | rfl := state_of_answers answered
  · exact o.leftAlone_refl t
  · exact {
      store := rfl
      others := fun p elsewhere => object?_replaced _ rfl elsewhere
      live := fun _ kept => by
        rcases kept with ⟨e, invalid⟩ | marked
        · cases invalid.symm.trans valid
        · cases marked.symm.trans unmarked
      unmarked := fun _ _ => .inr rfl
      deleted := fun deleted => absurd (live.symm.trans deleted) Bool.false_ne_true
      nameless := fun deleted => absurd (live.symm.trans deleted) Bool.false_ne_true }

end Situations

/-- A look at an overlay without handlers changes neither the store nor any object but the overlay, and
leaves that alone as well in the situations that `Overlay.LeftAlone` lists. -/
theorem unhandled_left_alone (r : Reconciler) (unresolved : r.engine.resolve o = none)
    (reached : Reaches (environment fault nobody) ((r.reconcile o).run, s) (q, t)) : o.LeftAlone s t := by
  cases alive : o.isDeleted with
  | false =>
    cases valid : o.body.validate with
    | error e =>
      rw [Reconciler.reconcile_invalid alive valid] at reached
      exact leftAlone_of_pure reached
    | ok =>
      cases marked : o.hasFinalizer with
      | false =>
        rw [Reconciler.reconcile_marking alive valid marked] at reached
        exact leftAlone_of_marking unresolved alive valid marked reached
      | true =>
        rw [Reconciler.reconcile_unresolved_marked unresolved alive valid marked] at reached
        exact leftAlone_of_pure reached
  | true =>
    by_cases kept : o.hasFinalizer = false ∨ o.clusterId ≠ ""
    · rw [Reconciler.reconcile_unresolved_deleted unresolved alive kept] at reached
      exact leftAlone_of_pure reached
    · obtain ⟨marked, nameless⟩ := not_or.1 kept
      have marked := Bool.not_eq_false _ ▸ marked
      have nameless := not_not.1 nameless
      rw [Reconciler.reconcile_nameless alive marked nameless] at reached
      exact leftAlone_of_release alive marked nameless reached

/-- The services with some overlays and nothing else. -/
def ofOverlays (overlays : List Overlay) : MemoryServices :=
  overlays.foldl (fun s o => (s.answer (.cluster .overlays (.create o.metadata.namespaceName o))).2) {}

/-- An overlay without an identifier is let go of, and the other overlay stays as it is. -/
theorem unhandled_left_alone_nameless :
    ∃ (r : Reconciler) (o : Overlay) (s t : MemoryServices), r.engine = Engine.sample ∧
      r.engine.resolve o = none ∧ o.isDeleted = true ∧ o.hasFinalizer = true ∧
      Reaches reliable ((r.reconcile o).run, s) (.done (.ok .onChange), t) ∧
      (t.overlay? (.of (some "default") "a")).map Overlay.finalizers = some [] ∧
      (t.overlay? (.of (some "default") "b")).isSome = true ∧ o.LeftAlone s t := by
  let r : Reconciler := ⟨Engine.sample, ⟨"", 300, 60, 5⟩⟩
  let new : Overlay := (Overlay.sample "a").withVersion "9.9.9"
  let o : Overlay := ((new.withClusterId "").withFinalizers [finalizer]).markedDeleted { seconds := 0 }
  let s := ofOverlays [o, Overlay.sample "b"]
  obtain ⟨unresolved, gone, marked, comes, released, other⟩ : (r.engine.resolve o).isNone = true ∧
      o.isDeleted = true ∧ o.hasFinalizer = true ∧
      (undisturbed (r.reconcile o).run s).1.result? = some (.ok .onChange) ∧
      ((undisturbed (r.reconcile o).run s).2.overlay? (.of (some "default") "a")).map Overlay.finalizers =
        some [] ∧
      ((undisturbed (r.reconcile o).run s).2.overlay? (.of (some "default") "b")).isSome = true := by
    decide +kernel
  have unresolved : r.engine.resolve o = none := Option.isNone_iff_eq_none.1 unresolved
  have reached : Reaches reliable ((r.reconcile o).run, s) _ := reaches_undisturbed comes
  exact ⟨r, o, s, _, rfl, unresolved, gone, marked, reached, released, other,
    unhandled_left_alone r unresolved reached⟩

/-- An overlay without handlers can be changed: a deleted one without an identifier loses the finalizer,
and a living one gets it. That one is not taken off when the overlay is looked at again, be it deleted
by then or not. -/
theorem unhandled_not_left_alone :
    ∃ (r : Reconciler) (key : ObjectKey), r.engine = Engine.sample ∧
      (∃ (o : Overlay) (s t : MemoryServices), s.overlay? key = some o ∧ r.engine.resolve o = none ∧
        o.isDeleted = true ∧ o.hasFinalizer = true ∧
        Reaches reliable ((r.reconcile o).run, s) (.done (.ok .onChange), t) ∧
        (t.overlay? key).map Overlay.finalizers = some []) ∧
      ∃ (o v : Overlay) (s t : MemoryServices), s.overlay? key = some o ∧ r.engine.resolve o = none ∧
        o.isDeleted = false ∧ o.finalizers = [] ∧
        Reaches reliable ((r.reconcile o).run, s) (.done (.ok .onChange), t) ∧ t.overlay? key = some v ∧
        v.hasFinalizer = true ∧
        ∀ w, w = v ∨ (∃ moment, w = v.markedDeleted moment) → ∀ x y q,
          Reaches reliable ((r.reconcile w).run, x) (q, y) → y = x := by
  let r : Reconciler := ⟨Engine.sample, ⟨"", 300, 60, 5⟩⟩
  let key : ObjectKey := .of (some "default") "a"
  let new : Overlay := (Overlay.sample "a").withVersion "9.9.9"
  let nameless := ((new.withClusterId "").withFinalizers [finalizer]).markedDeleted { seconds := 0 }
  let looked (o : Overlay) (s : MemoryServices) := undisturbed (r.reconcile o).run s
  refine ⟨r, key, rfl, ?_, ?_⟩
  · let s := ofOverlays [nameless]
    obtain ⟨o, stored, unresolved, gone, marked, comes, released⟩ : ∃ o, s.overlay? key = some o ∧
        (r.engine.resolve o).isNone = true ∧ o.isDeleted = true ∧ o.hasFinalizer = true ∧
        (looked o s).1.result? = some (.ok .onChange) ∧
        ((looked o s).2.overlay? key).map Overlay.finalizers = some [] := by
      refine ⟨(s.overlay? key).get (by decide +kernel), (Option.some_get _).symm, ?_⟩
      decide +kernel
    exact ⟨o, s, _, stored, Option.isNone_iff_eq_none.1 unresolved, gone, marked,
      reaches_undisturbed comes, released⟩
  · let s := ofOverlays [new]
    obtain ⟨o, v, stored, kept, unresolved, live, bare, comes, unresolved', alive, marked, named, valid⟩ :
        ∃ o v, s.overlay? key = some o ∧ (looked o s).2.overlay? key = some v ∧
        (r.engine.resolve o).isNone = true ∧ o.isDeleted = false ∧ o.finalizers = [] ∧
        (looked o s).1.result? = some (.ok .onChange) ∧
        (r.engine.resolve v).isNone = true ∧ v.isDeleted = false ∧ v.hasFinalizer = true ∧
        v.clusterId ≠ "" ∧ v.body.validate = .ok () := by
      let o := (s.overlay? key).get (by decide +kernel)
      refine ⟨o, ((looked o s).2.overlay? key).get (by decide +kernel), (Option.some_get _).symm,
        (Option.some_get _).symm, ?_⟩
      decide +kernel
    have unresolved' : r.engine.resolve v = none := Option.isNone_iff_eq_none.1 unresolved'
    refine ⟨o, v, s, _, stored, Option.isNone_iff_eq_none.1 unresolved, live, bare,
      reaches_undisturbed comes, kept, marked, ?_⟩
    rintro w (rfl | ⟨moment, rfl⟩) x y q reached
    · rw [Reconciler.reconcile_unresolved_marked unresolved' alive valid marked] at reached
      exact eq_of_reaches_done reached
    · rw [Reconciler.reconcile_unresolved_deleted (o := v.markedDeleted moment) unresolved' rfl
        (.inr named)] at reached
      exact eq_of_reaches_done reached

end TenantOverlay
