import Mathlib.Data.List.Pairwise
import TenantOverlay.Reconcile.Router

/-!
# Routing by version

A set of handlers and a router can be had only from the functions that build them
(`ResourceSet.Built`, `ResourceRouter.Built`), and these see to it that a router has one set at most for a
version, that its default is one of its sets, and that none of its sets is without a version or without
handlers (`ResourceRouter.WellFormed`). So a version that is looked up in a router has one set there or none,
and `route_exact` says which set a list of routers comes to.
-/

namespace TenantOverlay

variable {S : Signature} {O : Type}

/-- What fails has no value. -/
lemma Result.exists_error_iff {α : Type} {x : Result α} : (∃ e, x = .error e) ↔ ¬ ∃ a, x = .ok a := by
  cases x <;> simp

namespace ResourceSet

lemma build_eq_ok_iff {version : String} {handlers : List (Handler S O)} {s : ResourceSet S O} :
    build version handlers = .ok s ↔ version ≠ "" ∧ handlers ≠ [] ∧ s = ⟨version, handlers⟩ := by
  simp only [build, Result.check_bind_eq_ok_iff, Result.require_eq_ok_iff, bne_iff_ne, Bool.not_eq_true',
    List.isEmpty_eq_false_iff, pure, Except.pure, Except.ok.injEq, eq_comm (a := s)]

/-- A set that has been built. -/
def Built (s : ResourceSet S O) : Prop := ∃ version handlers, build version handlers = .ok s

/-- It has a version and a handler. -/
lemma Built.usable {s : ResourceSet S O} (h : s.Built) : s.version ≠ "" ∧ s.handlers ≠ [] := by
  obtain ⟨version, handlers, built⟩ := h
  obtain ⟨named, some, rfl⟩ := build_eq_ok_iff.1 built
  exact ⟨named, some⟩

end ResourceSet

namespace ResourceRouter

/-- No version is seen a second time when no two are the same, and none has been seen before. -/
lemma repeatedVersion?_eq_none_iff {earlier versions : List String} :
    repeatedVersion? earlier versions = none ↔ versions.Nodup ∧ ∀ v ∈ versions, v ∉ earlier := by
  induction versions generalizing earlier with
  | nil => simp [repeatedVersion?]
  | cons v rest ih =>
    by_cases seen : v ∈ earlier
    · simp [repeatedVersion?, seen]
    · rw [repeatedVersion?, if_neg (by simpa using seen), ih, List.nodup_cons]
      constructor
      · rintro ⟨distinct, fresh⟩
        refine ⟨⟨fun m => fresh v m List.mem_cons_self, distinct⟩, fun w m => ?_⟩
        rcases List.mem_cons.1 m with rfl | m
        · exact seen
        · exact fun e => fresh w m (List.mem_cons_of_mem v e)
      · rintro ⟨⟨other, distinct⟩, fresh⟩
        refine ⟨distinct, fun w m e => ?_⟩
        rcases List.mem_cons.1 e with rfl | e
        · exact other m
        · exact fresh w (List.mem_cons_of_mem v m) e

variable {sets : List (ResourceSet S O)} {r r' : ResourceRouter S O} {set : ResourceSet S O}
  {version : String}

lemma build_eq_ok_iff : build sets = .ok r ↔ (sets.map (·.version)).Nodup ∧ r = { sets := sets } := by
  have distinct : repeatedVersion? [] (sets.map (·.version)) = none ↔ (sets.map (·.version)).Nodup :=
    repeatedVersion?_eq_none_iff.trans (and_iff_left fun _ _ => List.not_mem_nil)
  rw [← distinct]
  unfold build
  cases repeatedVersion? [] (sets.map (·.version)) with
  | none => simp [eq_comm]
  | some v => simp

/-- Sets do not make up a router when two of them have the same version. -/
lemma exists_build_error_iff :
    (∃ e, build sets = .error e) ↔ ∃ s t, [s, t].Sublist sets ∧ s.version = t.version := by
  have apart : (∃ r, build sets = .ok r) ↔ ∀ s t, [s, t].Sublist sets → s.version ≠ t.version := by
    simp only [build_eq_ok_iff, exists_and_left, exists_eq, and_true]
    rw [List.Nodup, List.pairwise_map, List.pairwise_iff_forall_sublist]
  rw [Result.exists_error_iff, apart]
  simp only [not_forall, not_not, exists_prop]

lemma withDefault_eq_ok_iff : r.withDefault version = .ok r' ↔
    (∃ s ∈ r.sets, s.version = version) ∧ r' = { r with defaultVersion := some version } := by
  simp only [withDefault, Result.check_bind_eq_ok_iff, Result.require_eq_ok_iff, List.any_eq_true,
    beq_iff_eq, pure, Except.pure, Except.ok.injEq, eq_comm (a := r')]

/-- A default is refused when no set has its version. -/
lemma exists_withDefault_error_iff :
    (∃ e, r.withDefault version = .error e) ↔ ∀ s ∈ r.sets, s.version ≠ version := by
  rw [Result.exists_error_iff]
  simp [withDefault_eq_ok_iff]

/-- A router that has been built of sets that have been built, and may have been given defaults. -/
inductive Built : ResourceRouter S O → Prop where
  | build {sets : List (ResourceSet S O)} {r : ResourceRouter S O} : (∀ s ∈ sets, s.Built) →
    ResourceRouter.build sets = .ok r → Built r
  | withDefault {version : String} {r r' : ResourceRouter S O} : Built r →
    r.withDefault version = .ok r' → Built r'

/-- What the functions that build routers see to. -/
structure WellFormed (r : ResourceRouter S O) : Prop where
  distinct : (r.sets.map (·.version)).Nodup
  usable {s : ResourceSet S O} : s ∈ r.sets → s.version ≠ "" ∧ s.handlers ≠ []
  default {version : String} : r.defaultVersion = some version → ∃ s ∈ r.sets, s.version = version

lemma WellFormed.withDefault (h : r.WellFormed) (e : r.withDefault version = .ok r') : r'.WellFormed := by
  obtain ⟨known, rfl⟩ := withDefault_eq_ok_iff.1 e
  refine ⟨h.distinct, h.usable, ?_⟩
  rintro _ ⟨⟩
  exact known

theorem Built.wellFormed (h : r.Built) : r.WellFormed := by
  induction h with
  | build built e =>
    obtain ⟨distinct, rfl⟩ := build_eq_ok_iff.1 e
    exact ⟨distinct, fun m => (built _ m).usable, nofun⟩
  | withDefault _ e ih => exact ih.withDefault e

/-- A set is the only one of a router with a version. -/
def OnlySet (r : ResourceRouter S O) (version : String) (set : ResourceSet S O) : Prop :=
  r.sets.filter (fun s => s.version == version) = [set]

lemma OnlySet.mem (h : r.OnlySet version set) : set ∈ r.sets ∧ set.version = version := by
  have m : set ∈ r.sets.filter (fun s => s.version == version) := by
    rw [h]
    exact List.mem_singleton_self set
  simpa using m

/-- Of sets with different versions the first one found under a version is the only one. -/
lemma find?_eq_some_iff_of_nodup (distinct : (sets.map (·.version)).Nodup) :
    sets.find? (fun s => s.version == version) = some set ↔
      sets.filter (fun s => s.version == version) = [set] := by
  induction sets with
  | nil => simp
  | cons s rest ih =>
    rw [List.map_cons, List.nodup_cons] at distinct
    by_cases e : s.version = version
    · have others : rest.filter (fun s => s.version == version) = [] := by
        refine List.filter_eq_nil_iff.2 fun t m same => distinct.1 ?_
        rw [e, ← eq_of_beq same]
        exact List.mem_map_of_mem m
      simp [e, others]
    · rw [List.find?_cons_of_neg (by simpa using e), List.filter_cons_of_neg (by simpa using e)]
      exact ih distinct.2

lemma WellFormed.find?_eq_some_iff (h : r.WellFormed) :
    r.sets.find? (fun s => s.version == version) = some set ↔ r.OnlySet version set :=
  find?_eq_some_iff_of_nodup h.distinct

/-- A version is looked up among the sets. -/
lemma WellFormed.select_named_iff (h : r.WellFormed) (named : version ≠ "") :
    r.select version = some set ↔ r.OnlySet version set := by
  unfold select
  rw [if_neg named]
  exact h.find?_eq_some_iff

lemma select_named_eq_none_iff (named : version ≠ "") :
    r.select version = none ↔ version ∉ r.versions := by
  have looked : r.select version = r.sets.find? fun s => s.version == version := by
    unfold select
    rw [if_neg named]
    rfl
  rw [looked, List.find?_eq_none]
  simp [versions]

/-- No version is looked up as that of the default. -/
lemma WellFormed.select_default_iff (h : r.WellFormed) :
    r.select "" = some set ↔ ∃ w, r.defaultVersion = some w ∧ r.OnlySet w set := by
  unfold select
  rw [if_pos rfl]
  refine Option.bind_eq_some_iff.trans (exists_congr fun w => and_congr_right fun _ => ?_)
  exact h.find?_eq_some_iff

lemma WellFormed.select_default_eq_none_iff (h : r.WellFormed) :
    r.select "" = none ↔ r.defaultVersion = none := by
  unfold select
  rw [if_pos rfl]
  refine Option.bind_eq_none_iff.trans ⟨fun missing => ?_, fun none w e => ?_⟩
  · refine Option.eq_none_iff_forall_ne_some.2 fun w e => ?_
    -- The default is one of the sets, so it is found.
    obtain ⟨s, m, same⟩ := h.default e
    exact List.find?_eq_none.1 (missing w e) s m (by simpa using same)
  · rw [none] at e
    cases e

/-- What is selected has a version and a handler. -/
lemma WellFormed.usable_of_select (h : r.WellFormed) (e : r.select version = some set) :
    set.version ≠ "" ∧ set.handlers ≠ [] := by
  by_cases named : version = ""
  · subst named
    obtain ⟨w, -, only⟩ := h.select_default_iff.1 e
    exact h.usable only.mem.1
  · exact h.usable ((h.select_named_iff named).1 e).mem.1

end ResourceRouter

/-- What a list of routers comes to for a version. -/
structure Routes (routers : List (ResourceRouter S O)) (version : String) : Prop where
  /-- A version is routed to its only set in the first router that has one. -/
  named (set : ResourceSet S O) : version ≠ "" → (route routers version = some set ↔
    ∃ before r after, routers = before ++ r :: after ∧ (∀ q ∈ before, version ∉ q.versions) ∧
      r.OnlySet version set)
  unnamed : version ≠ "" → (route routers version = none ↔ ∀ r ∈ routers, version ∉ r.versions)
  /-- No version is routed to the default set of the first router that has one. -/
  default (set : ResourceSet S O) : version = "" → (route routers version = some set ↔
    ∃ before r after w, routers = before ++ r :: after ∧ (∀ q ∈ before, q.defaultVersion = none) ∧
      r.defaultVersion = some w ∧ r.OnlySet w set)
  noDefault : version = "" → (route routers version = none ↔ ∀ r ∈ routers, r.defaultVersion = none)
  usable (set : ResourceSet S O) : route routers version = some set → set.version ≠ "" ∧ set.handlers ≠ []

section Route

variable {routers : List (ResourceRouter S O)} {version : String} {set : ResourceSet S O}

/-- A route is what the first router selects that selects anything. -/
lemma route_eq_some_iff : route routers version = some set ↔ ∃ before r after,
    routers = before ++ r :: after ∧ (∀ q ∈ before, q.select version = none) ∧
      r.select version = some set := by
  unfold route
  rw [List.findSome?_eq_some_iff]
  constructor
  · rintro ⟨before, r, after, split, selected, others⟩
    exact ⟨before, r, after, split, others, selected⟩
  · rintro ⟨before, r, after, split, others, selected⟩
    exact ⟨before, r, after, split, selected, others⟩

lemma route_eq_none_iff : route routers version = none ↔ ∀ r ∈ routers, r.select version = none := by
  unfold route
  exact List.findSome?_eq_none_iff

open ResourceRouter

lemma routes_of_wellFormed (h : ∀ r ∈ routers, r.WellFormed) : Routes routers version where
  named set named := by
    rw [route_eq_some_iff]
    refine exists_congr fun before => exists_congr fun r => exists_congr fun after => ?_
    refine and_congr_right fun split => ?_
    have wellFormed : r.WellFormed := h r (by simp [split])
    simp only [select_named_eq_none_iff named, wellFormed.select_named_iff named]
  unnamed named := by
    simp only [route_eq_none_iff, select_named_eq_none_iff named]
  default set unnamed := by
    subst unnamed
    rw [route_eq_some_iff]
    refine exists_congr fun before => exists_congr fun r => exists_congr fun after => ?_
    simp only [exists_and_left]
    refine and_congr_right fun split => ?_
    subst split
    have wellFormed : r.WellFormed := h r (by simp)
    refine and_congr (forall₂_congr fun q m => ?_) wellFormed.select_default_iff
    exact (h q (by simp [m])).select_default_eq_none_iff
  noDefault unnamed := by
    subst unnamed
    rw [route_eq_none_iff]
    exact forall₂_congr fun r m => (h r m).select_default_eq_none_iff
  usable set e := by
    obtain ⟨before, r, after, split, -, selected⟩ := route_eq_some_iff.1 e
    have wellFormed : r.WellFormed := h r (by simp [split])
    exact wellFormed.usable_of_select selected

end Route

/-- A list of routers that have been built routes every version to its only set in the first router that has
one, and no version to the default set of the first router that has one; whatever is routed to has a version
and a handler. Sets fail to make up a router exactly when two of them have the same version, and a default
is refused exactly when no set has its version. A router that is made up has these sets and no default, and one
that is given a default has the same sets and that default. -/
theorem route_exact :
    (∀ routers : List (ResourceRouter S O), (∀ r ∈ routers, r.Built) →
      ∀ version : String, Routes routers version) ∧
    (∀ sets : List (ResourceSet S O), (∃ e, ResourceRouter.build sets = .error e) ↔
      ∃ s t, [s, t].Sublist sets ∧ s.version = t.version) ∧
    (∀ (sets : List (ResourceSet S O)) (r : ResourceRouter S O), ResourceRouter.build sets = .ok r →
      r.sets = sets ∧ r.defaultVersion = none) ∧
    (∀ (r : ResourceRouter S O) (version : String), (∃ e, r.withDefault version = .error e) ↔
      ∀ s ∈ r.sets, s.version ≠ version) ∧
    ∀ (r r' : ResourceRouter S O) (version : String), r.withDefault version = .ok r' →
      r'.sets = r.sets ∧ r'.defaultVersion = some version := by
  refine ⟨fun _ built _ => routes_of_wellFormed fun r m => (built r m).wellFormed,
    fun _ => ResourceRouter.exists_build_error_iff, fun sets r made => ?_,
    fun _ _ => ResourceRouter.exists_withDefault_error_iff, fun r r' version given => ?_⟩
  · obtain ⟨-, rfl⟩ := ResourceRouter.build_eq_ok_iff.1 made
    exact ⟨rfl, rfl⟩
  · obtain ⟨-, rfl⟩ := ResourceRouter.withDefault_eq_ok_iff.1 given
    exact ⟨rfl, rfl⟩

/-- Nothing can be called. -/
def Signature.silent : Signature := ⟨Empty, nofun⟩

/-- A set with one handler, which does nothing. -/
def ResourceSet.idle (version name : String) : ResourceSet .silent Unit :=
  ⟨version, [⟨name, fun _ => pure .proceed, fun _ => pure .proceed⟩]⟩

lemma ResourceSet.built_idle {version name : String} (named : version ≠ "") : (idle version name).Built :=
  ⟨_, _, build_eq_ok_iff.2 ⟨named, List.cons_ne_nil _ _, rfl⟩⟩

/-- The first router wins where both have a set. It has no default, so that the one of the second counts. -/
theorem route_exact_first_wins : ∃ first second : ResourceRouter .silent Unit,
    (∀ r ∈ [first, second], r.Built) ∧
      route [first, second] "0.1.0" = some (.idle "0.1.0" "first") ∧
      route [first, second] "" = some (.idle "0.2.0" "other") ∧ route [first, second] "1.0.0" = none := by
  let first : ResourceRouter .silent Unit := ⟨[.idle "0.1.0" "first"], none⟩
  let second : ResourceRouter .silent Unit :=
    ⟨[.idle "0.1.0" "second", .idle "0.2.0" "other"], some "0.2.0"⟩
  have one : first.Built := by
    have made : ResourceRouter.build first.sets = .ok first := rfl
    refine .build (fun s m => ?_) made
    rw [List.mem_singleton.1 m]
    exact ResourceSet.built_idle (by decide)
  have two : second.Built := by
    have made : ResourceRouter.build second.sets = .ok { sets := second.sets } := rfl
    have given : ResourceRouter.withDefault { sets := second.sets } "0.2.0" = .ok second := rfl
    refine .withDefault (.build (fun s m => ?_) made) given
    obtain rfl | rfl : s = .idle "0.1.0" "second" ∨ s = .idle "0.2.0" "other" := by
      simpa [second] using m
    · exact ResourceSet.built_idle (by decide)
    · exact ResourceSet.built_idle (by decide)
  have built : ∀ r ∈ [first, second], r.Built := by
    rintro r m
    obtain rfl | rfl : r = first ∨ r = second := by simpa using m
    · exact one
    · exact two
  have routes := route_exact.1 [first, second] built
  refine ⟨first, second, built, ?_, ?_, ?_⟩
  · exact ((routes "0.1.0").named _ (by decide)).2 ⟨[], first, [second], rfl, nofun, rfl⟩
  · refine ((routes "").default _ rfl).2 ⟨[first], second, [], "0.2.0", rfl, fun q m => ?_, rfl, rfl⟩
    rw [List.mem_singleton.1 m]
  · refine ((routes "1.0.0").unnamed (by decide)).2 fun r m => ?_
    obtain rfl | rfl : r = first ∨ r = second := by simpa using m
    · decide
    · decide

end TenantOverlay
