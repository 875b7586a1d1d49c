import TenantOverlay.Proofs.Handlers.Daemon
import TenantOverlay.Proofs.Operator.Generations
import TenantOverlay.Proofs.Operator.Versions
import TenantOverlay.Proofs.Program.Log

/-!
# The hand-over between generations

Two generations handle one overlay at the same time, call by call in any order (`Race`). Once the newer
one has written the daemon set it stays the newer one's (`handOver_stands`): the older gives up if it
finds a newer generation at its first look, and a replacement of what it has found later is refused if
something else is stored by then. Only one thing is not looked at. An update looks again, and takes over
the version of whatever it finds (`Daemon.FoundLate`); if that has been written by the newer generation
since the first look, it is overwritten (`handOver_overwritten`).
-/

namespace TenantOverlay

open Fallible MemoryServices Overlay

/-- What an answer shows of a daemon set, if it shows whether there is one. -/
def Exchange.daemonSet? : Exchange services → Option (Option DaemonSet)
  | ⟨.cluster .daemonSets (.get _ _), reply⟩ =>
    let reply : Result (Option DaemonSet) := reply
    reply.toOption
  | _ => none

/-- The generation that is recorded on the daemon set of an overlay. -/
def MemoryServices.daemonVersion? (s : MemoryServices) (o : Overlay) : Option String :=
  (s.object? o.daemonSetPlace).bind Daemon.recordedVersion?

namespace Daemon

/-- What a handler has found each time it has looked for a daemon set. -/
def looks (seen : List (Exchange services)) : List (Option DaemonSet) :=
  seen.filterMap Exchange.daemonSet?

/-- A newer generation was there at a later look, and had not been there at the first one. -/
def FoundLate (own : Version) (looks : List (Option DaemonSet)) : Prop :=
  ∃ first later, looks = first :: later ∧ first.any (isNewer own) = false ∧
    ∃ found ∈ later, found.any (isNewer own) = true

/-- A call of a generation, which records itself as `text`, leaves a daemon set of the generation `version`
to that one. This is asked of no other generation than `version` itself, and of older ones as long as
they have not found a newer one late. -/
def Leaves (o : Overlay) (own : Version) (text version : String) (c : OperatorCall)
    (w : MemoryServices × List (Exchange services)) : Prop :=
  (version = text ∨ (∃ v, Version.parse version = .ok v ∧ own < v) ∧ ¬ FoundLate own (looks w.2)) →
    w.1.daemonVersion? o = some version → (w.1.answer c).2.daemonVersion? o = some version

/-- A handler has looked at the daemon set, and there was no newer generation at its first look. -/
structure Looked (own : Version) (w : MemoryServices × List (Exchange services)) : Prop where
  versioned : w.1.Versioned .daemonSets
  first : ∃ first later, looks w.2 = first :: later ∧ first.any (isNewer own) = false

variable {fault : Error → Prop} {o : Overlay} {own : Version} {text version : String}
  {w : MemoryServices × List (Exchange services)} {s : MemoryServices}

lemma looks_append (seen : List (Exchange services)) (e : Exchange services) :
    looks (seen ++ [e]) = looks seen ++ (e.daemonSet?).toList := by
  unfold looks
  rw [List.filterMap_append, List.filterMap_cons]
  cases e.daemonSet? <;> rfl

lemma FoundLate.append {own : Version} {found : List (Option DaemonSet)} (h : FoundLate own found)
    (more : List (Option DaemonSet)) : FoundLate own (found ++ more) := by
  obtain ⟨first, later, rfl, unnoticed, d, m, newer⟩ := h
  exact ⟨first, later ++ more, rfl, unnoticed, d, List.mem_append_left _ m, newer⟩

/-- The generation that is recorded on a daemon set is its generation. -/
lemma isNewer_of_recordedVersion? {d : DaemonSet} {v : Version} (h : recordedVersion? d = some version)
    (parsed : Version.parse version = .ok v) (lt : own < v) : isNewer own d = true := by
  unfold isNewer generation?
  rw [h]
  show ((Version.parse version).toOption).any _ = true
  rw [parsed]
  exact decide_eq_true lt

section Calls

lemma leaves_get {k : Kind} {ns : Option String} {name : String} :
    Leaves o own text version (.cluster k (.get ns name)) w := by
  intro _ stored
  rw [answer_get]
  exact stored

/-- A creation leaves the daemon set that there is. -/
lemma leaves_create {d : DaemonSet} (named : d.metadata.name = some networkApp) :
    Leaves o own text version (.cluster .daemonSets (.create (some o.networkNamespace) d)) w := by
  intro _ stored
  obtain ⟨current, there, recorded⟩ := Option.bind_eq_some_iff.1 stored
  have created : (w.1.answer (.cluster .daemonSets (.create (some o.networkNamespace) d))).2.object?
      o.daemonSetPlace = some ((w.1.object? o.daemonSetPlace).getD _) :=
    object?_answer_create (k := .daemonSets) named
  have kept : (w.1.answer (.cluster .daemonSets (.create (some o.networkNamespace) d))).2.object?
      o.daemonSetPlace = some current := by
    rw [created, there]
    rfl
  exact (congrArg (Option.bind · recordedVersion?) kept).trans recorded

/-- A replacement in the version of a daemon set that was found leaves what a newer generation has
written since. -/
lemma leaves_replace {d existing : DaemonSet} (known : w.1.Known o.daemonSetPlace existing)
    (same : d.metadata.resourceVersion = existing.metadata.resourceVersion)
    (named : d.metadata.name = some networkApp) (recorded : recordedVersion? d = some text)
    (noticed : isNewer own existing = true → FoundLate own (looks w.2)) :
    Leaves o own text version (.cluster .daemonSets (.replace (some o.networkNamespace) d)) w := by
  rintro (rfl | ⟨⟨v, parsed, lt⟩, heeded⟩) stored
  · obtain ⟨e, refused⟩ | ⟨-, replaced⟩ := answer_replace_cases (k := .daemonSets) w.1
      (some o.networkNamespace) named
    · rw [refused]
      exact stored
    · exact (congrArg (Option.bind · recordedVersion?) replaced).trans recorded
  · obtain ⟨current, there, newer⟩ := Option.bind_eq_some_iff.1 stored
    have other : current ≠ existing := by
      rintro rfl
      exact heeded (noticed (isNewer_of_recordedVersion? newer parsed lt))
    rw [known.replace_refused there other named same]
    exact stored

end Calls

section Operations

lemma settled_versioned : Settled anyone fun s => s.Versioned .daemonSets :=
  settled_anyone fun _ c h => h.answer c

lemma settled_known {p : Place} {d : p.kind.Object} : Settled anyone fun s => s.Known p d :=
  settled_anyone fun _ c h => h.answer c

/-- A handler that has looked once has looked, whatever happens later. -/
lemma keeps_looked {allowed : OperatorCall → MemoryServices × List (Exchange services) → Prop} :
    (environment fault anyone).recorded.Keeps allowed (Looked own) where
  meanwhile {w u} m h := by
    obtain ⟨moved, same⟩ := m
    refine ⟨settled_versioned.meanwhile moved h.versioned, ?_⟩
    rw [same]
    exact h.first
  call {c w u x} _ answered h := by
    obtain ⟨answered, more⟩ := answered
    constructor
    · rcases state_of_answers answered with same | done
      · rw [same]
        exact h.versioned
      · rw [done]
        exact h.versioned.answer c
    · obtain ⟨first, later, e, unnoticed⟩ := h.first
      rw [more, looks_append, e]
      exact ⟨first, _, rfl, unnoticed⟩

/-- What a look finds is known by its version. A look that fails finds nothing. -/
lemma ensures_look (versioned : w.1.Versioned .daemonSets) :
    Ensures (environment fault anyone).recorded (Leaves o own text version)
      (fun v u => u.1.Versioned .daemonSets ∧ looks u.2 = looks w.2 ++ [v] ∧
        ∀ d, v = some d → u.1.Known o.daemonSetPlace d)
      (fun _ u => u.1.Versioned .daemonSets ∧ looks u.2 = looks w.2) (Daemon.get o) w := by
  show Ensures _ _ _ _ (OperatorAction.ofObject .daemonSets _) w
  apply OperatorAction.ensures_ofObject
  rintro t ⟨moved, same⟩
  have versioned := settled_versioned.meanwhile moved versioned
  refine ⟨leaves_get, ?_⟩
  rintro x u ⟨answered, more⟩
  have unchanged : u.1 = t.1 := by
    rcases state_of_answers answered with same | done
    · exact same
    · rw [done, answer_get]
  rw [← same]
  cases x with
  | error e =>
    refine ⟨unchanged ▸ versioned, ?_⟩
    rw [more, looks_append]
    exact List.append_nil _
  | ok v =>
    refine ⟨unchanged ▸ versioned, ?_, ?_⟩
    · rw [more, looks_append]
      rfl
    · rintro d rfl
      have found : t.1.object? o.daemonSetPlace = some d := by
        rcases answered with stored | ⟨e, -, failed, -⟩
        · rw [answer_get] at stored
          exact (Except.ok.inj (congrArg Prod.fst stored)).symm
        · cases failed
      exact unchanged ▸ MemoryServices.Versioned.known (p := o.daemonSetPlace) versioned found

lemma ensures_current_looked {counted : Bool} (live : o.isDeleted = false)
    (versioned : w.1.Versioned .daemonSets) (begun : looks w.2 = []) :
    Ensures (environment fault anyone).recorded (Leaves o own text version)
      (fun f u => ∀ v, f = .continue v → Looked own u)
      (fun _ u => u.1.Versioned .daemonSets ∧ looks u.2 = []) (Daemon.current own counted o) w := by
  have unused : inUse o = pure false := by
    unfold inUse
    rw [live]
    rfl
  unfold current
  rw [unused]
  refine ensures_bind (ensures_pure (ensures_bind ((ensures_look versioned).post ?_ ?_)))
  · rintro found u ⟨versioned, looked, -⟩
    rw [begun] at looked
    cases found with
    | none => exact ensures_pure fun _ _ => ⟨versioned, none, [], looked, rfl⟩
    | some d =>
      have again : u.1.Versioned .daemonSets ∧ looks u.2 = [some d] := ⟨versioned, looked⟩
      refine ensures_bind ((ensures_recordGeneration
        (P := fun u => u.1.Versioned .daemonSets ∧ looks u.2 = [some d]) again).post ?_ fun _ _ => False.elim)
      rintro _ u ⟨versioned, looked⟩
      refine ensures_pure fun v e => ⟨versioned, some d, [], looked, ?_⟩
      -- The handler goes on only if there is no newer generation.
      rw [live] at e
      cases newer : isNewer own d with
      | false => exact newer
      | true =>
        rw [newer] at e
        cases e
  · rintro e u ⟨versioned, looked⟩
    exact ⟨versioned, looked.trans begun⟩

lemma callsOnly_create_leaves {d : DaemonSet} (named : d.metadata.name = some networkApp) :
    CallsOnly (environment fault anyone).recorded
      (fun c => ∀ w, Leaves o own text version c w) (Daemon.create o d) := by
  refine CallsOnly.bind (OperatorAction.callsOnly_createIfMissing ?_) fun _ => callsOnly_pure
  exact fun w => leaves_create named

lemma ensures_create_looked {d : DaemonSet} (named : d.metadata.name = some networkApp)
    (looked : Looked own w) :
    Ensures (environment fault anyone).recorded (Leaves o own text version) (fun _ => Looked own)
      (fun _ => Looked own) (Daemon.create o d) w := by
  have created : Ensures (environment fault anyone).recorded (fun c _ => ∀ w, Leaves o own text version c w)
      _ _ (Daemon.create o d) w := (callsOnly_create_leaves named w).carry keeps_looked looked
  exact (created.allow fun c w h => h w).post (fun _ _ p => p.2) fun _ _ p => p.2

/-- An update replaces what it has found at its own look, which is not the first one. -/
lemma ensures_update_looked {d : DaemonSet} (named : d.metadata.name = some networkApp)
    (recorded : recordedVersion? d = some text) (looked : Looked own w) :
    Ensures (environment fault anyone).recorded (Leaves o own text version) (fun _ => Looked own)
      (fun _ => Looked own) (Daemon.update o d) w := by
  have look : Ensures (environment fault anyone).recorded (Leaves o own text version) _ _
      (Daemon.get o) w := (ensures_look looked.versioned).carry keeps_looked looked
  refine ensures_bind (look.post ?_ fun _ _ p => p.2)
  rintro found u ⟨⟨-, more, known⟩, again⟩
  cases found with
  | none => exact ensures_create_looked named again
  | some existing =>
    have known := known existing rfl
    have noticed (newer : isNewer own existing = true) : FoundLate own (looks u.2) := by
      obtain ⟨first, later, e, unnoticed⟩ := looked.first
      rw [more, e]
      exact ⟨first, _, rfl, unnoticed, some existing, List.mem_append_right _ List.mem_cons_self, newer⟩
    have replaced : Ensures (environment fault anyone).recorded (Leaves o own text version)
        (fun _ _ => True) (fun _ _ => True)
        (OperatorAction.ofObject .daemonSets (.replace (some o.networkNamespace)
          { d with metadata := { d.metadata with
              resourceVersion := existing.metadata.resourceVersion } })) u := by
      apply OperatorAction.ensures_ofObject
      rintro t ⟨moved, same⟩
      refine ⟨?_, fun x _ _ => ?_⟩
      · apply leaves_replace (settled_known.meanwhile moved known)
        · rfl
        · exact named
        · exact recorded
        · rw [same]
          exact noticed
      · cases x with
        | ok v => trivial
        | error e => trivial
    refine ensures_bind ((replaced.carry keeps_looked again).post ?_ fun _ _ p => p.2)
    exact fun _ _ p => ensures_pure p.2

end Operations

/-- A change is to be made with a daemon set of a generation, and the daemon set has been looked at. -/
structure Ready (own : Version) (text : String) (p : Patch (Option DaemonSet))
    (w : MemoryServices × List (Exchange services)) : Prop where
  looked : Looked own w
  wanted {d : DaemonSet} : p.create = some (some d) ∨ p.update = some (some d) →
    d.metadata.name = some networkApp ∧ recordedVersion? d = some text

lemma ready_updatePatch {config : DaemonConfig} {d : DaemonSet} (wanted : o.daemonSet config = .ok d)
    (found : Option DaemonSet) (looked : Looked own w) :
    Ready own config.bundleVersion (updatePatch found (some d)) w := by
  refine ⟨looked, fun planned => ?_⟩
  cases eq_of_updatePatch planned
  exact ⟨daemonSet_name wanted, recordedVersion?_daemonSet wanted⟩

/-- The handler of a living overlay leaves the daemon set of its own generation what it is, and that of
a newer one unless it has found that late. -/
theorem creates_leaves (config : DaemonConfig) (counted : Bool) (live : o.isDeleted = false) :
    (daemonResource config own counted).Creates (environment fault anyone).recorded
      (Leaves o own config.bundleVersion version) o
      (fun w => w.1.Versioned .daemonSets ∧ looks w.2 = []) (fun _ => Looked own)
      (Ready own config.bundleVersion) (Ready own config.bundleVersion) (fun _ => True) where
  current w h := ensures_current_looked live h.1 h.2
  desired found w looked := by
    refine ensures_desired (fun gone => ?_) (fun d _ wanted => ?_) fun _ => looked
    · cases live.symm.trans gone
    · exact ensures_pure (ready_updatePatch wanted found looked)
  nothingToCreate _ _ ready _ := ready
  create p d w ready planned := by
    cases d with
    | none => exact ensures_pure fun _ => ready
    | some d =>
      obtain ⟨named, -⟩ := ready.wanted (.inl planned)
      refine ensures_bind ((ensures_create_looked named ready.looked).post ?_ ?_)
      · exact fun _ _ looked => ensures_pure fun _ => ⟨looked, ready.wanted⟩
      · exact fun _ _ looked => ⟨looked, ready.wanted⟩
  nothingToUpdate _ _ _ _ := trivial
  update p d w ready planned := by
    cases d with
    | none => exact ensures_pure fun _ => trivial
    | some d =>
      obtain ⟨named, recorded⟩ := ready.wanted (.inr planned)
      refine ensures_bind ((ensures_update_looked named recorded ready.looked).post ?_ ?_)
      · exact fun _ _ _ => ensures_pure fun _ => trivial
      · exact fun _ _ looked => ⟨looked, ready.wanted⟩

end Daemon

open Daemon

/-- A handler at work, and what it has seen. -/
structure Party where
  program : Program services.withRuntime (Except PassError (Flow Unit))
  seen : List (Exchange services) := []

/-- Two handlers at work on the same services. -/
structure Race where
  older : Party
  newer : Party
  world : MemoryServices

/-- Two handlers that begin to create what belongs to an overlay. -/
def Race.start (older newer : Handler services Overlay) (o : Overlay) (s : MemoryServices) : Race :=
  ⟨⟨(older.ensureCreated o).run, []⟩, ⟨(newer.ensureCreated o).run, []⟩, s⟩

/-- A handler makes its next step. -/
def Party.Step (fault : Error → Prop) (p : Party) (s : MemoryServices) (q : Party) (t : MemoryServices) :
    Prop :=
  Program.Step (environment fault nobody).recorded (p.program, s, p.seen) (q.program, t, q.seen)

/-- One of the handlers makes its next step. -/
inductive Race.Step (fault : Error → Prop) : Race → Race → Prop where
  | older {p q n : Party} {s t : MemoryServices} : p.Step fault s q t → Step fault ⟨p, n, s⟩ ⟨q, n, t⟩
  | newer {p n q : Party} {s t : MemoryServices} : n.Step fault s q t → Step fault ⟨p, n, s⟩ ⟨p, q, t⟩

section Run

variable {fault : Error → Prop} {o : Overlay} {own : Version} {text version : String} {s t : MemoryServices}
  {p q : Party} {x y : Race}

/-- A handler that makes a step makes a call or none, and remembers what it has seen. -/
lemma Party.Step.moves (step : p.Step fault s q t) :
    (environment fault anyone).meanwhile s t ∧ ∃ more, looks q.seen = looks p.seen ++ more := by
  obtain ⟨p, log⟩ := p
  obtain ⟨q, log'⟩ := q
  unfold Party.Step at step
  cases step with
  | meanwhile m =>
    obtain rfl : t = s := eq_of_meanwhile m.1
    obtain rfl : log' = log := m.2
    exact ⟨.refl, [], (List.append_nil _).symm⟩
  | @outside c _ x _ _ answered =>
    obtain rfl : log' = log ++ [⟨c, x⟩] := answered.2
    refine ⟨?_, _, looks_append _ _⟩
    rcases state_of_answers answered.1 with rfl | rfl
    · exact .refl
    · exact .single ⟨c, rfl⟩
  | repetitions n => exact ⟨.refl, [], (List.append_nil _).symm⟩
  | record => exact ⟨.refl, [], (List.append_nil _).symm⟩

variable (fault o own text version) in
/-- A handler will leave the daemon set of a generation what it is. -/
def Party.Leaves (p : Party) (s : MemoryServices) : Prop :=
  p.program.Ensures (environment fault anyone).recorded (Daemon.Leaves o own text version) (fun _ _ => True)
    (s, p.seen)

lemma Party.Leaves.step (h : p.Leaves fault o own text version s) (step : p.Step fault s q t) :
    q.Leaves fault o own text version t := by
  refine Program.Ensures.step h (fun _ _ _ _ _ => trivial) (Program.Step.mono step ?_ ?_)
  · exact fun _ _ _ _ answered => answered
  · rintro w u ⟨moved, same⟩
    have unmoved : u.1 = w.1 := eq_of_meanwhile moved
    exact ⟨unmoved ▸ .refl, same⟩

/-- What the other handler does is what others do. -/
lemma Party.Leaves.meanwhile (h : p.Leaves fault o own text version s)
    (moved : (environment fault anyone).meanwhile s t) : p.Leaves fault o own text version t :=
  Program.Ensures.meanwhile h (fun _ _ _ _ _ => trivial) ⟨moved, rfl⟩

/-- What a handler will leave, it leaves at its next step. -/
lemma Party.Leaves.kept (h : p.Leaves fault o own text version s) (step : p.Step fault s q t)
    (heeds : version = text ∨
      (∃ v, Version.parse version = .ok v ∧ own < v) ∧ ¬ FoundLate own (looks p.seen))
    (stored : s.daemonVersion? o = some version) : t.daemonVersion? o = some version := by
  obtain ⟨p, log⟩ := p
  obtain ⟨q, log'⟩ := q
  unfold Party.Step at step
  cases step with
  | meanwhile m =>
    obtain rfl : t = s := eq_of_meanwhile m.1
    exact stored
  | @outside c _ _ _ _ answered =>
    obtain ⟨leaves, -⟩ := h (s, log) ⟨.refl, rfl⟩
    rcases state_of_answers answered.1 with rfl | rfl
    · exact stored
    · exact leaves heeds stored
  | repetitions n => exact stored
  | record => exact stored

/-- A handler that has not begun yet will leave the daemon set. -/
lemma Party.leaves_start (config : DaemonConfig) (counted : Bool) (policy : BackoffPolicy)
    (live : o.isDeleted = false) (versioned : s.Versioned .daemonSets) :
    Party.Leaves fault o own config.bundleVersion version
      ⟨(((daemonResource config own counted).underPolicy policy).handler.ensureCreated o).run, []⟩ s := by
  have created : Ensures (environment fault anyone).recorded
      (Daemon.Leaves o own config.bundleVersion version) _ _
      (((daemonResource config own counted).underPolicy policy).handler.ensure false o) (s, []) :=
    (creates_leaves config counted live).ensure policy ⟨versioned, rfl⟩
  exact Program.Ensures.post created fun _ _ _ => trivial

end Run

section Race

variable {fault : Error → Prop} {o : Overlay} {old new : DaemonConfig} {v w : Version} {s : MemoryServices}
  {x y : Race}

variable (fault o old new v w) in
/-- Both handlers will leave the daemon set of the newer generation what it is. -/
structure Race.Sound (x : Race) : Prop where
  older : x.older.Leaves fault o v old.bundleVersion new.bundleVersion x.world
  newer : x.newer.Leaves fault o w new.bundleVersion new.bundleVersion x.world

lemma Race.Sound.step (h : x.Sound fault o old new v w) (step : x.Step fault y) :
    y.Sound fault o old new v w := by
  cases step with
  | older step => exact ⟨h.older.step step, h.newer.meanwhile step.moves.1⟩
  | newer step => exact ⟨h.older.meanwhile step.moves.1, h.newer.step step⟩

lemma Race.Sound.run (h : x.Sound fault o old new v w)
    (run : Relation.ReflTransGen (Race.Step fault) x y) : y.Sound fault o old new v w := by
  induction run with
  | refl => exact h
  | tail _ step ih => exact ih.step step

/-- What the older handler has found late, it has found late at the end as well. -/
lemma Race.Step.foundLate (step : x.Step fault y) (late : FoundLate v (looks x.older.seen)) :
    FoundLate v (looks y.older.seen) := by
  cases step with
  | older step =>
    obtain ⟨more, e⟩ := step.moves.2
    rw [e]
    exact late.append more
  | newer step => exact late

/-- No step takes the daemon set from the newer generation, as long as the older handler has not found
that late. -/
lemma Race.Sound.kept (h : x.Sound fault o old new v w) (parsed : Version.parse new.bundleVersion = .ok w)
    (lt : v < w) (noticed : ¬ FoundLate v (looks x.older.seen)) (step : x.Step fault y)
    (stored : x.world.daemonVersion? o = some new.bundleVersion) :
    y.world.daemonVersion? o = some new.bundleVersion := by
  cases step with
  | older step => exact h.older.kept step (.inr ⟨⟨w, parsed, lt⟩, noticed⟩) stored
  | newer step => exact h.newer.kept step (.inl rfl) stored

/-- Once the daemon set is stored with the newer generation's version it keeps it, whatever both handlers
do from then on, unless an update of the older one has found a newer generation where its first look had
found none. -/
theorem handOver_stands {older newer : Resource services Overlay} {counted counted' : Bool}
    {policy policy' : BackoffPolicy} (builtOlder : Daemon.build old counted = .ok older)
    (builtNewer : Daemon.build new counted' = .ok newer)
    (parsedOlder : Version.parse old.bundleVersion = .ok v)
    (parsedNewer : Version.parse new.bundleVersion = .ok w) (lt : v < w) (live : o.isDeleted = false)
    (start : s.Reachable)
    (run : Relation.ReflTransGen (Race.Step fault)
      (.start (older.underPolicy policy).handler (newer.underPolicy policy').handler o s) x)
    (stored : x.world.daemonVersion? o = some new.bundleVersion)
    (later : Relation.ReflTransGen (Race.Step fault) x y)
    (noticed : ¬ FoundLate v (looks y.older.seen)) :
    y.world.daemonVersion? o = some new.bundleVersion := by
  obtain ⟨_, parsed, rfl⟩ := Daemon.build_eq_ok builtOlder
  cases parsed.symm.trans parsedOlder
  obtain ⟨_, parsed, rfl⟩ := Daemon.build_eq_ok builtNewer
  cases parsed.symm.trans parsedNewer
  have versioned := start.versioned .daemonSets
  have sound : x.Sound fault o old new v w := by
    refine Race.Sound.run ⟨?_, ?_⟩ run
    · exact Party.leaves_start old counted policy live versioned
    · exact Party.leaves_start new counted' policy' live versioned
  induction later with
  | refl => exact stored
  | tail before step ih =>
    have unnoticed := fun late => noticed (step.foundLate late)
    exact (sound.run before).kept parsedNewer lt unnoticed step (ih unnoticed)

end Race

section Schedules

variable {fault : Error → Prop}

/-- A handler makes a number of calls, none of which fails, and repeats nothing. -/
def Party.run (p : Party) (calls : Nat) (s : MemoryServices) : Party × MemoryServices :=
  let answer (c : OperatorCall) (w : MemoryServices × List (Exchange services)) :
      services.Answer c × (MemoryServices × List (Exchange services)) :=
    ((w.1.answer c).1, (w.1.answer c).2, w.2 ++ [⟨c, (w.1.answer c).1⟩])
  let stopped := p.program.runCalls answer calls (s, p.seen)
  (⟨stopped.1, stopped.2.2⟩, stopped.2.1)

lemma Party.reaches_run (p : Party) (calls : Nat) (s : MemoryServices) :
    Program.Reaches (environment fault nobody).recorded (p.program, s, p.seen)
      ((p.run calls s).1.program, (p.run calls s).2, (p.run calls s).1.seen) := by
  apply Program.reaches_runCalls
  exact fun c w => ⟨answers_answer c w.1, rfl⟩

/-- The older handler makes a number of calls. -/
def Race.runOlder (x : Race) (calls : Nat) : Race :=
  ⟨(x.older.run calls x.world).1, x.newer, (x.older.run calls x.world).2⟩

/-- The newer handler makes a number of calls. -/
def Race.runNewer (x : Race) (calls : Nat) : Race :=
  ⟨x.older, (x.newer.run calls x.world).1, (x.newer.run calls x.world).2⟩

lemma Race.reaches_runOlder (x : Race) (calls : Nat) :
    Relation.ReflTransGen (Race.Step fault) x (x.runOlder calls) := by
  let turn (z : Program services.withRuntime (Except PassError (Flow Unit)) ×
      (MemoryServices × List (Exchange services))) : Race := ⟨⟨z.1, z.2.2⟩, x.newer, z.2.1⟩
  exact (x.older.reaches_run calls x.world).lift turn fun _ _ step => .older step

lemma Race.reaches_runNewer (x : Race) (calls : Nat) :
    Relation.ReflTransGen (Race.Step fault) x (x.runNewer calls) := by
  let turn (z : Program services.withRuntime (Except PassError (Flow Unit)) ×
      (MemoryServices × List (Exchange services))) : Race := ⟨x.older, ⟨z.1, z.2.2⟩, z.2.1⟩
  exact (x.newer.reaches_run calls x.world).lift turn fun _ _ step => .newer step

/-- The daemon as some generation deploys it. -/
def DaemonConfig.sample (version : String) : DaemonConfig where
  bundleVersion := version
  image := "quay.io/giantswarm/flannel:v0.10.0-amd64"
  storeEndpoints := ["https://127.0.0.1:2379"]
  authorityFile := "/etc/kubernetes/ssl/etcd/client-ca.pem"
  certificateFile := "/etc/kubernetes/ssl/etcd/client-crt.pem"
  keyFile := "/etc/kubernetes/ssl/etcd/client-key.pem"
  healthContainer := false

lemma DaemonConfig.build_sample {version : String} {own : Version}
    (parsed : Version.parse version = .ok own) :
    Daemon.build (.sample version) false = .ok (daemonResource (.sample version) own false) := by
  have valid : (DaemonConfig.sample version).validate = .ok () := by
    unfold DaemonConfig.validate DaemonConfig.sample
    rw [parsed]
    rfl
  have parsed : Version.parse (DaemonConfig.sample version).bundleVersion = .ok own := parsed
  unfold Daemon.build
  rw [valid, parsed]

/-- Two generations begin to handle an overlay whose daemon set is from an earlier one. -/
def Race.sample : Race :=
  let handler (version : String) (own : Version) : Handler services Overlay :=
    ((daemonResource (.sample version) own false).underPolicy SetConfig.sample.retry).handler
  .start (handler "0.1.0" ⟨0, 1, 0⟩) (handler "0.2.0" ⟨0, 2, 0⟩) (Overlay.sample "a")
    (MemoryServices.answer (.cluster .daemonSets (.create (some (Overlay.sample "a").networkNamespace)
      ((Overlay.sample "a").daemonSetAt (.sample "0.0.1") 21026))) {}).2

end Schedules

/-- The newer generation writes the daemon set when an update of the older one has already found the
earlier one. The replacement by the older one is refused. -/
theorem handOver_stands_refused :
    ∃ (older newer : Resource services Overlay) (o : Overlay) (policy : BackoffPolicy) (s : MemoryServices)
      (x y : Race), Daemon.build (.sample "0.1.0") false = .ok older ∧
      Daemon.build (.sample "0.2.0") false = .ok newer ∧ o.isDeleted = false ∧ s.Reachable ∧
      s.daemonVersion? o = some "0.0.1" ∧
      Relation.ReflTransGen (Race.Step fun _ => False)
        (.start (older.underPolicy policy).handler (newer.underPolicy policy).handler o s) x ∧
      x.world.daemonVersion? o = some "0.2.0" ∧ Relation.ReflTransGen (Race.Step fun _ => False) x y ∧
      y.older.program.result?.map Except.toBool = some false ∧ y.world.daemonVersion? o = some "0.2.0" := by
  have older : Version.parse "0.1.0" = .ok ⟨0, 1, 0⟩ := by decide +kernel
  have newer : Version.parse "0.2.0" = .ok ⟨0, 2, 0⟩ := by decide +kernel
  let o := Overlay.sample "a"
  let x := (Race.sample.runOlder 2).runNewer 3
  let y := x.runOlder 1
  have begun : Relation.ReflTransGen (Race.Step fun _ => False) Race.sample x :=
    (Race.sample.reaches_runOlder 2).trans (Race.reaches_runNewer _ 3)
  have later : Relation.ReflTransGen (Race.Step fun _ => False) x y := x.reaches_runOlder 1
  have start : Race.sample.world.Reachable := Reachable.empty.answer _
  have stored : x.world.daemonVersion? o = some "0.2.0" := by decide +kernel
  have unnoticed : ∀ found ∈ (looks y.older.seen).tail, found.any (isNewer ⟨0, 1, 0⟩) = false := by
    decide +kernel
  have noticed : ¬ FoundLate ⟨0, 1, 0⟩ (looks y.older.seen) := by
    rintro ⟨first, later, e, -, found, m, late⟩
    rw [e] at unnoticed
    cases (unnoticed found m).symm.trans late
  exact ⟨_, _, o, SetConfig.sample.retry, Race.sample.world, x, y, DaemonConfig.build_sample older,
    DaemonConfig.build_sample newer, rfl, start, by decide +kernel, begun, stored, later, by decide +kernel,
    handOver_stands (DaemonConfig.build_sample older) (DaemonConfig.build_sample newer) older newer
      (by decide) rfl start begun stored later noticed⟩

/-- The newer generation writes the daemon set between the first look of the older one and the look of
its update. The update finds it, and replaces it. -/
theorem handOver_overwritten :
    ∃ (older newer : Resource services Overlay) (o : Overlay) (policy : BackoffPolicy) (s : MemoryServices)
      (x y : Race), Daemon.build (.sample "0.1.0") false = .ok older ∧
      Daemon.build (.sample "0.2.0") false = .ok newer ∧ o.isDeleted = false ∧ s.Reachable ∧
      Relation.ReflTransGen (Race.Step fun _ => False)
        (.start (older.underPolicy policy).handler (newer.underPolicy policy).handler o s) x ∧
      x.world.daemonVersion? o = some "0.2.0" ∧ Relation.ReflTransGen (Race.Step fun _ => False) x y ∧
      y.world.daemonVersion? o = some "0.1.0" := by
  have older : Version.parse "0.1.0" = .ok ⟨0, 1, 0⟩ := by decide +kernel
  have newer : Version.parse "0.2.0" = .ok ⟨0, 2, 0⟩ := by decide +kernel
  let x := (Race.sample.runOlder 1).runNewer 3
  have begun : Relation.ReflTransGen (Race.Step fun _ => False) Race.sample x :=
    (Race.sample.reaches_runOlder 1).trans (Race.reaches_runNewer _ 3)
  exact ⟨_, _, Overlay.sample "a", SetConfig.sample.retry, Race.sample.world, x, x.runOlder 2,
    DaemonConfig.build_sample older, DaemonConfig.build_sample newer, rfl, Reachable.empty.answer _, begun,
    by decide +kernel, x.reaches_runOlder 2, by decide +kernel⟩

end TenantOverlay
