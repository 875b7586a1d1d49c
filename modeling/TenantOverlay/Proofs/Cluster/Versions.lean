import TenantOverlay.Proofs.Cluster.Memory
import TenantOverlay.Proofs.Text.Digits

/-!
# The versions of stored objects

Every write gives an object a version of its own. So whoever has read an object can tell by its version
whether it is still the one that is stored (`ObjectTable.Known`): a request may put another object in
its place, but that has another version (`Known.answer`). A replacement that carries the version of what
has been read is refused if something else, or nothing, is stored by then (`Known.replace_cases`).
-/

namespace TenantOverlay

namespace ObjectTable

variable {Body : Type} {t : ObjectTable Body} {key : ObjectKey} {o : Manifest Body}

/-- The version of an object is one that has been handed out. -/
def Issued (t : ObjectTable Body) (o : Manifest Body) : Prop :=
  ∃ n < t.nextVersion, o.metadata.resourceVersion = some (toString n)

/-- The next version is none that has been handed out. -/
lemma Issued.ne_next (h : t.Issued o) : o.metadata.resourceVersion ≠ some (toString t.nextVersion) := by
  obtain ⟨n, lt, issued⟩ := h
  rw [issued]
  intro same
  exact Nat.ne_of_lt lt (Text.toString_injective (Option.some.inj same))

/-- The versions of all objects have been handed out. -/
def Versioned (t : ObjectTable Body) : Prop := ∀ key o, t.objects.get? key = some o → t.Issued o

/-- The version of an object tells it from any other object that stands under its key. -/
structure Known (t : ObjectTable Body) (key : ObjectKey) (o : Manifest Body) : Prop where
  issued : t.Issued o
  same {v : Manifest Body} : t.objects.get? key = some v →
    v.metadata.resourceVersion = o.metadata.resourceVersion → v = o

/-- What a request can do to an object: it leaves it, takes it away, or puts one there that has the next
version. -/
lemma answer_cases (t : ObjectTable Body) (r : ObjectRequest Body) :
    t.nextVersion ≤ (t.answer r).2.nextVersion ∧
      ∀ key v, (t.answer r).2.objects.get? key = some v → t.objects.get? key = some v ∨
        v.metadata.resourceVersion = some (toString t.nextVersion) ∧
          t.nextVersion < (t.answer r).2.nextVersion := by
  have moves := t.answer_moves r
  obtain ⟨silent, same⟩ | ⟨-, next⟩ := moves.nextVersion
  · refine ⟨Nat.le_of_eq same.symm, fun key v found => .inl ?_⟩
    obtain old | ⟨issues, -⟩ := moves.get?_cases found
    · exact old
    · rw [silent] at issues
      cases issues
  · rw [next]
    refine ⟨Nat.le_succ _, fun key v found => ?_⟩
    obtain old | ⟨-, ns, given, -, -, -, stored⟩ := moves.get?_cases found
    · exact .inl old
    · rw [stored, under_resourceVersion]
      exact .inr ⟨rfl, Nat.lt_succ_self _⟩

lemma Issued.answer (h : t.Issued o) (r : ObjectRequest Body) : (t.answer r).2.Issued o := by
  obtain ⟨n, lt, version⟩ := h
  exact ⟨n, Nat.lt_of_lt_of_le lt (t.answer_cases r).1, version⟩

lemma Versioned.empty : ({} : ObjectTable Body).Versioned := by
  intro key o found
  cases found

lemma Versioned.answer (h : t.Versioned) (r : ObjectRequest Body) : (t.answer r).2.Versioned := by
  intro key v found
  rcases (t.answer_cases r).2 key v found with found | ⟨version, lt⟩
  · exact (h key v found).answer r
  · exact ⟨_, lt, version⟩

/-- What is found is known. -/
lemma Versioned.known (h : t.Versioned) (found : t.objects.get? key = some o) : t.Known key o where
  issued := h key o found
  same found' _ := Option.some.inj (found'.symm.trans found)

/-- What has been known goes on to be known, for another object gets another version. -/
lemma Known.answer (h : t.Known key o) (r : ObjectRequest Body) : (t.answer r).2.Known key o where
  issued := h.issued.answer r
  same {v} found version := by
    rcases (t.answer_cases r).2 key v found with found | ⟨next, -⟩
    · exact h.same found version
    · exact absurd (version.symm.trans next) h.issued.ne_next

/-- What a replacement in the version of an object that is known comes to: the object still stands there
and is replaced, or there is none any more, or one that has another version. -/
lemma Known.replace_cases {ns : Option String} {name : String} {written : Manifest Body}
    (h : t.Known (.of ns name) o) (named : written.metadata.name = some name)
    (version : written.metadata.resourceVersion = o.metadata.resourceVersion) :
    (t.get? ns name = some o ∧
        t.replace ns written = (.ok (t.stamped ns written), t.store ns name written)) ∨
      (t.get? ns name = none ∧ t.replace ns written = (.error (.api (.notFound name)), t)) ∨
      ∃ v, t.get? ns name = some v ∧ v.metadata.resourceVersion ≠ o.metadata.resourceVersion ∧
        t.replace ns written = (.error (.api (.modified name)), t) := by
  cases found : t.get? ns name with
  | none =>
    refine .inr (.inl ⟨rfl, ?_⟩)
    unfold replace
    simp only [named, found]
  | some v =>
    by_cases same : v.metadata.resourceVersion = o.metadata.resourceVersion
    · obtain rfl := h.same found same
      exact .inl ⟨rfl, replace_same named found version⟩
    · obtain ⟨n, -, issued⟩ := h.issued
      have outdated : written.metadata.resourceVersion.isSome = true ∧
          v.metadata.resourceVersion ≠ written.metadata.resourceVersion := by
        rw [version]
        exact ⟨by rw [issued]; rfl, same⟩
      refine .inr (.inr ⟨v, rfl, same, ?_⟩)
      unfold replace
      simp only [named, found]
      rw [if_pos outdated]

end ObjectTable

end TenantOverlay
