import TenantOverlay.Proofs.Cluster.Versions
import TenantOverlay.Proofs.Operator.Memory

/-!
# The versions of objects under calls

What holds of the versions in one table of objects holds of all tables of the services. Whoever has read an object
can tell by its version whether it is still the one that is stored (`MemoryServices.Known`), whatever calls are
made (`Known.answer`), and a replacement that carries its version takes the place of that object or changes
nothing (`Known.answer_replace`).
-/

namespace TenantOverlay

namespace MemoryServices

variable {s : MemoryServices}

/-- The versions of all objects of a kind have been handed out. -/
def Versioned (s : MemoryServices) (k : Kind) : Prop := (s.cluster.table k).Versioned

lemma Versioned.answer {k : Kind} (h : s.Versioned k) (c : OperatorCall) : (s.answer c).2.Versioned k :=
  table_answer_keeps (fun _ r before => before.answer r) h c

/-- The versions of all objects have been handed out. -/
theorem Reachable.versioned (h : s.Reachable) (k : Kind) : s.Versioned k := by
  induction h with
  | empty => cases k <;> exact .empty
  | answer c _ ih => exact ih.answer c

/-- The version of an object tells it from any other object that stands at its place. -/
def Known (s : MemoryServices) (p : Place) (o : p.kind.Object) : Prop :=
  (s.cluster.table p.kind).Known p.key o

variable {p : Place} {o : p.kind.Object}

lemma Versioned.known (h : s.Versioned p.kind) (found : s.object? p = some o) : s.Known p o :=
  ObjectTable.Versioned.known h found

lemma Known.answer (h : s.Known p o) (c : OperatorCall) : (s.answer c).2.Known p o :=
  table_answer_keeps (P := fun t => t.Known p.key o) (fun _ r before => before.answer r) h c

section Replacement

variable {k : Kind} {ns : Option String} {name : String} {o v written : k.Object}

/-- What a replacement in the version of an object comes to: it takes the place of the object, or is
refused and changes nothing. -/
lemma Known.answer_replace (h : s.Known ⟨k, .of ns name⟩ o) (named : written.metadata.name = some name)
    (version : written.metadata.resourceVersion = o.metadata.resourceVersion) :
    (s.object? ⟨k, .of ns name⟩ = some o ∧
        (s.answer (.cluster k (.replace ns written))).1 = .ok ((s.cluster.table k).stamped ns written) ∧
        (s.answer (.cluster k (.replace ns written))).2.object? ⟨k, .of ns name⟩ =
          some ((s.cluster.table k).stamped ns written)) ∨
      (s.object? ⟨k, .of ns name⟩ = none ∧
        s.answer (.cluster k (.replace ns written)) = (.error (.api (.notFound name)), s)) ∨
      ∃ v, s.object? ⟨k, .of ns name⟩ = some v ∧
        v.metadata.resourceVersion ≠ o.metadata.resourceVersion ∧
        s.answer (.cluster k (.replace ns written)) = (.error (.api (.modified name)), s) := by
  have unchanged {e : Error}
      (refused : (s.cluster.table k).replace ns written = (.error e, s.cluster.table k)) :
      s.answer (.cluster k (.replace ns written)) = (.error e, s) := by
    have failed := congrArg Prod.fst refused
    refine Prod.ext failed ?_
    show { s with cluster := s.cluster.withTable k ((s.cluster.table k).replace ns written).2 } = s
    rw [refused, Cluster.withTable_table]
  obtain ⟨found, -⟩ | ⟨gone, refused⟩ | ⟨v, found, other, refused⟩ := h.replace_cases named version
  · exact .inl ⟨found, answer_replace_same named found version⟩
  · exact .inr (.inl ⟨gone, unchanged refused⟩)
  · exact .inr (.inr ⟨v, found, other, unchanged refused⟩)

/-- A replacement in the version of an object leaves anything else that is stored. -/
lemma Known.replace_refused (h : s.Known ⟨k, .of ns name⟩ o) (found : s.object? ⟨k, .of ns name⟩ = some v)
    (other : v ≠ o) (named : written.metadata.name = some name)
    (version : written.metadata.resourceVersion = o.metadata.resourceVersion) :
    (s.answer (.cluster k (.replace ns written))).2 = s := by
  obtain ⟨found', -⟩ | ⟨-, refused⟩ | ⟨_, -, -, refused⟩ := h.answer_replace named version
  · exact absurd (Option.some.inj (found.symm.trans found')) other
  · rw [refused]
  · rw [refused]

/-- The version that the next write hands out is none that is known. -/
lemma Known.fresh {p : Place} {o : p.kind.Object} (h : s.Known p o) :
    o.metadata.resourceVersion ≠ some (toString (s.cluster.table p.kind).nextVersion) :=
  h.issued.ne_next

end Replacement

end MemoryServices

end TenantOverlay
