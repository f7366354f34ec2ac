import ServicePortScanner.Core.ExactFloating
import ServicePortScanner.Fp.CveLookup

namespace ServicePortScanner.Fp

open ServicePortScanner.Data ServicePortScanner.Core

/-! Where a version prefix has to stand in the version text for `lookup` to
report its entry. -/

def point : UInt8 := 0x2e

/-- The text before a place does not end inside a version number: neither with
a digit nor with a digit and a point. -/
def StartsNumber (before : Bytes) : Prop :=
  (∀ b ∈ before.getLast?, ¬ IsDigit b) ∧
    (before.getLast? = some point → ∀ b ∈ before.dropLast.getLast?, ¬ IsDigit b)

/-- A number the prefix ends with is not continued by the text behind it. -/
def EndsNumber (versionPrefix after : Bytes) : Prop :=
  (∃ b ∈ versionPrefix.getLast?, IsDigit b) → ∀ b ∈ after.head?, ¬ IsDigit b

instance (before : Bytes) : Decidable (StartsNumber before) :=
  inferInstanceAs (Decidable (_ ∧ _))

instance (versionPrefix after : Bytes) :
    Decidable (EndsNumber versionPrefix after) :=
  inferInstanceAs (Decidable (_ → _))

def OccursAtBoundary (versionPrefix version : Bytes) : Prop :=
  ∃ before after, version = before ++ versionPrefix ++ after ∧
    StartsNumber before ∧ EndsNumber versionPrefix after

theorem occursAtBoundary_iff_exists_drop (versionPrefix version : Bytes) :
    OccursAtBoundary versionPrefix version ↔
      ∃ i ∈ List.range (version.length + 1),
        version = version.take i ++ versionPrefix ++
          version.drop (i + versionPrefix.length) ∧
        StartsNumber (version.take i) ∧
        EndsNumber versionPrefix (version.drop (i + versionPrefix.length)) := by
  constructor
  · intro found
    obtain ⟨before, after, rfl, starts, ends⟩ := found
    refine ⟨before.length, ?_, ?_⟩
    · rw [List.mem_range, List.length_append, List.length_append]
      omega
    · simp [starts, ends]
  · intro found
    obtain ⟨i, _, occurs, starts, ends⟩ := found
    exact ⟨_, _, occurs, starts, ends⟩

instance (versionPrefix version : Bytes) :
    Decidable (OccursAtBoundary versionPrefix version) :=
  decidable_of_iff _ (occursAtBoundary_iff_exists_drop versionPrefix version).symm

namespace Entry

variable {F : Type}

/-- What `lookup` asks of an entry. -/
def Reported (service version : Bytes) (e : Entry F) : Prop :=
  service ≠ [] ∧ version ≠ [] ∧ e.serviceLower = toLower service ∧
    e.versionPrefix ≠ [] ∧ e.versionPrefix <:+: version

instance (service version : Bytes) (e : Entry F) :
    Decidable (e.Reported service version) :=
  inferInstanceAs (Decidable (_ ∧ _ ∧ _ ∧ _ ∧ _))

theorem Reported.extend {service version : Bytes} {e : Entry F}
    (reported : e.Reported service version) (before after : Bytes) :
    e.Reported service (before ++ version ++ after) := by
  obtain ⟨named, present, sameService, nonempty, occurs⟩ := reported
  refine ⟨named, ?_, sameService, nonempty, ?_⟩
  · intro empty
    exact present (List.append_eq_nil_iff.mp
      (List.append_eq_nil_iff.mp empty).1).2
  · exact occurs.trans ⟨before, after, rfl⟩

end Entry

namespace CveDb

variable {F : Type} [Floating F]

/-- An entry is returned only if its prefix occurs at a boundary. -/
def BoundaryOnly (db : CveDb F) (service version : Bytes) : Prop :=
  ∀ cve ∈ db.lookup service version, ∃ e ∈ db.entries,
    e.serviceLower = toLower service ∧ hit e = cve ∧
      OccursAtBoundary e.versionPrefix version

theorem lookup_eq_filter (db : CveDb F) (service version : Bytes) :
    db.lookup service version =
      (db.entries.filter fun e =>
        decide (e.Reported service version)).map hit := by
  by_cases empty : service = [] ∨ version = []
  · have none : db.entries.filter
        (fun e => decide (e.Reported service version)) = [] := by
      apply List.filter_eq_nil_iff.mpr
      intro e _ reported
      obtain ⟨named, present, _⟩ := of_decide_eq_true reported
      exact empty.elim named present
    rw [none, lookup, if_pos (by simpa using empty)]
    rfl
  · obtain ⟨named, present⟩ := not_or.mp empty
    rw [lookup, if_neg (by simpa using empty)]
    apply congrArg (List.map hit)
    apply List.filter_congr
    intro e _
    rw [Bool.eq_iff_iff]
    simp [Entry.Reported, versionMatches, named, present]

/-- `lookup` matches by substring: it returns one hit for each entry of the
service whose prefix occurs in the version text, in the order of the database.
None that occurs at a boundary is missed, and more text around the version takes
no hit away. -/
theorem lookup_by_substring (db : CveDb F) (service version : Bytes) :
    db.lookup service version =
        (db.entries.filter fun e =>
          decide (e.Reported service version)).map hit ∧
      (∀ e ∈ db.entries, service ≠ [] → e.serviceLower = toLower service →
        e.versionPrefix ≠ [] → OccursAtBoundary e.versionPrefix version →
          hit e ∈ db.lookup service version) ∧
      ∀ before after, (db.lookup service version).Sublist
        (db.lookup service (before ++ version ++ after)) := by
  refine ⟨lookup_eq_filter db service version, ?_, ?_⟩
  · intro e member named sameService nonempty boundary
    obtain ⟨before, after, occurs, _⟩ := boundary
    have present : version ≠ [] := by
      intro empty
      rw [empty] at occurs
      exact nonempty (List.append_eq_nil_iff.mp
        (List.append_eq_nil_iff.mp occurs.symm).1).2
    have reported : e.Reported service version :=
      ⟨named, present, sameService, nonempty, before, after, occurs.symm⟩
    rw [lookup_eq_filter]
    exact List.mem_map_of_mem (List.mem_filter.mpr
      ⟨member, decide_eq_true reported⟩)
  · intro before after
    rw [lookup_eq_filter, lookup_eq_filter]
    apply List.Sublist.map
    apply List.monotone_filter_right
    intro e reported
    exact decide_eq_true ((of_decide_eq_true reported).extend before after)

def opensshDb : CveDb ℚ where
  entries := [⟨bytes "openssh", bytes "7.4", bytes "CVE-2018-15473", 5.3⟩]

/-- The prefix 7.4 is found inside 17.4, 8.7.4 and 7.40. -/
theorem insideNumbers_reported :
    (opensshDb.lookup (bytes "openssh") (bytes "OpenSSH_17.4") ≠ [] ∧
      ¬ opensshDb.BoundaryOnly (bytes "openssh") (bytes "OpenSSH_17.4")) ∧
    (opensshDb.lookup (bytes "openssh") (bytes "OpenSSH_8.7.4") ≠ [] ∧
      ¬ opensshDb.BoundaryOnly (bytes "openssh") (bytes "OpenSSH_8.7.4")) ∧
    (opensshDb.lookup (bytes "openssh") (bytes "OpenSSH_7.40") ≠ [] ∧
      ¬ opensshDb.BoundaryOnly (bytes "openssh") (bytes "OpenSSH_7.40")) := by
  unfold BoundaryOnly
  decide +kernel

end CveDb

end ServicePortScanner.Fp
