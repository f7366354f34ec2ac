import ServicePortScanner.Core.ExactFloating
import ServicePortScanner.Data.Collecting
import ServicePortScanner.Data.JsonNode
import ServicePortScanner.Fp.CveLookup

namespace ServicePortScanner.Fp

open ServicePortScanner.Data ServicePortScanner.Core

/-! The CVE database from a JSON document. -/

section

variable {F : Type} [Floating F]

namespace CveDb

/-- One turn of the loop over the items of a service. -/
def loadItem (svc : Bytes) (entries : List (Entry F)) (item : JsonNode F) :
    Except JsonError (List (Entry F)) :=
  match item with
  | .object _ => do
      let versionPrefix ←
        item.valueOr JsonNode.getString (bytes "version_prefix") []
      let id ← item.valueOr JsonNode.getString (bytes "id") []
      let cvss ←
        item.valueOr JsonNode.getDouble (bytes "cvss") (Floating.literal 0)
      let e : Entry F := ⟨svc, versionPrefix, id, cvss⟩
      if !e.id.isEmpty && !e.versionPrefix.isEmpty then
        return entries ++ [e]
      else return entries
  | _ => return entries

/-- One turn of the loop over the services. -/
def loadMember (entries : List (Entry F)) :
    Bytes × JsonNode F → Except JsonError (List (Entry F))
  | (key, .array items) => items.foldlM (loadItem (toLower key)) entries
  | _ => return entries

/-- Every exception of the parser is caught, none of the loops is. -/
def loadFromString (parseJson : JsonParser F) (jsonText : Bytes) :
    Except JsonError (CveDb F) :=
  if jsonText.isEmpty then .ok {}
  else
    match parseJson jsonText with
    | .ok (.object members) =>
        (members.foldlM loadMember []).map fun entries => ⟨entries⟩
    | _ => .ok {}

end CveDb

/-! What a document asks for: the well-formed items of its services. -/

def number? : JsonNode F → Option F
  | .unsigned value => some (Floating.literal value.toNat)
  | .integer value => some (Floating.literal value)
  | .float value => some value
  | _ => none

/-- The score of an item; none, where it is present and no number. -/
def cvss? (item : JsonNode F) : Option F :=
  match item.find? (bytes "cvss") with
  | some score => number? score
  | none => some (Floating.literal 0)

/-- An item with a text for its version prefix, one for its id and a score. -/
def entryOf (svc : Bytes) (item : JsonNode F) : Option (Entry F) :=
  match item.findString? (bytes "version_prefix"),
      item.findString? (bytes "id"), cvss? item with
  | some versionPrefix, some id, some cvss =>
      if versionPrefix = [] ∨ id = [] then none
      else some ⟨svc, versionPrefix, id, cvss⟩
  | _, _, _ => none

def serviceEntries : Bytes × JsonNode F → List (Entry F)
  | (key, .array items) => items.filterMap (entryOf (toLower key))
  | _ => []

/-- The members of a text that is an object. -/
def objectMembers? (parseJson : JsonParser F) (text : Bytes) :
    Option (List (Bytes × JsonNode F)) :=
  if text = [] then none
  else
    match parseJson text with
    | .ok (.object members) => some members
    | _ => none

def wellFormedEntries (parseJson : JsonParser F) (text : Bytes) : CveDb F where
  entries := ((objectMembers? parseJson text).getD []).flatMap serviceEntries

/-! The types at which the loader reads the fields. -/

omit [Floating F] in
def IsText (item : JsonNode F) (key : Bytes) : Prop :=
  ∀ field, item.find? key = some field → ∃ text, field = .string text

def WellTyped (item : JsonNode F) : Prop :=
  IsText item (bytes "version_prefix") ∧ IsText item (bytes "id") ∧
    cvss? item ≠ none

def WellTypedMember : Bytes × JsonNode F → Prop
  | (_, .array items) => ∀ item ∈ items, WellTyped item
  | _ => True

omit [Floating F] in
theorem valueOr_text {item : JsonNode F} {key : Bytes}
    (typed : IsText item key) :
    item.valueOr JsonNode.getString key [] =
      .ok ((item.findString? key).getD []) := by
  unfold JsonNode.valueOr JsonNode.findString?
  cases found : item.find? key with
  | none => rfl
  | some field =>
      obtain ⟨text, rfl⟩ := typed field found
      rfl

omit [Floating F] in
theorem valueOr_untyped {item : JsonNode F} {key : Bytes}
    (untyped : ¬ IsText item key) :
    item.valueOr JsonNode.getString key [] = .error .typeError := by
  unfold JsonNode.valueOr
  cases found : item.find? key with
  | none => exact (untyped (by simp [IsText, found])).elim
  | some field =>
      cases field with
      | string text => exact (untyped (by simp [IsText, found])).elim
      | null | boolean | integer | unsigned | float | array | object => rfl

theorem valueOr_cvss (item : JsonNode F) :
    item.valueOr JsonNode.getDouble (bytes "cvss") (Floating.literal 0) =
      match cvss? item with
      | some cvss => .ok cvss
      | none => .error .typeError := by
  unfold JsonNode.valueOr cvss?
  cases item.find? (bytes "cvss") with
  | none => rfl
  | some score => cases score <;> rfl

theorem entryOf_eq {svc : Bytes} {item : JsonNode F} {cvss : F}
    (score : cvss? item = some cvss) :
    entryOf svc item =
      let versionPrefix := (item.findString? (bytes "version_prefix")).getD []
      let id := (item.findString? (bytes "id")).getD []
      if versionPrefix = [] ∨ id = [] then none
      else some ⟨svc, versionPrefix, id, cvss⟩ := by
  unfold entryOf
  rw [score]
  cases item.findString? (bytes "version_prefix") with
  | none => rfl
  | some versionPrefix =>
      cases item.findString? (bytes "id") with
      | none => simp
      | some id => rfl

theorem entryOf_of_not_object {svc : Bytes} {item : JsonNode F}
    (absent : ∀ key, item.find? key = none) : entryOf svc item = none := by
  simp [entryOf, JsonNode.findString?, absent]

theorem wellTyped_of_not_object {item : JsonNode F}
    (absent : ∀ key, item.find? key = none) : WellTyped item := by
  simp [WellTyped, IsText, cvss?, absent]

/-- The three fields are read in turn, and each read may throw. -/
theorem loadItem_collects (svc : Bytes) :
    Collects (CveDb.loadItem svc) (WellTyped (F := F)) JsonError.typeError
      (fun item => (entryOf svc item).toList) where
  adds entries item typed := by
    cases item with
    | object fields =>
        obtain ⟨prefixTyped, idTyped, cvssTyped⟩ := typed
        obtain ⟨cvss, score⟩ := Option.ne_none_iff_exists'.mp cvssTyped
        rw [entryOf_eq score]
        simp only [CveDb.loadItem, valueOr_text prefixTyped,
          valueOr_text idTyped, valueOr_cvss, score, bind, Except.bind]
        split
        · next complete =>
            simp only [Bool.and_eq_true, Bool.not_eq_true',
              List.isEmpty_eq_false_iff] at complete
            rw [if_neg (not_or.mpr complete.symm)]
            rfl
        · next incomplete =>
            simp only [Bool.and_eq_true, Bool.not_eq_true',
              List.isEmpty_eq_false_iff, not_and_or, not_not] at incomplete
            rw [if_pos incomplete.symm, Option.toList_none, List.append_nil]
            rfl
    | null | boolean | integer | unsigned | float | string | array =>
        rw [entryOf_of_not_object fun _ => rfl, Option.toList_none,
          List.append_nil]
        rfl
  throws entries item untyped := by
    cases item with
    | object fields =>
        simp only [CveDb.loadItem, bind, Except.bind]
        by_cases prefixTyped :
            IsText (.object fields : JsonNode F) (bytes "version_prefix")
        · rw [valueOr_text prefixTyped]
          by_cases idTyped : IsText (.object fields : JsonNode F) (bytes "id")
          · have cvssUntyped : cvss? (.object fields : JsonNode F) = none := by
              by_contra cvssTyped
              exact untyped ⟨prefixTyped, idTyped, cvssTyped⟩
            rw [valueOr_text idTyped, valueOr_cvss, cvssUntyped]
          · rw [valueOr_untyped idTyped]
        · rw [valueOr_untyped prefixTyped]
    | null | boolean | integer | unsigned | float | string | array =>
        exact (untyped (wellTyped_of_not_object fun _ => rfl)).elim

theorem loadMember_collects :
    Collects CveDb.loadMember (WellTypedMember (F := F)) JsonError.typeError
      serviceEntries where
  adds entries member typed := by
    obtain ⟨key, value⟩ := member
    cases value with
    | array items =>
        have loaded := (loadItem_collects (toLower key)).foldlM.adds entries
          items typed
        rw [← List.filterMap_eq_flatMap_toList] at loaded
        exact loaded
    | null | boolean | integer | unsigned | float | string | object =>
        exact congrArg Except.ok (List.append_nil entries).symm
  throws entries member untyped := by
    obtain ⟨key, value⟩ := member
    cases value with
    | array items =>
        exact (loadItem_collects (toLower key)).foldlM.throws entries items
          untyped
    | null | boolean | integer | unsigned | float | string | object =>
        exact (untyped trivial).elim

/-! When a database is loaded as the document asks for. -/

/-- The loops run over the members of the document. -/
theorem loadFromString_eq (parseJson : JsonParser F) (text : Bytes) :
    CveDb.loadFromString parseJson text =
      (((objectMembers? parseJson text).getD []).foldlM CveDb.loadMember []).map
        fun entries => ⟨entries⟩ := by
  unfold CveDb.loadFromString objectMembers?
  simp only [List.isEmpty_iff]
  split
  · rfl
  · split
    · rfl
    · rfl

/-- Every member of the document has an array of well typed items, or none. -/
def WellTypedText (parseJson : JsonParser F) (text : Bytes) : Prop :=
  ∀ members, objectMembers? parseJson text = some members →
    ∀ member ∈ members, WellTypedMember member

theorem loadFromString_wellTyped {parseJson : JsonParser F} {text : Bytes}
    (typed : WellTypedText parseJson text) :
    CveDb.loadFromString parseJson text =
      .ok (wellFormedEntries parseJson text) := by
  rw [loadFromString_eq, wellFormedEntries]
  cases read : objectMembers? parseJson text with
  | none => rfl
  | some members =>
      rw [Option.getD_some,
        loadMember_collects.foldlM_adds members [] (typed members read)]
      rfl

theorem loadFromString_throws {parseJson : JsonParser F} {text : Bytes}
    (untyped : ¬ WellTypedText parseJson text) :
    CveDb.loadFromString parseJson text = .error .typeError := by
  unfold WellTypedText at untyped
  push Not at untyped
  obtain ⟨members, read, member, found, bad⟩ := untyped
  rw [loadFromString_eq, read, Option.getD_some,
    loadMember_collects.foldlM_throws members []
      fun all => bad (all member found)]
  rfl

/-- A single field of a wrong type loses the whole database to an exception. -/
theorem loadFromString_eq_ok_iff (parseJson : JsonParser F) (text : Bytes) :
    CveDb.loadFromString parseJson text =
        .ok (wellFormedEntries parseJson text) ↔
      WellTypedText parseJson text := by
  constructor
  · intro loaded
    by_contra untyped
    rw [loadFromString_throws untyped] at loaded
    cases loaded
  · exact loadFromString_wellTyped

end

/-! A version number that is not quoted. -/

def unquotedText : Bytes :=
  bytes "\x7b\"nginx\": [\x7b\"version_prefix\": 1.15," ++
    bytes "\"id\": \"CVE-2019-9511\"\x7d]," ++
    bytes "\"openssh\": [\x7b\"version_prefix\": \"7.4\"," ++
    bytes "\"id\": \"CVE-2018-15473\"\x7d]\x7d"

/-- The parsed text; objects have their keys in order. -/
def unquotedNode : JsonNode ℚ :=
  let item (id : Bytes) (versionPrefix : JsonNode ℚ) : JsonNode ℚ :=
    .object [(bytes "id", .string id), (bytes "version_prefix", versionPrefix)]
  .object
    [(bytes "nginx", .array [item (bytes "CVE-2019-9511") (.float 1.15)]),
      (bytes "openssh",
        .array [item (bytes "CVE-2018-15473") (.string (bytes "7.4"))])]

def unquotedDocument : JsonParser ℚ := fun text =>
  if text = unquotedText then .ok unquotedNode else .error .parseError

theorem unquoted_throws :
    wellFormedEntries unquotedDocument unquotedText =
        ⟨[⟨bytes "openssh", bytes "7.4", bytes "CVE-2018-15473", 0⟩]⟩ ∧
      CveDb.loadFromString unquotedDocument unquotedText =
        .error .typeError := by
  constructor
  · decide +kernel
  · decide +kernel

end ServicePortScanner.Fp
