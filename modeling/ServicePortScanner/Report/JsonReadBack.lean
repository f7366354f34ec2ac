import ServicePortScanner.Data.JsonPath
import ServicePortScanner.Report.JsonTemplate

namespace ServicePortScanner.Report

open ServicePortScanner.Data
open ServicePortScanner.Core
open ServicePortScanner.Data.Json (Selector Written readString select?)

/-! Which strings of a result a reader of the JSON exports gets back. -/

/-- A control byte without an escape of its own. -/
def IsBlanked (c : UInt8) : Prop :=
  c < 0x20 ∧ c ≠ 0x08 ∧ c ≠ 0x0c ∧ c ≠ 0x0a ∧ c ≠ 0x0d ∧ c ≠ 0x09

instance : DecidablePred IsBlanked := fun _ =>
  inferInstanceAs (Decidable (_ ∧ _))

theorem writtenByte_eq_self_iff (c : UInt8) :
    writtenByte c = c ↔ ¬ IsBlanked c := by
  unfold writtenByte
  split
  · next blanked =>
      refine iff_of_false ?_ (not_not_intro blanked)
      intro same
      rw [← same] at blanked
      exact absurd blanked.1 (by decide)
  · next kept => exact iff_of_true rfl kept

theorem map_writtenByte_eq_self_iff (s : Bytes) :
    s.map writtenByte = s ↔ ∀ b ∈ s, ¬ IsBlanked b := by
  induction s with
  | nil => simp
  | cons b s induction =>
      rw [List.map_cons, List.cons.injEq, writtenByte_eq_self_iff, induction,
        List.forall_mem_cons]

section

variable {F : Type}

def JsonValue.text? : List Selector → JsonValue F → Option Bytes
  | [], .string text => some text
  | .key key :: rest, .object members => (select? key members).bind (text? rest)
  | .index i :: rest, .array items => items[i]?.bind (text? rest)
  | _, _ => none

/-- What `dump` writes of a value in UTF-8 has the strings of the value at their
places. -/
def ReadsBack (dump : JsonValue F → Except Bytes Bytes) : Prop :=
  ∀ value : JsonValue F, (∀ s ∈ value.strings, Utf8.Valid s) →
    ∃ text, dump value = .ok text ∧
      ∀ path s, value.text? path = some s → readString text path = some s

/-- The string fields in an item of `results` of `JsonWriter`. -/
def writtenStrings (r : ScanResult F) : List (List Selector × Bytes) :=
  [([.key (bytes "target_host")], r.targetHost),
    ([.key (bytes "resolved_ip")], r.resolvedIp),
    ([.key (bytes "protocol")], r.protocol),
    ([.key (bytes "service"), .key (bytes "name")], r.service.name),
    ([.key (bytes "service"), .key (bytes "product")], r.service.product),
    ([.key (bytes "service"), .key (bytes "version")], r.service.version),
    ([.key (bytes "service"), .key (bytes "extra_info")], r.service.extraInfo),
    ([.key (bytes "service"), .key (bytes "banner_raw")], r.service.bannerRaw),
    ([.key (bytes "ja4s")], r.ja4s),
    ([.key (bytes "ja4x")], r.ja4x),
    ([.key (bytes "cdn")], r.cdn),
    ([.key (bytes "os_guess")], r.osGuess)] ++
  r.cves.zipIdx.flatMap fun (cve, j) =>
    [([.key (bytes "cves"), .index j, .key (bytes "cve_id")], cve.cveId),
      ([.key (bytes "cves"), .index j, .key (bytes "description")],
        cve.description)]

/-- Every string of a result has its place. -/
theorem map_snd_writtenStrings (r : ScanResult F) :
    (writtenStrings r).map Prod.snd = resultStrings r := by
  have cves : (r.cves.zipIdx.map Prod.fst).flatMap cveStrings =
      r.cves.flatMap cveStrings := by
    rw [List.zipIdx_map_fst]
  rw [resultStrings, ← cves, List.flatMap_map, writtenStrings, List.map_append,
    List.map_flatMap]
  rfl

/-- The string fields that an item of `to_json` has as well, with their places
in both. -/
def sharedStrings (r : ScanResult F) :
    List (List Selector × List Selector × Bytes) :=
  [([.key (bytes "target_host")], [.key (bytes "host")], r.targetHost),
    ([.key (bytes "state")], [.key (bytes "state")], stateStr r.state),
    ([.key (bytes "service"), .key (bytes "name")], [.key (bytes "service")],
      r.service.name),
    ([.key (bytes "service"), .key (bytes "product")],
      [.key (bytes "product")], r.service.product),
    ([.key (bytes "service"), .key (bytes "version")],
      [.key (bytes "version")], r.service.version),
    ([.key (bytes "service"), .key (bytes "banner_raw")],
      [.key (bytes "banner")], r.service.bannerRaw),
    ([.key (bytes "ja4s")], [.key (bytes "ja4s")], r.ja4s),
    ([.key (bytes "ja4x")], [.key (bytes "ja4x")], r.ja4x),
    ([.key (bytes "cdn")], [.key (bytes "cdn")], r.cdn),
    ([.key (bytes "os_guess")], [.key (bytes "os_guess")], r.osGuess)] ++
  r.cves.zipIdx.map fun (cve, j) =>
    ([.key (bytes "cves"), .index j, .key (bytes "cve_id")],
      [.key (bytes "cves"), .index j, .key (bytes "id")], cve.cveId)

variable [Floating F]

theorem resultValue_cves (r : ScanResult F) (path : List Selector) :
    (JsonWriter.resultValue r).text? (.key (bytes "cves") :: path) =
      (Json.Value.array (r.cves.map JsonWriter.cveValue)).text? path := rfl

theorem resultValue_text (r : ScanResult F) :
    ∀ field ∈ writtenStrings r, (JsonWriter.resultValue r).text? field.1 =
      some (field.2.map writtenByte) := by
  rw [writtenStrings, List.forall_mem_append]
  constructor
  · simp only [List.forall_mem_cons]
    exact ⟨rfl, rfl, rfl, rfl, rfl, rfl, rfl, rfl, rfl, rfl, rfl, rfl, nofun⟩
  · simp only [List.forall_mem_flatMap, List.forall_mem_cons]
    intro entry inCves
    obtain ⟨cve, j⟩ := entry
    have found : r.cves[j]? = some cve := List.mem_zipIdx_iff_getElem?.mp inCves
    simp only [resultValue_cves, Json.Value.text?, List.getElem?_map, found]
    exact ⟨rfl, rfl, nofun⟩

theorem resultItem_cves (r : ScanResult F) (path : List Selector) :
    (resultItem r).text? (.key (bytes "cves") :: path) =
      (JsonValue.array (r.cves.map cveItem)).text? path := rfl

theorem map_writtenByte_stateStr (state : PortState) :
    (stateStr state).map writtenByte = stateStr state := by
  cases state <;> rfl

theorem sharedStrings_text (r : ScanResult F) :
    ∀ field ∈ sharedStrings r,
      (JsonWriter.resultValue r).text? field.1 =
          some (field.2.2.map writtenByte) ∧
        (resultItem r).text? field.2.1 = some field.2.2 := by
  rw [sharedStrings, List.forall_mem_append]
  constructor
  · simp only [List.forall_mem_cons]
    refine ⟨⟨rfl, rfl⟩, ⟨?_, rfl⟩, ⟨rfl, rfl⟩, ⟨rfl, rfl⟩, ⟨rfl, rfl⟩,
      ⟨rfl, rfl⟩, ⟨rfl, rfl⟩, ⟨rfl, rfl⟩, ⟨rfl, rfl⟩, ⟨rfl, rfl⟩, nofun⟩
    rw [map_writtenByte_stateStr]
    rfl
  · simp only [List.forall_mem_map]
    intro entry inCves
    obtain ⟨cve, j⟩ := entry
    have found : r.cves[j]? = some cve := List.mem_zipIdx_iff_getElem?.mp inCves
    simp only [resultValue_cves, resultItem_cves, Json.Value.text?,
      JsonValue.text?, List.getElem?_map, found]
    exact ⟨rfl, rfl⟩

/-- The place of a field of the i-th result. -/
def resultPath (i : Nat) (path : List Selector) : List Selector :=
  .key (bytes "results") :: .index i :: path

theorem readString_text (numbers : PrintsJsonNumbers F)
    {results : List (ScanResult F)} (finite : JsonWriter.Finite results)
    {i : Nat} {r : ScanResult F} (found : results[i]? = some r)
    (path : List Selector) :
    readString (JsonWriter.text results) (resultPath i path) =
      (JsonWriter.resultValue r).text? path := by
  rw [readString, JsonWriter.parse_text_finite numbers finite, Option.bind_some]
  have inResults : (JsonWriter.documentValue results).text? (resultPath i path) =
      (Json.Value.array (results.map JsonWriter.resultValue)).text?
        (.index i :: path) := rfl
  rw [inResults, Json.Value.text?, List.getElem?_map, found]
  rfl

theorem readString_notFinite (numbers : PrintsJsonNumbers F)
    {results : List (ScanResult F)} (notFinite : ¬ JsonWriter.Finite results)
    (path : List Selector) :
    readString (JsonWriter.text results) path = none := by
  rw [readString, JsonWriter.parse_text_notFinite numbers notFinite,
    Option.bind_none]

/-- A string that is written with blanks is found as it was where it needs none,
in a file that is JSON. -/
theorem readString_eq_iff (numbers : PrintsJsonNumbers F)
    {results : List (ScanResult F)} {i : Nat} {r : ScanResult F}
    (found : results[i]? = some r) {path : List Selector} {s : Bytes}
    (atPath : (JsonWriter.resultValue r).text? path =
      some (s.map writtenByte)) :
    readString (JsonWriter.text results) (resultPath i path) = some s ↔
      JsonWriter.Finite results ∧ ∀ b ∈ s, ¬ IsBlanked b := by
  by_cases finite : JsonWriter.Finite results
  · rw [readString_text numbers finite found, atPath, Option.some_inj,
      map_writtenByte_eq_self_iff, and_iff_right finite]
  · rw [readString_notFinite numbers finite]
    simp [finite]

theorem exists_toJson {dump : JsonValue F → Except Bytes Bytes}
    (reads : ReadsBack dump) {results : List (ScanResult F)}
    (valid : ∀ r ∈ results, ∀ s ∈ exportedStrings r, Utf8.Valid s) :
    ∃ text, toJson dump results = .ok text ∧
      ∀ i r, results[i]? = some r → ∀ path s,
        (resultItem r).text? path = some s →
          readString text (.index i :: path) = some s := by
  obtain ⟨text, dumped, strings⟩ := reads (.array (results.map resultItem))
    ((strings_results results).mpr valid)
  refine ⟨text, dumped, fun i r found path s atPath => strings _ _ ?_⟩
  rw [JsonValue.text?, List.getElem?_map, found]
  exact atPath

/-- A string comes back with blanks for some control bytes: as it was, and as
`to_json` exports it, exactly where it holds none of them and the numbers of the
file are finite. -/
theorem strings_read_back {dump : JsonValue F → Except Bytes Bytes}
    (reads : ReadsBack dump) (numbers : PrintsJsonNumbers F)
    {results : List (ScanResult F)}
    (valid : ∀ r ∈ results, ∀ s ∈ resultStrings r, Utf8.Valid s) :
    ∃ exported, toJson dump results = .ok exported ∧
      ∀ i r, results[i]? = some r →
        (∀ field ∈ writtenStrings r,
          (JsonWriter.Finite results →
            readString (JsonWriter.text results) (resultPath i field.1) =
              some (field.2.map writtenByte)) ∧
          (readString (JsonWriter.text results) (resultPath i field.1) =
              some field.2 ↔
            JsonWriter.Finite results ∧ ∀ b ∈ field.2, ¬ IsBlanked b)) ∧
        ∀ field ∈ sharedStrings r,
          readString (JsonWriter.text results) (resultPath i field.1) =
              readString exported (.index i :: field.2.1) ↔
            JsonWriter.Finite results ∧ ∀ b ∈ field.2.2, ¬ IsBlanked b := by
  obtain ⟨exported, dumped, strings⟩ := exists_toJson reads fun r member s
    isExported => valid r member s (exportedStrings_subset r s isExported)
  refine ⟨exported, dumped, fun i r found => ⟨?_, ?_⟩⟩
  · intro field member
    have atPath := resultValue_text r field member
    refine ⟨?_, readString_eq_iff numbers found atPath⟩
    intro finite
    rw [readString_text numbers finite found, atPath]
  · intro field member
    obtain ⟨written, item⟩ := sharedStrings_text r field member
    rw [strings i r found _ _ item]
    exact readString_eq_iff numbers found written

end

/-! The reference `dump` is read as the value. -/

namespace ReferenceDump

theorem layoutItems_eq (indent : Nat) (items : List (JsonValue ℚ)) :
    layoutItems indent items = items.map (layout indent) := by
  induction items with
  | nil => rw [layoutItems, List.map_nil]
  | cons item items induction => rw [layoutItems, induction, List.map_cons]

theorem insertByKey_perm (member : Bytes × Bytes × Written)
    (members : List (Bytes × Bytes × Written)) :
    (insertByKey member members).Perm (member :: members) := by
  induction members with
  | nil => exact List.Perm.refl _
  | cons first rest induction =>
      unfold insertByKey
      split
      · exact List.Perm.refl _
      · exact (induction.cons first).trans (List.Perm.swap member first rest)

theorem layoutMembers_perm (indent : Nat)
    (members : List (Bytes × JsonValue ℚ)) :
    ((layoutMembers indent members).map fun m => (m.2.1, m.2.2.value)).Perm
      (members.map fun m => (m.1, (layout indent m.2).value)) := by
  induction members with
  | nil =>
      rw [layoutMembers]
      exact List.Perm.refl _
  | cons member members induction =>
      rw [layoutMembers]
      exact ((insertByKey_perm _ _).map _).trans (induction.cons _)

theorem layoutArray_value (indent : Nat) (items : List Written) :
    (layoutArray indent items).value = .array (items.map Written.value) := by
  cases items <;> rfl

theorem layoutObject_value (indent : Nat)
    (members : List (Bytes × Bytes × Written)) :
    (layoutObject indent members).value =
      .object (members.map fun m => (m.2.1, m.2.2.value)) := by
  cases members <;> rfl

/-- The induction is on the path, one level of the layout for each selector. -/
theorem layout_text {indent : Nat} {value : JsonValue ℚ} {path : List Selector}
    {s : Bytes} (atPath : value.text? path = some s) :
    (layout indent value).value.text? path = some s := by
  induction path generalizing indent value with
  | nil =>
      cases value with
      | string text =>
          rw [layout]
          exact atPath
      | unsigned | float | boolean | array | object => cases atPath
  | cons selector path induction =>
      cases value with
      | array items =>
          cases selector with
          | key key => cases atPath
          | index i =>
              obtain ⟨item, found, inItem⟩ := Option.bind_eq_some_iff.mp atPath
              rw [layout, layoutArray_value, layoutItems_eq, Json.Value.text?,
                List.getElem?_map, List.getElem?_map, found]
              exact induction inItem
      | object members =>
          cases selector with
          | index i => cases atPath
          | key key =>
              obtain ⟨member, found, inMember⟩ :=
                Option.bind_eq_some_iff.mp atPath
              rw [layout, layoutObject_value, Json.Value.text?,
                Json.select?_perm (layoutMembers_perm _ members) key,
                Json.select?_map key members fun value =>
                  (layout (indent + 2) value).value, found]
              exact induction inMember
      | unsigned | float | boolean | string => cases selector <;> cases atPath

theorem readsBack : ReadsBack dump := by
  intro value valid
  have total := total_layout 0 value valid
  refine ⟨_, if_pos valid, fun path s atPath => ?_⟩
  rw [readString, Written.parse_text total.reads, total.ok]
  exact layout_text atPath

end ReferenceDump

theorem finite_exact (results : List (ScanResult ℚ)) :
    JsonWriter.Finite results :=
  fun _ _ _ _ => rfl

/-- A terminal that is cleared by its greeting. -/
def ansiResult : ScanResult ℚ where
  targetHost := bytes "10.0.0.5"
  port := 23
  state := .opened
  service := { name := bytes "telnet", bannerRaw := 0x1b :: bytes "[2J login:" }

theorem strings_read_back_ansi :
    ∃ exported, toJson ReferenceDump.dump [ansiResult] = .ok exported ∧
      readString (JsonWriter.text [ansiResult])
          (resultPath 0 [.key (bytes "service"), .key (bytes "name")]) =
        some (bytes "telnet") ∧
      readString (JsonWriter.text [ansiResult])
          (resultPath 0 [.key (bytes "service"), .key (bytes "name")]) =
        readString exported [.index 0, .key (bytes "service")] := by
  have valid : ∀ r ∈ [ansiResult], ∀ s ∈ resultStrings r, Utf8.Valid s := by
    rw [List.forall_mem_singleton]
    decide +kernel
  have unblanked : ∀ b ∈ bytes "telnet", ¬ IsBlanked b := by
    decide +kernel
  obtain ⟨exported, dumped, fields⟩ := strings_read_back
    ReferenceDump.readsBack ReferenceDump.printsJsonNumbers valid
  obtain ⟨written, shared⟩ := fields 0 ansiResult rfl
  refine ⟨exported, dumped, ?_, ?_⟩
  · exact (written ([.key (bytes "service"), .key (bytes "name")],
      bytes "telnet") (by simp [writtenStrings, ansiResult])).2.mpr
        ⟨finite_exact _, unblanked⟩
  · exact (shared ([.key (bytes "service"), .key (bytes "name")],
      [.key (bytes "service")], bytes "telnet")
        (by simp [sharedStrings, ansiResult])).mpr ⟨finite_exact _, unblanked⟩

/-- The escape byte is lost in one export and kept in the other. -/
theorem ansi_blanked :
    (∀ s ∈ resultStrings ansiResult, Utf8.Valid s) ∧
      readString (JsonWriter.text [ansiResult])
          (resultPath 0 [.key (bytes "service"), .key (bytes "banner_raw")]) =
        some (bytes " [2J login:") ∧
      bytes " [2J login:" ≠ ansiResult.service.bannerRaw ∧
      ∃ exported, toJson ReferenceDump.dump [ansiResult] = .ok exported ∧
        readString exported [.index 0, .key (bytes "banner")] =
          some ansiResult.service.bannerRaw := by
  have valid : ∀ s ∈ exportedStrings ansiResult, Utf8.Valid s := by
    decide +kernel
  refine ⟨by decide +kernel, ?_, by decide, ?_⟩
  · rw [readString_text ReferenceDump.printsJsonNumbers (finite_exact _) rfl]
    rfl
  · obtain ⟨exported, dumped, strings⟩ := exists_toJson ReferenceDump.readsBack
      (List.forall_mem_singleton.mpr valid)
    exact ⟨exported, dumped, strings 0 ansiResult rfl _ _ rfl⟩

end ServicePortScanner.Report
