import ServicePortScanner.Report.JsonDocument

namespace ServicePortScanner.Report

open ServicePortScanner.Data
open ServicePortScanner.Core
open ServicePortScanner.Data.Json (Written)

/-! Both JSON exports, over any `dump` that does what `nlohmann::json`
documents. -/

mutual

def JsonValue.strings : JsonValue F → List Bytes
  | .unsigned _ => []
  | .float _ => []
  | .boolean _ => []
  | .string text => [text]
  | .array items => JsonValue.stringsOfItems items
  | .object members => JsonValue.stringsOfMembers members

def JsonValue.stringsOfItems : List (JsonValue F) → List Bytes
  | [] => []
  | item :: rest => item.strings ++ JsonValue.stringsOfItems rest

def JsonValue.stringsOfMembers : List (Bytes × JsonValue F) → List Bytes
  | [] => []
  | (key, value) :: rest =>
      key :: (value.strings ++ JsonValue.stringsOfMembers rest)

end

/-- A complete JSON document encoded in UTF-8. -/
def IsJsonText (text : Bytes) : Prop :=
  (Json.parse text).isSome = true ∧ Utf8.Valid text

/-- With the strict error handler, `dump` throws on a string that is not UTF-8
and writes the document of any other value. -/
structure StrictDump (dump : JsonValue F → Except Bytes Bytes) : Prop where
  throws : ∀ value, (∃ s ∈ value.strings, ¬ Utf8.Valid s) →
    ∃ error, dump value = .error error
  writes : ∀ value, (∀ s ∈ value.strings, Utf8.Valid s) →
    ∃ text, dump value = .ok text ∧ IsJsonText text

section

variable {F : Type} [Floating F]

/-- The strings of a result that `to_json` exports. -/
def exportedStrings (r : ScanResult F) : List Bytes :=
  [r.targetHost, r.service.name, r.service.product, r.service.version,
    r.service.bannerRaw, r.ja4s, r.ja4x, r.cdn, r.osGuess] ++
      r.cves.map fun cve => cve.cveId

theorem strings_cveItem (cve : CveInfo F) :
    (∀ s ∈ (cveItem cve).strings, Utf8.Valid s) ↔ Utf8.Valid cve.cveId := by
  have keys : ∀ key ∈ [bytes "id", bytes "cvss", bytes "epss",
      bytes "percentile", bytes "risk", bytes "nuclei_verified"],
        Utf8.Valid key := by decide
  simp only [List.forall_mem_cons] at keys
  simp only [cveItem, JsonValue.strings, JsonValue.stringsOfMembers,
    List.forall_mem_cons, List.forall_mem_append, keys, true_and, List.nil_append]
  simp

theorem strings_cveItems (cves : List (CveInfo F)) :
    (∀ s ∈ JsonValue.stringsOfItems (cves.map cveItem), Utf8.Valid s) ↔
      ∀ s ∈ cves.map fun cve => cve.cveId, Utf8.Valid s := by
  induction cves with
  | nil => simp [JsonValue.stringsOfItems]
  | cons cve cves induction =>
      rw [List.map_cons, JsonValue.stringsOfItems, List.forall_mem_append,
        strings_cveItem, induction, List.map_cons, List.forall_mem_cons]

theorem strings_resultItem (r : ScanResult F) :
    (∀ s ∈ (resultItem r).strings, Utf8.Valid s) ↔
      ∀ s ∈ exportedStrings r, Utf8.Valid s := by
  have keys : ∀ key ∈ [bytes "host", bytes "port", bytes "state",
      bytes "service", bytes "product", bytes "version", bytes "banner",
      bytes "ja4s", bytes "ja4x", bytes "cdn", bytes "os_guess", bytes "cves"],
        Utf8.Valid key := by decide
  simp only [List.forall_mem_cons] at keys
  simp only [resultItem, JsonValue.strings, JsonValue.stringsOfMembers,
    exportedStrings, List.forall_mem_cons, List.forall_mem_append,
    strings_cveItems, keys, valid_stateStr, true_and, List.nil_append,
    List.append_nil, and_assoc]
  tauto

theorem strings_results (results : List (ScanResult F)) :
    (∀ s ∈ (JsonValue.array (results.map resultItem)).strings, Utf8.Valid s) ↔
      ∀ r ∈ results, ∀ s ∈ exportedStrings r, Utf8.Valid s := by
  rw [JsonValue.strings]
  induction results with
  | nil => simp [JsonValue.stringsOfItems]
  | cons r results induction =>
      rw [List.map_cons, JsonValue.stringsOfItems, List.forall_mem_append,
        strings_resultItem, induction, List.forall_mem_cons]

/-- `to_json` returns exactly where its strings are UTF-8, and then returns a
JSON text. -/
theorem toJson_iff {dump : JsonValue F → Except Bytes Bytes}
    (strict : StrictDump dump) (results : List (ScanResult F)) :
    (∃ text, toJson dump results = .ok text ∧ IsJsonText text) ↔
      ∀ r ∈ results, ∀ s ∈ exportedStrings r, Utf8.Valid s := by
  rw [← strings_results]
  constructor
  · rintro ⟨text, returned, _⟩
    by_contra invalid
    simp only [not_forall] at invalid
    obtain ⟨s, inStrings, notValid⟩ := invalid
    obtain ⟨error, threw⟩ := strict.throws _ ⟨s, inStrings, notValid⟩
    rw [toJson, threw] at returned
    cases returned
  · exact strict.writes _

/-- `JsonWriter` writes a JSON text exactly where its strings are UTF-8 and the
numbers it prints are finite. -/
theorem JsonWriter.isJsonText_text_iff (numbers : PrintsJsonNumbers F)
    (results : List (ScanResult F)) :
    IsJsonText (JsonWriter.text results) ↔
      ∀ r ∈ results, (∀ s ∈ resultStrings r, Utf8.Valid s) ∧
        ∀ cve ∈ r.cves, JsonWriter.cveFinite cve = true := by
  rw [IsJsonText, JsonWriter.valid_text_iff numbers,
    JsonWriter.parse_text numbers, JsonWriter.documentWritten_ok numbers]
  have finite : ((if (results.all fun r => r.cves.all JsonWriter.cveFinite) then
        some (JsonWriter.documentWritten results).value else none).isSome =
          true) ↔
      ∀ r ∈ results, ∀ cve ∈ r.cves, JsonWriter.cveFinite cve = true := by
    cases all : results.all fun r => r.cves.all JsonWriter.cveFinite <;>
      simpa using all
  rw [finite]
  exact ⟨fun both r member => ⟨both.2 r member, both.1 r member⟩,
    fun each => ⟨fun r member => (each r member).2,
      fun r member => (each r member).1⟩⟩

omit [Floating F] in
theorem exportedStrings_subset (r : ScanResult F) :
    ∀ s ∈ exportedStrings r, s ∈ resultStrings r := by
  intro s member
  simp only [exportedStrings, List.mem_append, List.mem_map] at member
  rcases member with field | ⟨cve, inCves, rfl⟩
  · simp only [List.mem_cons, List.not_mem_nil, or_false] at field
    simp only [resultStrings, List.mem_append, List.mem_cons]
    tauto
  · exact List.mem_append.mpr (.inr (List.mem_flatMap.mpr
      ⟨cve, inCves, List.mem_cons_self⟩))

/-- Both exports produce their document exactly where every string of every
result is UTF-8 and every number to print is finite. -/
theorem json_exports_iff {dump : JsonValue F → Except Bytes Bytes}
    (strict : StrictDump dump) (numbers : PrintsJsonNumbers F)
    (results : List (ScanResult F)) :
    ((∃ text, toJson dump results = .ok text ∧ IsJsonText text) ∧
      ∀ opens path, opens path = true →
        ∃ text, JsonWriter.write opens path results = .ok text ∧
          IsJsonText text) ↔
    ∀ r ∈ results, (∀ s ∈ resultStrings r, Utf8.Valid s) ∧
      ∀ cve ∈ r.cves, JsonWriter.cveFinite cve = true := by
  have written : (∀ opens path, opens path = true →
        ∃ text, JsonWriter.write opens path results = .ok text ∧
          IsJsonText text) ↔ IsJsonText (JsonWriter.text results) := by
    constructor
    · intro writes
      obtain ⟨text, wrote, isText⟩ := writes (fun _ => true) [] rfl
      cases wrote
      exact isText
    · intro isText opens path opened
      exact ⟨_, by simp [JsonWriter.write, writeFile, opened], isText⟩
  rw [written, toJson_iff strict, JsonWriter.isJsonText_text_iff numbers]
  constructor
  · exact And.right
  · intro each
    refine ⟨fun r member s exported => ?_, each⟩
    exact (each r member).1 s (exportedStrings_subset r s exported)

end

/-! A `dump` in exact arithmetic that does what the hypotheses say. -/

namespace ReferenceDump

def hexDigit (n : Nat) : UInt8 :=
  if n < 10 then UInt8.ofNat (0x30 + n) else UInt8.ofNat (0x61 + n - 10)

def escapeChar (c : UInt8) : Bytes :=
  if c = 0x22 then bytes "\\\""
  else if c = 0x5c then bytes "\\\\"
  else if c = 0x08 then bytes "\\b"
  else if c = 0x0c then bytes "\\f"
  else if c = 0x0a then bytes "\\n"
  else if c = 0x0d then bytes "\\r"
  else if c = 0x09 then bytes "\\t"
  else if c < 0x20 then
    bytes "\\u00" ++ [hexDigit (c.toNat / 16), hexDigit (c.toNat % 16)]
  else [c]

def string (s : Bytes) : Written :=
  Written.string (s.flatMap escapeChar) s

def blanks (indent : Nat) : Bytes :=
  List.replicate indent 0x20

def layoutArray (indent : Nat) (items : List Written) : Written :=
  if items.isEmpty then ⟨bytes "[]", .array [], true, []⟩
  else Written.array (blanks (indent + 2)) (blanks indent) items

def layoutObject (indent : Nat) (members : List (Bytes × Bytes × Written)) :
    Written :=
  if members.isEmpty then ⟨bytes "\x7b\x7d", .object [], true, []⟩
  else Written.object (blanks (indent + 2)) (blanks indent) members

def insertByKey (member : Bytes × Bytes × Written) :
    List (Bytes × Bytes × Written) → List (Bytes × Bytes × Written)
  | [] => [member]
  | first :: rest =>
      if member.2.1 < first.2.1 then member :: first :: rest
      else first :: insertByKey member rest

mutual

def layout (indent : Nat) : JsonValue ℚ → Written
  | .unsigned n => Written.number (decimal n) true
  | .float x => Written.number (Floating.put x) true
  | .boolean b => Written.boolean b
  | .string text => string text
  | .array items => layoutArray indent (layoutItems (indent + 2) items)
  | .object members => layoutObject indent (layoutMembers (indent + 2) members)

def layoutItems (indent : Nat) : List (JsonValue ℚ) → List Written
  | [] => []
  | item :: rest => layout indent item :: layoutItems indent rest

def layoutMembers (indent : Nat) :
    List (Bytes × JsonValue ℚ) → List (Bytes × Bytes × Written)
  | [] => []
  | (key, value) :: rest =>
      insertByKey (key.flatMap escapeChar, key, layout indent value)
        (layoutMembers indent rest)

end

def dump (value : JsonValue ℚ) : Except Bytes Bytes :=
  if ∀ s ∈ value.strings, Utf8.Valid s then .ok (layout 0 value).text
  else .error (bytes "[json.exception.type_error.316] invalid UTF-8 byte")

theorem escapeChar_plain {c : UInt8} (plain : Json.IsPlain c) :
    escapeChar c = [c] := by
  obtain ⟨notQuote, notEscape, notControl⟩ := plain
  have differ : ∀ b : UInt8, b < 0x20 → c ≠ b := by
    rintro b small rfl
    exact notControl small
  simp [escapeChar, notQuote, notEscape, notControl, differ 0x08 (by decide),
    differ 0x0c (by decide), differ 0x0a (by decide), differ 0x0d (by decide),
    differ 0x09 (by decide)]

theorem stringText_escapeChar (c : UInt8) :
    Json.StringText (escapeChar c) [c] := by
  by_cases plain : Json.IsPlain c
  · rw [escapeChar_plain plain]
    exact Json.stringText_plain plain
  · have each : ∀ n : Nat, n < 0x80 → ¬ Json.IsPlain (UInt8.ofNat n) →
        (∃ b ∈ [0x22, 0x5c, 0x62, 0x66, 0x6e, 0x72, 0x74],
          escapeChar (UInt8.ofNat n) = [0x5c, b] ∧
            Json.shortEscape? b = some (UInt8.ofNat n)) ∨
        (n < 0x20 ∧ escapeChar (UInt8.ofNat n) =
            [0x5c, 0x75, 0x30, 0x30, hexDigit (n / 16), hexDigit (n % 16)] ∧
          Json.hexDigit? (hexDigit (n / 16)) = some (n / 16) ∧
          Json.hexDigit? (hexDigit (n % 16)) = some (n % 16) ∧
          Json.codePointBytes (((0 * 16 + 0) * 16 + n / 16) * 16 + n % 16) =
            [UInt8.ofNat n]) := by
      decide +kernel
    have self : UInt8.ofNat c.toNat = c := UInt8.ofNat_toNat
    have cases := each c.toNat (Json.toNat_lt_of_not_isPlain plain)
    rw [self] at cases
    rcases cases plain with ⟨b, _, escaped, short⟩ |
      ⟨small, escaped, high, low, encoded⟩
    · rw [escaped]
      exact Json.stringText_short short
    · rw [escaped, ← encoded]
      exact Json.stringText_hex rfl rfl high low (by omega)

theorem stringText_escape (s : Bytes) :
    Json.StringText (s.flatMap escapeChar) s := by
  have whole := Json.stringText_flatMap stringText_escapeChar s
  rwa [List.flatMap_singleton'] at whole

theorem valid_escape_iff {s : Bytes} :
    Utf8.Valid (s.flatMap escapeChar) ↔ Utf8.Valid s :=
  Json.valid_escape_iff (by decide +kernel) fun _ => escapeChar_plain

structure Total (written : Written) : Prop where
  reads : written.Reads
  ok : written.ok = true
  encodes : written.Encodes
  valid : ∀ s ∈ written.strings, Utf8.Valid s

theorem total_number {lexeme : Bytes} (isNumber : Json.IsNumber lexeme) :
    Total (Written.number lexeme true) where
  reads := Written.reads_number isNumber
  ok := rfl
  encodes := Written.encodes_ascii (Json.isAscii_of_isNumber isNumber) rfl
  valid := nofun

theorem total_boolean (value : Bool) : Total (Written.boolean value) where
  reads := Written.reads_boolean value
  ok := rfl
  encodes := Written.encodes_ascii (by cases value <;> decide) rfl
  valid := nofun

theorem total_string {s : Bytes} (valid : Utf8.Valid s) :
    Total (string s) where
  reads := Written.reads_string (stringText_escape s)
  ok := rfl
  encodes := Written.encodes_string _ _
  valid _ member := List.mem_singleton.mp member ▸ valid_escape_iff.mpr valid

theorem isBlank_of_mem_blanks {indent : Nat} {b : UInt8}
    (member : b ∈ blanks indent) : Json.IsBlank b := by
  rw [List.eq_of_mem_replicate member]
  decide

theorem isAscii_of_mem_blanks {indent : Nat} {b : UInt8}
    (member : b ∈ blanks indent) : Utf8.IsAscii b := by
  rw [List.eq_of_mem_replicate member]
  decide

theorem total_layoutArray (indent : Nat) {items : List Written}
    (total : ∀ item ∈ items, Total item) :
    Total (layoutArray indent items) := by
  unfold layoutArray
  split
  · refine ⟨?_, rfl, Written.encodes_ascii (by decide) rfl, nofun⟩
    intro start stack b rest begins _
    cases begins <;> rfl
  · refine ⟨?_, ?_, ?_, ?_⟩
    · exact Written.reads_array (fun _ => isBlank_of_mem_blanks)
        (fun _ => isBlank_of_mem_blanks) fun item member =>
          (total item member).reads
    · exact List.all_eq_true.mpr fun item member => (total item member).ok
    · exact Written.encodes_array (fun _ => isAscii_of_mem_blanks)
        (fun _ => isAscii_of_mem_blanks) fun item member =>
          (total item member).encodes
    · intro s member
      obtain ⟨item, inItems, inStrings⟩ := List.mem_flatMap.mp member
      exact (total item inItems).valid s inStrings

structure TotalMember (member : Bytes × Bytes × Written) : Prop where
  key : Json.StringText member.1 member.2.1
  valid : Utf8.Valid member.1
  total : Total member.2.2

theorem total_layoutObject (indent : Nat)
    {members : List (Bytes × Bytes × Written)}
    (total : ∀ member ∈ members, TotalMember member) :
    Total (layoutObject indent members) := by
  unfold layoutObject
  split
  · refine ⟨?_, rfl, Written.encodes_ascii (by decide) rfl, nofun⟩
    intro start stack b rest begins _
    cases begins <;> rfl
  · refine ⟨?_, ?_, ?_, ?_⟩
    · exact Written.reads_object (fun _ => isBlank_of_mem_blanks)
        (fun _ => isBlank_of_mem_blanks)
        (fun entry member => (total entry member).key)
        (fun entry member => (total entry member).total.reads)
    · exact List.all_eq_true.mpr fun entry member =>
        (total entry member).total.ok
    · exact Written.encodes_object (fun _ => isAscii_of_mem_blanks)
        (fun _ => isAscii_of_mem_blanks)
        (fun entry member => (total entry member).valid)
        (fun entry member => (total entry member).total.encodes)
    · intro s member
      obtain ⟨entry, inMembers, inStrings⟩ := List.mem_flatMap.mp member
      exact (total entry inMembers).total.valid s inStrings

theorem mem_insertByKey {member other : Bytes × Bytes × Written}
    {members : List (Bytes × Bytes × Written)}
    (inserted : other ∈ insertByKey member members) :
    other = member ∨ other ∈ members := by
  induction members with
  | nil => exact .inl (List.mem_singleton.mp inserted)
  | cons first rest induction =>
      unfold insertByKey at inserted
      split at inserted
      · exact List.mem_cons.mp inserted
      · rcases List.mem_cons.mp inserted with rfl | later
        · exact .inr List.mem_cons_self
        · rcases induction later with same | inRest
          · exact .inl same
          · exact .inr (List.mem_cons_of_mem first inRest)

theorem numberRun_whole (digits : Nat) (x : ℚ) :
    ∃ state, Json.numberRun .start (Exact.whole digits x) = some state ∧
      (state = .zero ∨ state = .whole) := by
  unfold Exact.whole
  generalize ⌊|x| * 10 ^ digits + 1 / 2⌋.toNat / 10 ^ digits = n
  rcases Nat.eq_zero_or_pos n with rfl | positive
  · split
    · exact ⟨.zero, by decide, .inl rfl⟩
    · exact ⟨.zero, by decide, .inl rfl⟩
  · obtain ⟨start, minus⟩ := Json.numberRun_decimal positive
    split
    · refine ⟨.whole, ?_, .inr rfl⟩
      rw [Json.numberRun_append]
      exact minus
    · exact ⟨.whole, start, .inr rfl⟩

theorem numberRun_digits {text : Bytes} (digits : ∀ b ∈ text, IsDigit b) :
    Json.numberRun .fraction text = some .fraction := by
  induction text with
  | nil => rfl
  | cons b text induction =>
      have digit := digits b List.mem_cons_self
      simp only [Json.numberRun, Json.numberStep, Json.digitsThen, digit,
        if_true]
      exact induction fun other member =>
        digits other (List.mem_cons_of_mem b member)

theorem isNumber_shortest (x : ℚ) : Json.IsNumber (Exact.shortest x) := by
  obtain ⟨state, reads, kind⟩ := numberRun_whole 5 x
  unfold Exact.shortest
  split
  · rw [Json.IsNumber, reads]
    rcases kind with rfl | rfl <;> rfl
  · next first rest kept =>
      have digits : ∀ b ∈ first :: rest, IsDigit b := by
        intro b member
        rw [← kept] at member
        exact Exact.isDigit_of_mem_fraction
          ((List.rdropWhile_prefix _ _).subset member)
      have digit := digits first List.mem_cons_self
      have others := numberRun_digits fun b member =>
        digits b (List.mem_cons_of_mem first member)
      have point : Json.numberStep state 0x2e = some .point := by
        rcases kind with rfl | rfl <;> rfl
      have behind : Json.numberStep .point first = some .fraction :=
        if_pos digit
      rw [Json.IsNumber, Json.numberRun_append, reads]
      simp only [Option.bind_some, Json.numberRun, point, behind, others]
      rfl

mutual

theorem total_layout (indent : Nat) : (value : JsonValue ℚ) →
    (∀ s ∈ value.strings, Utf8.Valid s) → Total (layout indent value)
  | .unsigned n, _ => by
      rw [layout]
      exact total_number (Json.isNumber_decimal n)
  | .float x, _ => by
      rw [layout]
      exact total_number (isNumber_shortest x)
  | .boolean b, _ => by
      rw [layout]
      exact total_boolean b
  | .string text, valid => by
      rw [layout]
      exact total_string (valid text (by simp [JsonValue.strings]))
  | .array items, valid => by
      rw [layout]
      rw [JsonValue.strings] at valid
      exact total_layoutArray indent (total_layoutItems (indent + 2) items valid)
  | .object members, valid => by
      rw [layout]
      rw [JsonValue.strings] at valid
      exact total_layoutObject indent
        (total_layoutMembers (indent + 2) members valid)

theorem total_layoutItems (indent : Nat) : (items : List (JsonValue ℚ)) →
    (∀ s ∈ JsonValue.stringsOfItems items, Utf8.Valid s) →
      ∀ item ∈ layoutItems indent items, Total item
  | [], _ => by
      rw [layoutItems]
      exact nofun
  | value :: rest, valid => by
      rw [JsonValue.stringsOfItems, List.forall_mem_append] at valid
      rw [layoutItems, List.forall_mem_cons]
      exact ⟨total_layout indent value valid.1,
        total_layoutItems indent rest valid.2⟩

theorem total_layoutMembers (indent : Nat) :
    (members : List (Bytes × JsonValue ℚ)) →
    (∀ s ∈ JsonValue.stringsOfMembers members, Utf8.Valid s) →
      ∀ member ∈ layoutMembers indent members, TotalMember member
  | [], _ => by
      rw [layoutMembers]
      exact nofun
  | (key, value) :: rest, valid => by
      rw [JsonValue.stringsOfMembers, List.forall_mem_cons,
        List.forall_mem_append] at valid
      rw [layoutMembers]
      intro entry member
      rcases mem_insertByKey member with rfl | inRest
      · exact ⟨stringText_escape key, valid_escape_iff.mpr valid.1,
          total_layout indent value valid.2.1⟩
      · exact total_layoutMembers indent rest valid.2.2 entry inRest

end

theorem strictDump : StrictDump dump where
  throws value := by
    rintro ⟨s, inStrings, invalid⟩
    exact ⟨_, if_neg fun valid => invalid (valid s inStrings)⟩
  writes value valid := by
    have total := total_layout 0 value valid
    refine ⟨_, if_pos valid, ?_, ?_⟩
    · rw [Written.parse_text total.reads, total.ok]
      rfl
    · have whole := (total.encodes []).mpr ⟨total.valid, rfl⟩
      rwa [List.append_nil] at whole

theorem printsJsonNumbers : PrintsJsonNumbers ℚ where
  zero := rfl
  finite x _ := isNumber_shortest x
  notFinite _ notFinite := nomatch notFinite

end ReferenceDump

/-- A web server whose answer is plain text, with one finding. -/
def textResult : ScanResult ℚ where
  targetHost := bytes "10.0.0.5"
  port := 80
  state := .opened
  service :=
    { name := bytes "http", version := bytes "nginx/1.20"
      bannerRaw := bytes "HTTP/1.0 200 OK\r\nServer: nginx/1.20\r\n" }
  cves := [{
    cveId := bytes "CVE-2021-23017", description := [], cvssScore := 7.5
    severity := .high, epss := 0.5, percentile := 0.75
    nucleiVerified := false }]

theorem json_exports_iff_textResult :
    ((∃ text, toJson ReferenceDump.dump [textResult] = .ok text ∧
        IsJsonText text) ∧
      ∀ opens path, opens path = true →
        ∃ text, JsonWriter.write opens path [textResult] = .ok text ∧
          IsJsonText text) := by
  refine (json_exports_iff ReferenceDump.strictDump
    ReferenceDump.printsJsonNumbers [textResult]).mpr ?_
  intro r member
  rw [List.mem_singleton.mp member]
  refine ⟨by decide +kernel, fun cve _ => rfl⟩

/-- The greeting of a MySQL server, whose capability flags are no UTF-8. -/
def mysqlBanner : Bytes :=
  [0x23, 0x00, 0x00, 0x00, 0x0a] ++ bytes "5.7.30" ++
    [0x00, 0x08, 0x00, 0x00, 0x00] ++ bytes "abcdefgh" ++
    [0x00, 0xff, 0xf7, 0x08, 0x02, 0x00]

def mysqlResult : ScanResult ℚ where
  targetHost := bytes "10.0.0.5"
  port := 3306
  state := .opened
  service :=
    { name := bytes "mysql", version := bytes "5.7.30"
      bannerRaw := mysqlBanner }

/-- `to_json` throws on such a banner, and `JsonWriter` writes a file that is no
UTF-8. -/
theorem mysqlBanner_not_exported :
    (∀ dump : JsonValue ℚ → Except Bytes Bytes, StrictDump dump →
        ∃ error, toJson dump [mysqlResult] = .error error) ∧
      ∃ text, JsonWriter.write (fun _ => true) (bytes "scan.json")
          [mysqlResult] = .ok text ∧ ¬ IsJsonText text := by
  have banner : ¬ Utf8.Valid mysqlBanner := by decide
  constructor
  · intro dump strict
    refine strict.throws _ ⟨mysqlBanner, ?_, banner⟩
    simp [JsonValue.strings, JsonValue.stringsOfItems,
      JsonValue.stringsOfMembers, resultItem, mysqlResult]
  · refine ⟨_, rfl, fun isText => banner ?_⟩
    have valid := (JsonWriter.valid_text_iff ReferenceDump.printsJsonNumbers
      [mysqlResult]).mp isText.2
    exact valid mysqlResult List.mem_cons_self mysqlBanner
      (by simp [resultStrings, mysqlResult])

end ServicePortScanner.Report
