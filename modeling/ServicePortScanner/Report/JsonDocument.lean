import ServicePortScanner.Core.ExactFloating
import ServicePortScanner.Report.Json

namespace ServicePortScanner.Report

open ServicePortScanner.Data
open ServicePortScanner.Core
open ServicePortScanner.Data.Json (Written)

/-! The document that `JsonWriter` writes, as a laid out JSON value. -/

/-- What a stream prints for a `double`: a JSON number where the value is
finite, and a word where it is not. -/
structure PrintsJsonNumbers (F : Type) [Floating F] : Prop where
  zero : Floating.isFinite (Floating.literal 0 : F) = true
  finite : ∀ x : F, Floating.isFinite x = true → Json.IsNumber (Floating.put x)
  notFinite : ∀ x : F, Floating.isFinite x = false →
    Written.NotNumber (Floating.put x)

/-- The byte a reader gets back for a byte of a string. -/
def writtenByte (c : UInt8) : UInt8 :=
  if c < 0x20 ∧ c ≠ 0x08 ∧ c ≠ 0x0c ∧ c ≠ 0x0a ∧ c ≠ 0x0d ∧ c ≠ 0x09 then 0x20
  else c

theorem jsonEscapeChar_plain {c : UInt8} (plain : Json.IsPlain c) :
    jsonEscapeChar c = [c] := by
  obtain ⟨notQuote, notEscape, notControl⟩ := plain
  have differ : ∀ b : UInt8, b < 0x20 → c ≠ b := by
    rintro b small rfl
    exact notControl small
  simp [jsonEscapeChar, notQuote, notEscape, notControl,
    differ 0x08 (by decide), differ 0x0c (by decide), differ 0x0a (by decide),
    differ 0x0d (by decide), differ 0x09 (by decide)]

theorem stringText_jsonEscapeChar (c : UInt8) :
    Json.StringText (jsonEscapeChar c) [writtenByte c] := by
  by_cases plain : Json.IsPlain c
  · have same : writtenByte c = c := by simp [writtenByte, plain.2.2]
    rw [same, jsonEscapeChar_plain plain]
    exact Json.stringText_plain plain
  · -- a control byte without an escape of its own is written as a blank
    have each : ∀ n : Nat, n < 0x80 → ¬ Json.IsPlain (UInt8.ofNat n) →
        jsonEscapeChar (UInt8.ofNat n) = [writtenByte (UInt8.ofNat n)] ∧
            writtenByte (UInt8.ofNat n) = 0x20 ∨
          ∃ b ∈ [0x22, 0x5c, 0x62, 0x66, 0x6e, 0x72, 0x74],
            jsonEscapeChar (UInt8.ofNat n) = [0x5c, b] ∧
              Json.shortEscape? b = some (writtenByte (UInt8.ofNat n)) := by
      decide +kernel
    have self : UInt8.ofNat c.toNat = c := UInt8.ofNat_toNat
    have cases := each c.toNat (Json.toNat_lt_of_not_isPlain plain)
    rw [self] at cases
    rcases cases plain with ⟨escaped, space⟩ | ⟨b, _, escaped, short⟩
    · rw [escaped, space]
      exact Json.stringText_plain (by decide)
    · rw [escaped]
      exact Json.stringText_short short

theorem stringText_jsonEscape (s : Bytes) :
    Json.StringText (jsonEscape s) (s.map writtenByte) := by
  rw [List.map_eq_flatMap]
  exact Json.stringText_flatMap stringText_jsonEscapeChar s

theorem valid_jsonEscape_iff {s : Bytes} :
    Utf8.Valid (jsonEscape s) ↔ Utf8.Valid s :=
  Json.valid_escape_iff (by decide +kernel) fun _ => jsonEscapeChar_plain

namespace JsonWriter

def escaped (s : Bytes) : Written :=
  Written.string (jsonEscape s) (s.map writtenByte)

def plain (s : Bytes) : Written :=
  Written.string s s

def natural (n : Nat) : Written :=
  Written.number (decimal n) true

def integer (z : Int) : Written :=
  Written.number (decimalInt z) true

def member (key : Bytes) (written : Written) : Bytes × Bytes × Written :=
  (key, key, written)

section

variable {F : Type} [Floating F]

def floating (x : F) : Written :=
  Written.number (Floating.put x) (Floating.isFinite x)

def cveWritten (cve : CveInfo F) : Written :=
  Written.object (bytes "          ") (bytes "        ") [
    member (bytes "cve_id") (escaped cve.cveId),
    member (bytes "description") (escaped cve.description),
    member (bytes "cvss_score") (floating cve.cvssScore),
    member (bytes "severity") (plain (severityStr cve.severity)),
    member (bytes "epss") (floating cve.epss),
    member (bytes "percentile") (floating cve.percentile),
    member (bytes "risk_score") (floating cve.risk),
    member (bytes "nuclei_verified") (Written.boolean cve.nucleiVerified)]

omit [Floating F] in
def serviceWritten (service : ServiceInfo) : Written :=
  Written.object (bytes "        ") (bytes "      ") [
    member (bytes "name") (escaped service.name),
    member (bytes "product") (escaped service.product),
    member (bytes "version") (escaped service.version),
    member (bytes "extra_info") (escaped service.extraInfo),
    member (bytes "banner_raw") (escaped service.bannerRaw)]

def resultWritten (r : ScanResult F) : Written :=
  Written.object (bytes "      ") (bytes "    ") [
    member (bytes "target_host") (escaped r.targetHost),
    member (bytes "resolved_ip") (escaped r.resolvedIp),
    member (bytes "port") (natural r.port.toNat),
    member (bytes "protocol") (escaped r.protocol),
    member (bytes "state") (plain (stateStr r.state)),
    member (bytes "service") (serviceWritten r.service),
    member (bytes "cves") (Written.array (bytes "        ") (bytes "      ")
      (r.cves.map cveWritten)),
    member (bytes "cve_count") (natural r.cves.length),
    member (bytes "max_cvss") (floating r.maxCvss),
    member (bytes "max_epss") (floating r.maxEpss),
    member (bytes "max_risk") (floating r.maxRisk),
    member (bytes "verified_cve_count") (integer r.verifiedCveCount),
    member (bytes "ja4s") (escaped r.ja4s),
    member (bytes "ja4x") (escaped r.ja4x),
    member (bytes "cdn") (escaped r.cdn),
    member (bytes "os_guess") (escaped r.osGuess),
    member (bytes "rtt_ms") (integer r.rtt)]

omit [Floating F] in
def summaryWritten (results : List (ScanResult F)) : Written :=
  let totals := Totals.of results
  Written.object (bytes "    ") (bytes "  ") [
    member (bytes "total_ports") (natural results.length),
    member (bytes "open") (natural totals.opened),
    member (bytes "closed") (natural totals.closed),
    member (bytes "filtered") (natural totals.filtered),
    member (bytes "total_cves") (natural totals.cves)]

def documentWritten (results : List (ScanResult F)) : Written :=
  Written.object (bytes "  ") (bytes "") [
    member (bytes "scan_summary") (summaryWritten results),
    member (bytes "results") (Written.array (bytes "    ") (bytes "  ")
      (results.map resultWritten))]

set_option maxRecDepth 4000 in
theorem cveText_eq (cve : CveInfo F) :
    cveText cve = bytes "\n" ++ bytes "        " ++ (cveWritten cve).text := by
  simp only [cveText, puts_cons, puts_nil, cveWritten, Written.object, member,
    Json.lines, Json.commaSeparated, Written.keyText, List.map_cons,
    List.map_nil, escaped, plain, floating, Written.string, Written.number,
    Written.boolean, List.append_assoc]
  rfl

theorem commaSeparated_cveText (cves : List (CveInfo F)) :
    Json.commaSeparated (cves.map cveText) =
      Json.lines (bytes "        ") ((cves.map cveWritten).map Written.text) := by
  simp only [Json.lines, List.map_map]
  congr 2
  funext cve
  exact cveText_eq cve

set_option maxRecDepth 4000 in
theorem resultText_eq (r : ScanResult F) :
    resultText r = bytes "\n" ++ bytes "    " ++ (resultWritten r).text := by
  simp only [resultText, puts_cons, puts_nil, commaSeparated_cveText,
    resultWritten, serviceWritten, Written.object, Written.array, member,
    Json.lines, Json.commaSeparated, Written.keyText, List.map_cons,
    List.map_nil, escaped, plain, floating, natural, integer, Written.string,
    Written.number, List.append_assoc]
  rfl

theorem commaSeparated_resultText (results : List (ScanResult F)) :
    Json.commaSeparated (results.map resultText) =
      Json.lines (bytes "    ")
        ((results.map resultWritten).map Written.text) := by
  simp only [Json.lines, List.map_map]
  congr 2
  funext r
  exact resultText_eq r

set_option maxRecDepth 4000 in
theorem text_eq (results : List (ScanResult F)) :
    text results = (documentWritten results).text ++ bytes "\n" := by
  simp only [text, puts_cons, puts_nil, commaSeparated_resultText,
    documentWritten, summaryWritten, Written.object, Written.array, member,
    Json.lines, Json.commaSeparated, Written.keyText, List.map_cons,
    List.map_nil, natural, Written.number, List.append_assoc]
  rfl

/-! Each part is read as what it is written for. -/

theorem reads_escaped (s : Bytes) : (escaped s).Reads :=
  Written.reads_string (stringText_jsonEscape s)

theorem reads_stateStr (state : PortState) : (plain (stateStr state)).Reads := by
  refine Written.reads_string (Json.stringText_self ?_)
  cases state <;> decide

theorem reads_severityStr (severity : Severity) :
    (plain (severityStr severity)).Reads := by
  refine Written.reads_string (Json.stringText_self ?_)
  cases severity <;> decide

theorem reads_natural (n : Nat) : (natural n).Reads :=
  Written.reads_number (Json.isNumber_decimal n)

theorem reads_integer (z : Int) : (integer z).Reads :=
  Written.reads_number (Json.isNumber_decimalInt z)

theorem reads_floating (numbers : PrintsJsonNumbers F) (x : F) :
    (floating x).Reads := by
  cases finite : Floating.isFinite x with
  | true =>
      rw [floating, finite]
      exact Written.reads_number (numbers.finite x finite)
  | false =>
      rw [floating, finite]
      exact Written.reads_notNumber (numbers.notFinite x finite)

/-- Keys of the template hold nothing that a string would have to escape. -/
def PlainKey (key : Bytes) : Prop :=
  ∀ b ∈ key, Json.IsPlain b ∧ Utf8.IsAscii b

instance (key : Bytes) : Decidable (PlainKey key) :=
  inferInstanceAs (Decidable (∀ b ∈ key, _))

theorem reads_members {inner outer : Bytes}
    (blanks : ∀ b ∈ inner, Json.IsBlank b)
    (outerBlanks : ∀ b ∈ outer, Json.IsBlank b)
    {members : List (Bytes × Bytes × Written)}
    (same : ∀ entry ∈ members, entry.1 = entry.2.1)
    (keys : ∀ key ∈ members.map Prod.fst, PlainKey key)
    (reads : ∀ entry ∈ members, entry.2.2.Reads) :
    (Written.object inner outer members).Reads := by
  refine Written.reads_object blanks outerBlanks ?_ reads
  intro entry inMembers
  rw [← same entry inMembers]
  exact Json.stringText_self fun b inKey =>
    (keys entry.1 (List.mem_map_of_mem inMembers) b inKey).1

theorem reads_cveWritten (numbers : PrintsJsonNumbers F) (cve : CveInfo F) :
    (cveWritten cve).Reads := by
  refine reads_members (by decide) (by decide) ?_ ?_ ?_
  · simp [member]
  · simp only [member, List.map_cons, List.map_nil]
    decide
  · simp [member, reads_escaped, reads_severityStr, reads_floating numbers,
      Written.reads_boolean]

theorem reads_serviceWritten (service : ServiceInfo) :
    (serviceWritten service).Reads := by
  refine reads_members (by decide) (by decide) ?_ ?_ ?_
  · simp [member]
  · simp only [member, List.map_cons, List.map_nil]
    decide
  · simp [member, reads_escaped]

theorem reads_resultWritten (numbers : PrintsJsonNumbers F)
    (r : ScanResult F) : (resultWritten r).Reads := by
  have cves : (Written.array (bytes "        ") (bytes "      ")
      (r.cves.map cveWritten)).Reads := by
    refine Written.reads_array (by decide) (by decide) ?_
    intro item inItems
    obtain ⟨cve, _, rfl⟩ := List.mem_map.mp inItems
    exact reads_cveWritten numbers cve
  refine reads_members (by decide) (by decide) ?_ ?_ ?_
  · simp [member]
  · simp only [member, List.map_cons, List.map_nil]
    decide
  · simp [member, reads_escaped, reads_natural, reads_integer, reads_stateStr,
      reads_serviceWritten, reads_floating numbers, cves]

omit [Floating F] in
theorem reads_summaryWritten (results : List (ScanResult F)) :
    (summaryWritten results).Reads := by
  refine reads_members (by decide) (by decide) ?_ ?_ ?_
  · simp [member]
  · simp only [member, List.map_cons, List.map_nil]
    decide
  · simp [member, reads_natural]

theorem reads_documentWritten (numbers : PrintsJsonNumbers F)
    (results : List (ScanResult F)) : (documentWritten results).Reads := by
  have items : (Written.array (bytes "    ") (bytes "  ")
      (results.map resultWritten)).Reads := by
    refine Written.reads_array (by decide) (by decide) ?_
    intro item inItems
    obtain ⟨r, _, rfl⟩ := List.mem_map.mp inItems
    exact reads_resultWritten numbers r
  refine reads_members (by decide) (by decide) ?_ ?_ ?_
  · simp [member]
  · simp only [member, List.map_cons, List.map_nil]
    decide
  · simp [member, reads_summaryWritten, items]

theorem parse_text (numbers : PrintsJsonNumbers F)
    (results : List (ScanResult F)) :
    Json.parse (text results) =
      if (documentWritten results).ok then some (documentWritten results).value
      else none := by
  rw [text_eq, Written.parse_text_newline (reads_documentWritten numbers results)]

/-! Where it is read at all: every printed number is finite. -/

def cveFinite (cve : CveInfo F) : Bool :=
  Floating.isFinite cve.cvssScore && Floating.isFinite cve.epss &&
    Floating.isFinite cve.percentile && Floating.isFinite cve.risk

theorem largest_finite (numbers : PrintsJsonNumbers F) {values : List F}
    (finite : ∀ value ∈ values, Floating.isFinite value = true) :
    Floating.isFinite (largest values) = true := by
  rcases largest_mem values with zero | member
  · rw [zero]
    exact numbers.zero
  · exact finite _ member

theorem cveWritten_ok (cve : CveInfo F) :
    (cveWritten cve).ok = cveFinite cve := by
  simp [cveWritten, Written.object, member, escaped, plain, floating,
    Written.string, Written.number, Written.boolean, cveFinite, Bool.and_assoc]

theorem resultWritten_ok (numbers : PrintsJsonNumbers F) (r : ScanResult F) :
    (resultWritten r).ok = r.cves.all cveFinite := by
  have service : (serviceWritten r.service).ok = true := rfl
  have cves : (r.cves.map cveWritten).all Written.ok = r.cves.all cveFinite := by
    rw [List.all_map]
    congr 1
    funext cve
    exact cveWritten_ok cve
  cases finite : r.cves.all cveFinite with
  | false =>
      simp [resultWritten, Written.object, Written.array, member, cves, finite]
  | true =>
      have each : ∀ cve ∈ r.cves, cveFinite cve = true :=
        List.all_eq_true.mp finite
      have largestOf : ∀ field : CveInfo F → F,
          (∀ cve, cveFinite cve = true → Floating.isFinite (field cve) = true) →
            Floating.isFinite (largest (r.cves.map field)) = true := by
        intro field holds
        refine largest_finite numbers fun value inValues => ?_
        obtain ⟨cve, inCves, rfl⟩ := List.mem_map.mp inValues
        exact holds cve (each cve inCves)
      have cvss : Floating.isFinite r.maxCvss = true :=
        largestOf _ fun cve all => by
          simp only [cveFinite, Bool.and_eq_true] at all
          exact all.1.1.1
      have epss : Floating.isFinite r.maxEpss = true :=
        largestOf _ fun cve all => by
          simp only [cveFinite, Bool.and_eq_true] at all
          exact all.1.1.2
      have risk : Floating.isFinite r.maxRisk = true :=
        largestOf _ fun cve all => by
          simp only [cveFinite, Bool.and_eq_true] at all
          exact all.2
      simp [resultWritten, Written.object, Written.array, member, cves, finite,
        escaped, plain, natural, integer, floating, Written.string,
        Written.number, service, cvss, epss, risk]

theorem documentWritten_ok (numbers : PrintsJsonNumbers F)
    (results : List (ScanResult F)) :
    (documentWritten results).ok =
      results.all fun r => r.cves.all cveFinite := by
  have items : (results.map resultWritten).all Written.ok =
      results.all fun r => r.cves.all cveFinite := by
    rw [List.all_map]
    congr 1
    funext r
    exact resultWritten_ok numbers r
  have summary : (summaryWritten results).ok = true := rfl
  simp [documentWritten, Written.object, Written.array, member, summary, items]

/-! Whether it is UTF-8. -/

theorem encodes_floating (numbers : PrintsJsonNumbers F) (x : F) :
    (floating x).Encodes := by
  refine Written.encodes_ascii ?_ rfl
  cases finite : Floating.isFinite x with
  | true => exact Json.isAscii_of_isNumber (numbers.finite x finite)
  | false => exact (numbers.notFinite x finite).ascii

theorem encodes_natural (n : Nat) : (natural n).Encodes :=
  Written.encodes_ascii (Json.isAscii_of_isNumber (Json.isNumber_decimal n)) rfl

theorem encodes_integer (z : Int) : (integer z).Encodes :=
  Written.encodes_ascii (Json.isAscii_of_isNumber (Json.isNumber_decimalInt z))
    rfl

theorem encodes_boolean (value : Bool) : (Written.boolean value).Encodes := by
  refine Written.encodes_ascii ?_ rfl
  cases value <;> decide

theorem encodes_members {inner outer : Bytes}
    (blanks : ∀ b ∈ inner, Utf8.IsAscii b)
    (outerBlanks : ∀ b ∈ outer, Utf8.IsAscii b)
    {members : List (Bytes × Bytes × Written)}
    (keys : ∀ key ∈ members.map Prod.fst, PlainKey key)
    (encodes : ∀ entry ∈ members, entry.2.2.Encodes) :
    (Written.object inner outer members).Encodes := by
  refine Written.encodes_object blanks outerBlanks ?_ encodes
  intro entry inMembers
  exact Utf8.valid_of_ascii fun b inKey =>
    (keys entry.1 (List.mem_map_of_mem inMembers) b inKey).2

theorem encodes_cveWritten (numbers : PrintsJsonNumbers F) (cve : CveInfo F) :
    (cveWritten cve).Encodes := by
  refine encodes_members (by decide) (by decide) ?_ ?_
  · simp only [member, List.map_cons, List.map_nil]
    decide
  · simp [member, escaped, plain, Written.encodes_string,
      encodes_floating numbers, encodes_boolean]

theorem encodes_serviceWritten (service : ServiceInfo) :
    (serviceWritten service).Encodes := by
  refine encodes_members (by decide) (by decide) ?_ ?_
  · simp only [member, List.map_cons, List.map_nil]
    decide
  · simp [member, escaped, Written.encodes_string]

theorem encodes_resultWritten (numbers : PrintsJsonNumbers F)
    (r : ScanResult F) : (resultWritten r).Encodes := by
  have cves : (Written.array (bytes "        ") (bytes "      ")
      (r.cves.map cveWritten)).Encodes := by
    refine Written.encodes_array (by decide) (by decide) ?_
    intro item inItems
    obtain ⟨cve, _, rfl⟩ := List.mem_map.mp inItems
    exact encodes_cveWritten numbers cve
  refine encodes_members (by decide) (by decide) ?_ ?_
  · simp only [member, List.map_cons, List.map_nil]
    decide
  · simp [member, escaped, plain, Written.encodes_string, encodes_natural,
      encodes_integer, encodes_serviceWritten, encodes_floating numbers, cves]

omit [Floating F] in
theorem encodes_summaryWritten (results : List (ScanResult F)) :
    (summaryWritten results).Encodes := by
  refine encodes_members (by decide) (by decide) ?_ ?_
  · simp only [member, List.map_cons, List.map_nil]
    decide
  · simp [member, encodes_natural]

theorem encodes_documentWritten (numbers : PrintsJsonNumbers F)
    (results : List (ScanResult F)) : (documentWritten results).Encodes := by
  have items : (Written.array (bytes "    ") (bytes "  ")
      (results.map resultWritten)).Encodes := by
    refine Written.encodes_array (by decide) (by decide) ?_
    intro item inItems
    obtain ⟨r, _, rfl⟩ := List.mem_map.mp inItems
    exact encodes_resultWritten numbers r
  refine encodes_members (by decide) (by decide) ?_ ?_
  · simp only [member, List.map_cons, List.map_nil]
    decide
  · simp [member, encodes_summaryWritten, items]

end

end JsonWriter

/-! The strings of a result. -/

section

variable {F : Type}

def cveStrings (cve : CveInfo F) : List Bytes :=
  [cve.cveId, cve.description]

def resultStrings (r : ScanResult F) : List Bytes :=
  [r.targetHost, r.resolvedIp, r.protocol, r.service.name, r.service.product,
    r.service.version, r.service.extraInfo, r.service.bannerRaw, r.ja4s, r.ja4x,
    r.cdn, r.osGuess] ++ r.cves.flatMap cveStrings

theorem valid_stateStr (state : PortState) : Utf8.Valid (stateStr state) := by
  cases state <;> decide

theorem valid_severityStr (severity : Severity) :
    Utf8.Valid (severityStr severity) := by
  cases severity <;> decide

variable [Floating F]

theorem JsonWriter.strings_cveWritten (cve : CveInfo F) :
    (∀ s ∈ (cveWritten cve).strings, Utf8.Valid s) ↔
      ∀ s ∈ cveStrings cve, Utf8.Valid s := by
  simp [cveWritten, Written.object, member, escaped, plain, floating,
    Written.string, Written.number, Written.boolean, cveStrings,
    valid_jsonEscape_iff, valid_severityStr]

theorem JsonWriter.strings_resultWritten (r : ScanResult F) :
    (∀ s ∈ (resultWritten r).strings, Utf8.Valid s) ↔
      ∀ s ∈ resultStrings r, Utf8.Valid s := by
  have cves : (∀ s ∈ (r.cves.map cveWritten).flatMap Written.strings,
        Utf8.Valid s) ↔ ∀ s ∈ r.cves.flatMap cveStrings, Utf8.Valid s := by
    simp only [List.forall_mem_flatMap, List.forall_mem_map,
      strings_cveWritten]
  simp only [resultWritten, serviceWritten, Written.object, Written.array,
    member, escaped, plain, floating, natural, integer, Written.string,
    Written.number, resultStrings, List.flatMap_cons, List.flatMap_nil,
    List.forall_mem_append, List.forall_mem_cons, valid_jsonEscape_iff,
    valid_stateStr, cves, true_and, and_assoc]
  tauto

/-- The file is UTF-8 exactly where every string of every result is. -/
theorem JsonWriter.valid_text_iff (numbers : PrintsJsonNumbers F)
    (results : List (ScanResult F)) :
    Utf8.Valid (text results) ↔
      ∀ r ∈ results, ∀ s ∈ resultStrings r, Utf8.Valid s := by
  have summary : (summaryWritten results).strings = [] := rfl
  have newline : Utf8.Valid (bytes "\n") := by decide
  rw [text_eq, encodes_documentWritten numbers results, and_iff_left newline]
  simp only [documentWritten, Written.object, Written.array, member,
    List.flatMap_cons, List.flatMap_nil, summary, List.nil_append,
    List.append_nil, List.forall_mem_flatMap, List.forall_mem_map,
    strings_resultWritten]

end

end ServicePortScanner.Report
