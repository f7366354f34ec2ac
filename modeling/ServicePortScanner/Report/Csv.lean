import ServicePortScanner.Core.ExactFloating
import ServicePortScanner.Data.Csv
import ServicePortScanner.Report.Text

namespace ServicePortScanner.Report

open ServicePortScanner.Data
open ServicePortScanner.Core

/-! `to_csv` and `CsvWriter::write`. -/

/-- `find_first_of(",\"\n\r") != npos` -/
def needsQuotes (s : Bytes) : Bool :=
  s.any fun c => c == 0x2c || c == 0x22 || c == 0x0a || c == 0x0d

def escapeCsvField (s : Bytes) : Bytes :=
  if needsQuotes s then
    [0x22] ++ s.flatMap (fun c => if c = 0x22 then [0x22, c] else [c]) ++ [0x22]
  else s

def csvEscape (s : Bytes) : Bytes :=
  if needsQuotes s then
    bytes "\"" ++ s.flatMap (fun c => if c = 0x22 then bytes "\"\"" else [c]) ++
      [0x22]
  else s

variable {F : Type} [Floating F]

def toCsvRow (r : ScanResult F) : Bytes :=
  let top := topCve r.cves
  puts [
    escapeCsvField r.targetHost, bytes ",",
    decimal r.port.toNat, bytes ",",
    stateStr r.state, bytes ",",
    escapeCsvField r.service.name, bytes ",",
    escapeCsvField r.service.version, bytes ",",
    escapeCsvField top.1, bytes ",",
    Floating.put top.2, bytes "\n"]

def toCsv (results : List (ScanResult F)) : Bytes :=
  bytes "host,port,state,service,version,top_cve,top_cvss\n" ++
    results.flatMap toCsvRow

namespace CsvWriter

def boolStr (value : Bool) : Bytes :=
  if value then bytes "true" else bytes "false"

def cveText (cve : CveInfo F) : Bytes :=
  puts [
    cve.cveId,
    bytes "|severity=", severityStr cve.severity,
    bytes "|cvss=", Floating.toString cve.cvssScore,
    bytes "|epss=", Floating.toString cve.epss,
    bytes "|percentile=", Floating.toString cve.percentile,
    bytes "|risk=", Floating.toString cve.risk,
    bytes "|nuclei_verified=", boolStr cve.nucleiVerified,
    bytes "|description=", cve.description]

def cveList : List (CveInfo F) → Bytes
  | [] => []
  | first :: others =>
      cveText first ++ others.flatMap fun cve => bytes "; " ++ cveText cve

def row (r : ScanResult F) : Bytes :=
  puts [
    csvEscape r.targetHost, bytes ",",
    csvEscape r.resolvedIp, bytes ",",
    decimal r.port.toNat, bytes ",",
    csvEscape r.protocol, bytes ",",
    stateStr r.state, bytes ",",
    csvEscape r.service.name, bytes ",",
    csvEscape r.service.product, bytes ",",
    csvEscape r.service.version, bytes ",",
    csvEscape r.service.extraInfo, bytes ",",
    csvEscape r.service.bannerRaw, bytes ",",
    decimal r.cves.length, bytes ",",
    Floating.putFixed2 r.maxCvss, bytes ",",
    Floating.putFixed2 r.maxEpss, bytes ",",
    Floating.putFixed2 r.maxRisk, bytes ",",
    decimalInt r.verifiedCveCount, bytes ",",
    csvEscape r.ja4s, bytes ",",
    csvEscape r.ja4x, bytes ",",
    csvEscape r.cdn, bytes ",",
    csvEscape r.osGuess, bytes ",",
    decimalInt r.rtt, bytes ",",
    csvEscape (cveList r.cves), bytes "\n"]

def text (results : List (ScanResult F)) : Bytes :=
  puts [
    bytes "Target_Host,Resolved_IP,Port,Protocol,State,",
    bytes "Service,Product,Version,Extra_Info,Banner_Raw,",
    bytes "CVE_Count,Max_CVSS,Max_EPSS,Max_Risk,Verified_CVE_Count,",
    bytes "JA4S,JA4X,CDN,OS,RTT_ms,CVEs\n"] ++
    results.flatMap row

def write (opens : Bytes → Bool) (path : Bytes)
    (results : List (ScanResult F)) : Except Bytes Bytes :=
  writeFile opens (bytes "failed to open CSV export path") path (text results)

end CsvWriter

/-! What a reader of the files should find. -/

def toCsvHeader : List Bytes :=
  [bytes "host", bytes "port", bytes "state", bytes "service", bytes "version",
    bytes "top_cve", bytes "top_cvss"]

def toCsvRecord (r : ScanResult F) : List Bytes :=
  [r.targetHost, decimal r.port.toNat, stateStr r.state, r.service.name,
    r.service.version, (topCve r.cves).1, Floating.put (topCve r.cves).2]

namespace CsvWriter

def header : List Bytes :=
  [bytes "Target_Host", bytes "Resolved_IP", bytes "Port", bytes "Protocol",
    bytes "State", bytes "Service", bytes "Product", bytes "Version",
    bytes "Extra_Info", bytes "Banner_Raw", bytes "CVE_Count", bytes "Max_CVSS",
    bytes "Max_EPSS", bytes "Max_Risk", bytes "Verified_CVE_Count",
    bytes "JA4S", bytes "JA4X", bytes "CDN", bytes "OS", bytes "RTT_ms",
    bytes "CVEs"]

def record (r : ScanResult F) : List Bytes :=
  [r.targetHost, r.resolvedIp, decimal r.port.toNat, r.protocol,
    stateStr r.state, r.service.name, r.service.product, r.service.version,
    r.service.extraInfo, r.service.bannerRaw, decimal r.cves.length,
    Floating.putFixed2 r.maxCvss, Floating.putFixed2 r.maxEpss,
    Floating.putFixed2 r.maxRisk, decimalInt r.verifiedCveCount, r.ja4s,
    r.ja4x, r.cdn, r.osGuess, decimalInt r.rtt, cveList r.cves]

end CsvWriter

/-! Each field reads back as what it was written for. -/

theorem needsQuotes_iff {s : Bytes} :
    needsQuotes s = true ↔ ∃ b ∈ s, Csv.Reserved b := by
  simp [needsQuotes, Csv.Reserved, Csv.comma, Csv.quote, Csv.lineFeed,
    Csv.carriageReturn, or_assoc]

theorem double_eq :
    (fun c : UInt8 => if c = 0x22 then [0x22, c] else [c]) = Csv.double := by
  funext c
  by_cases isQuote : c = Csv.quote
  · subst c
    rfl
  · rw [Csv.double, if_neg isQuote]
    exact if_neg isQuote

theorem encodes_escapeCsvField (s : Bytes) :
    Csv.Encodes (escapeCsvField s) s := by
  unfold escapeCsvField
  split
  · rw [double_eq]
    exact Csv.encodes_quoted s
  · next plain =>
      rw [needsQuotes_iff] at plain
      exact Csv.encodes_plain fun b member reserved =>
        plain ⟨b, member, reserved⟩

theorem csvEscape_eq (s : Bytes) : csvEscape s = escapeCsvField s := by
  have doubled : (fun c : UInt8 => if c = 0x22 then bytes "\"\"" else [c]) =
      Csv.double := rfl
  unfold csvEscape escapeCsvField
  rw [doubled, double_eq]
  rfl

theorem encodes_csvEscape (s : Bytes) : Csv.Encodes (csvEscape s) s :=
  csvEscape_eq s ▸ encodes_escapeCsvField s

theorem encodes_decimal (n : Nat) : Csv.Encodes (decimal n) (decimal n) := by
  refine Csv.encodes_plain fun b member reserved => ?_
  have digit := isDigit_of_mem_decimal member
  rcases reserved with rfl | rfl | rfl | rfl <;> exact absurd digit (by decide)

theorem encodes_decimalInt (z : Int) :
    Csv.Encodes (decimalInt z) (decimalInt z) := by
  refine Csv.encodes_plain fun b member reserved => ?_
  rcases reserved with rfl | rfl | rfl | rfl <;>
    exact decimalInt_avoids (by decide) (by decide) member

theorem encodes_stateStr (state : PortState) :
    Csv.Encodes (stateStr state) (stateStr state) := by
  refine Csv.encodes_plain ?_
  cases state <;> decide

theorem encodes_put (numbers : PrintsWithout F Csv.Reserved) (x : F) :
    Csv.Encodes (Floating.put x) (Floating.put x) :=
  Csv.encodes_plain (numbers.put x)

theorem encodes_putFixed2 (numbers : PrintsWithout F Csv.Reserved) (x : F) :
    Csv.Encodes (Floating.putFixed2 x) (Floating.putFixed2 x) :=
  Csv.encodes_plain (numbers.putFixed2 x)

/-! Rows and whole files. -/

def toCsvFieldTexts (r : ScanResult F) : List Bytes :=
  [escapeCsvField r.targetHost, decimal r.port.toNat, stateStr r.state,
    escapeCsvField r.service.name, escapeCsvField r.service.version,
    escapeCsvField (topCve r.cves).1, Floating.put (topCve r.cves).2]

theorem toCsvRow_eq (r : ScanResult F) :
    toCsvRow r = Csv.renderRecord (toCsvFieldTexts r) := by
  have comma : bytes "," = [Csv.comma] := rfl
  have newline : bytes "\n" = [Csv.lineFeed] := rfl
  simp [toCsvRow, toCsvFieldTexts, Csv.renderRecord, comma, newline]

theorem encodes_toCsvRecord (numbers : PrintsWithout F Csv.Reserved)
    (r : ScanResult F) :
    List.Forall₂ Csv.Encodes (toCsvFieldTexts r) (toCsvRecord r) := by
  simp only [toCsvFieldTexts, toCsvRecord, List.forall₂_cons,
    List.forall₂_nil_left_iff, encodes_escapeCsvField, encodes_decimal,
    encodes_stateStr, encodes_put numbers, and_self]

theorem encodes_names {names : List Bytes}
    (unreserved : ∀ name ∈ names, ∀ b ∈ name, ¬ Csv.Reserved b) :
    List.Forall₂ Csv.Encodes names names := by
  induction names with
  | nil => exact .nil
  | cons name names induction =>
      exact .cons (Csv.encodes_plain (unreserved name (by simp)))
        (induction fun other member =>
          unreserved other (List.mem_cons_of_mem name member))

theorem read_toCsv (numbers : PrintsWithout F Csv.Reserved)
    (results : List (ScanResult F)) :
    Csv.read (toCsv results) = some (toCsvHeader :: results.map toCsvRecord) := by
  have header : bytes "host,port,state,service,version,top_cve,top_cvss\n" =
      Csv.renderRecord toCsvHeader := by decide
  have rows : results.flatMap toCsvRow =
      results.flatMap fun r => Csv.renderRecord (toCsvFieldTexts r) :=
    congrArg results.flatMap (funext toCsvRow_eq)
  rw [toCsv, header, rows,
    Csv.read_renderRecord (encodes_names (by decide)) (by decide),
    Csv.read_flatMap (fun r _ => encodes_toCsvRecord numbers r)
      (fun _ _ => List.cons_ne_nil _ _)]
  rfl

namespace CsvWriter

def fieldTexts (r : ScanResult F) : List Bytes :=
  [csvEscape r.targetHost, csvEscape r.resolvedIp, decimal r.port.toNat,
    csvEscape r.protocol, stateStr r.state, csvEscape r.service.name,
    csvEscape r.service.product, csvEscape r.service.version,
    csvEscape r.service.extraInfo, csvEscape r.service.bannerRaw,
    decimal r.cves.length, Floating.putFixed2 r.maxCvss,
    Floating.putFixed2 r.maxEpss, Floating.putFixed2 r.maxRisk,
    decimalInt r.verifiedCveCount, csvEscape r.ja4s, csvEscape r.ja4x,
    csvEscape r.cdn, csvEscape r.osGuess, decimalInt r.rtt,
    csvEscape (cveList r.cves)]

theorem row_eq (r : ScanResult F) :
    row r = Csv.renderRecord (fieldTexts r) := by
  have comma : bytes "," = [Csv.comma] := rfl
  have newline : bytes "\n" = [Csv.lineFeed] := rfl
  simp [row, fieldTexts, Csv.renderRecord, comma, newline]

theorem encodes_record (numbers : PrintsWithout F Csv.Reserved)
    (r : ScanResult F) :
    List.Forall₂ Csv.Encodes (fieldTexts r) (record r) := by
  simp only [fieldTexts, record, List.forall₂_cons, List.forall₂_nil_left_iff,
    encodes_csvEscape, encodes_decimal, encodes_decimalInt, encodes_stateStr,
    encodes_putFixed2 numbers, and_self]

theorem read_text (numbers : PrintsWithout F Csv.Reserved)
    (results : List (ScanResult F)) :
    Csv.read (text results) = some (header :: results.map record) := by
  have headerText : puts [
      bytes "Target_Host,Resolved_IP,Port,Protocol,State,",
      bytes "Service,Product,Version,Extra_Info,Banner_Raw,",
      bytes "CVE_Count,Max_CVSS,Max_EPSS,Max_Risk,Verified_CVE_Count,",
      bytes "JA4S,JA4X,CDN,OS,RTT_ms,CVEs\n"] = Csv.renderRecord header := by
    decide +kernel
  have rows : results.flatMap row =
      results.flatMap fun r => Csv.renderRecord (fieldTexts r) :=
    congrArg results.flatMap (funext row_eq)
  rw [text, headerText, rows,
    Csv.read_renderRecord (encodes_names (by decide)) (by decide),
    Csv.read_flatMap (fun r _ => encodes_record numbers r)
      (fun _ _ => List.cons_ne_nil _ _)]
  rfl

end CsvWriter

/-- Reading either file gives back its header and then the fields of every
result, in order and byte for byte. -/
theorem read_csv_reports (numbers : PrintsWithout F Csv.Reserved)
    (results : List (ScanResult F)) :
    (Csv.read (toCsv results) =
        some (toCsvHeader :: results.map toCsvRecord) ∧
      ∀ record ∈ toCsvHeader :: results.map toCsvRecord, record.length = 7) ∧
    ∀ opens path, opens path = true →
      ∃ text, CsvWriter.write opens path results = .ok text ∧
        Csv.read text =
          some (CsvWriter.header :: results.map CsvWriter.record) ∧
        ∀ record ∈ CsvWriter.header :: results.map CsvWriter.record,
          record.length = 21 := by
  refine ⟨⟨read_toCsv numbers results, ?_⟩, ?_⟩
  · intro record member
    rcases List.mem_cons.mp member with rfl | inRows
    · rfl
    · obtain ⟨r, _, rfl⟩ := List.mem_map.mp inRows
      rfl
  · intro opens path opened
    refine ⟨CsvWriter.text results, ?_, CsvWriter.read_text numbers results, ?_⟩
    · simp [CsvWriter.write, writeFile, opened]
    · intro record member
      rcases List.mem_cons.mp member with rfl | inRows
      · rfl
      · obtain ⟨r, _, rfl⟩ := List.mem_map.mp inRows
        rfl

theorem not_reserved_of_isNumeral {b : UInt8} (numeral : IsNumeral b) :
    ¬ Csv.Reserved b := by
  rintro (rfl | rfl | rfl | rfl) <;> revert numeral <;>
    simp [IsNumeral, IsDigit, Csv.comma, Csv.quote, Csv.lineFeed,
      Csv.carriageReturn]

/-- A banner with a quote, a comma and both line breaks. -/
def quotedBanner : ScanResult ℚ where
  targetHost := bytes "a,b"
  port := 3306
  state := .opened
  service := { name := bytes "mysql", bannerRaw := bytes "5\r\n\"x\",\n" }
  cves := [{
    cveId := bytes "CVE-2018-15473", description := bytes "a;b, \"c\""
    cvssScore := 5.3, severity := .medium, epss := 0.5, percentile := 0.75
    nucleiVerified := true }]

theorem read_csv_reports_quotedBanner :
    Csv.read (toCsv [quotedBanner]) =
        some [toCsvHeader, toCsvRecord quotedBanner] ∧
      ∃ text,
        CsvWriter.write (fun _ => true) (bytes "report.csv") [quotedBanner] =
          .ok text ∧
        Csv.read text =
          some [CsvWriter.header, CsvWriter.record quotedBanner] := by
  have numbers : PrintsWithout ℚ Csv.Reserved :=
    Exact.printsWithout fun _ numeral => not_reserved_of_isNumeral numeral
  have reports := read_csv_reports numbers [quotedBanner]
  obtain ⟨⟨readTo, _⟩, written⟩ := reports
  obtain ⟨text, wrote, readBack, _⟩ :=
    written (fun _ => true) (bytes "report.csv") rfl
  exact ⟨readTo, text, wrote, readBack⟩

end ServicePortScanner.Report
