import ServicePortScanner.Data.JsonLayout
import ServicePortScanner.Report.Text

namespace ServicePortScanner.Report

open ServicePortScanner.Data
open ServicePortScanner.Core

/-! `to_json` and `JsonWriter::write`. -/

/-- The `nlohmann::json` values that `to_json` builds. -/
inductive JsonValue (F : Type) where
  | unsigned (n : Nat)
  | float (x : F)
  | boolean (b : Bool)
  | string (text : Bytes)
  | array (items : List (JsonValue F))
  | object (members : List (Bytes × JsonValue F))

section

variable {F : Type} [Floating F]

def cveItem (c : CveInfo F) : JsonValue F :=
  .object [
    (bytes "id", .string c.cveId),
    (bytes "cvss", .float c.cvssScore),
    (bytes "epss", .float c.epss),
    (bytes "percentile", .float c.percentile),
    (bytes "risk", .float c.risk),
    (bytes "nuclei_verified", .boolean c.nucleiVerified)]

def resultItem (r : ScanResult F) : JsonValue F :=
  .object [
    (bytes "host", .string r.targetHost),
    (bytes "port", .unsigned r.port.toNat),
    (bytes "state", .string (stateStr r.state)),
    (bytes "service", .string r.service.name),
    (bytes "product", .string r.service.product),
    (bytes "version", .string r.service.version),
    (bytes "banner", .string r.service.bannerRaw),
    (bytes "ja4s", .string r.ja4s),
    (bytes "ja4x", .string r.ja4x),
    (bytes "cdn", .string r.cdn),
    (bytes "os_guess", .string r.osGuess),
    (bytes "cves", .array (r.cves.map cveItem))]

/-- `dump` is `nlohmann::json::dump(2)`, which throws or returns a text. -/
def toJson (dump : JsonValue F → Except Bytes Bytes)
    (results : List (ScanResult F)) : Except Bytes Bytes :=
  dump (.array (results.map resultItem))

end

def jsonEscapeChar (c : UInt8) : Bytes :=
  if c = 0x22 then bytes "\\\""
  else if c = 0x5c then bytes "\\\\"
  else if c = 0x08 then bytes "\\b"
  else if c = 0x0c then bytes "\\f"
  else if c = 0x0a then bytes "\\n"
  else if c = 0x0d then bytes "\\r"
  else if c = 0x09 then bytes "\\t"
  else if c < 0x20 then bytes " "
  else [c]

def jsonEscape (s : Bytes) : Bytes :=
  s.flatMap jsonEscapeChar

namespace JsonWriter

variable {F : Type} [Floating F]

def cveText (cve : CveInfo F) : Bytes :=
  puts [
    bytes "\n",
    bytes "        \x7b\n",
    bytes "          \"cve_id\": \"", jsonEscape cve.cveId, bytes "\",\n",
    bytes "          \"description\": \"", jsonEscape cve.description,
    bytes "\",\n",
    bytes "          \"cvss_score\": ", Floating.put cve.cvssScore, bytes ",\n",
    bytes "          \"severity\": \"", severityStr cve.severity, bytes "\",\n",
    bytes "          \"epss\": ", Floating.put cve.epss, bytes ",\n",
    bytes "          \"percentile\": ", Floating.put cve.percentile,
    bytes ",\n",
    bytes "          \"risk_score\": ", Floating.put cve.risk, bytes ",\n",
    bytes "          \"nuclei_verified\": ",
    if cve.nucleiVerified then bytes "true" else bytes "false", bytes "\n",
    bytes "        \x7d"]

def resultText (r : ScanResult F) : Bytes :=
  puts [
    bytes "\n",
    bytes "    \x7b\n",
    bytes "      \"target_host\": \"", jsonEscape r.targetHost, bytes "\",\n",
    bytes "      \"resolved_ip\": \"", jsonEscape r.resolvedIp, bytes "\",\n",
    bytes "      \"port\": ", decimal r.port.toNat, bytes ",\n",
    bytes "      \"protocol\": \"", jsonEscape r.protocol, bytes "\",\n",
    bytes "      \"state\": \"", stateStr r.state, bytes "\",\n",
    bytes "      \"service\": \x7b\n",
    bytes "        \"name\": \"", jsonEscape r.service.name, bytes "\",\n",
    bytes "        \"product\": \"", jsonEscape r.service.product,
    bytes "\",\n",
    bytes "        \"version\": \"", jsonEscape r.service.version,
    bytes "\",\n",
    bytes "        \"extra_info\": \"", jsonEscape r.service.extraInfo,
    bytes "\",\n",
    bytes "        \"banner_raw\": \"", jsonEscape r.service.bannerRaw,
    bytes "\"\n",
    bytes "      \x7d,\n",
    bytes "      \"cves\": [",
    Json.commaSeparated (r.cves.map cveText),
    bytes "\n",
    bytes "      ],\n",
    bytes "      \"cve_count\": ", decimal r.cves.length, bytes ",\n",
    bytes "      \"max_cvss\": ", Floating.put r.maxCvss, bytes ",\n",
    bytes "      \"max_epss\": ", Floating.put r.maxEpss, bytes ",\n",
    bytes "      \"max_risk\": ", Floating.put r.maxRisk, bytes ",\n",
    bytes "      \"verified_cve_count\": ", decimalInt r.verifiedCveCount,
    bytes ",\n",
    bytes "      \"ja4s\": \"", jsonEscape r.ja4s, bytes "\",\n",
    bytes "      \"ja4x\": \"", jsonEscape r.ja4x, bytes "\",\n",
    bytes "      \"cdn\": \"", jsonEscape r.cdn, bytes "\",\n",
    bytes "      \"os_guess\": \"", jsonEscape r.osGuess, bytes "\",\n",
    bytes "      \"rtt_ms\": ", decimalInt r.rtt, bytes "\n",
    bytes "    \x7d"]

def text (results : List (ScanResult F)) : Bytes :=
  let totals := Totals.of results
  puts [
    bytes "\x7b\n",
    bytes "  \"scan_summary\": \x7b\n",
    bytes "    \"total_ports\": ", decimal results.length, bytes ",\n",
    bytes "    \"open\": ", decimal totals.opened, bytes ",\n",
    bytes "    \"closed\": ", decimal totals.closed, bytes ",\n",
    bytes "    \"filtered\": ", decimal totals.filtered, bytes ",\n",
    bytes "    \"total_cves\": ", decimal totals.cves, bytes "\n",
    bytes "  \x7d,\n",
    bytes "  \"results\": [",
    Json.commaSeparated (results.map resultText),
    bytes "\n",
    bytes "  ]\n",
    bytes "\x7d\n"]

def write (opens : Bytes → Bool) (path : Bytes)
    (results : List (ScanResult F)) : Except Bytes Bytes :=
  writeFile opens (bytes "failed to open JSON export path") path (text results)

end JsonWriter

end ServicePortScanner.Report
