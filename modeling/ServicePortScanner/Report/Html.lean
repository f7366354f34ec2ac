import ServicePortScanner.Core.ExactFloating
import ServicePortScanner.Data.Markup
import ServicePortScanner.Report.Text

namespace ServicePortScanner.Report

open ServicePortScanner.Data
open ServicePortScanner.Core
open ServicePortScanner.Data.Markup (Piece Cell markup)

/-! `to_html` and `HtmlWriter::write`. -/

def escapeHtml (s : Bytes) : Bytes :=
  s.flatMap fun c =>
    if c = 0x26 then bytes "&amp;"
    else if c = 0x3c then bytes "&lt;"
    else if c = 0x3e then bytes "&gt;"
    else if c = 0x22 then bytes "&quot;"
    else if c = 0x27 then bytes "&#39;"
    else [c]

/-- `HtmlWriter` has its own copy of `escape_html`. -/
def htmlEscape (s : Bytes) : Bytes :=
  escapeHtml s

variable {F : Type} [Floating F]

def rowClass (topCvss : F) : Bytes :=
  if Floating.le (Floating.literal 9) topCvss then bytes "crit"
  else if Floating.le (Floating.literal 7) topCvss then bytes "high"
  else if Floating.le (Floating.literal 4) topCvss then bytes "med"
  else bytes ""

def toHtmlHeadLines : List Bytes :=
  [
    bytes "<!doctype html><html><head><meta charset='utf-8'>",
    bytes "<title>spscan report</title>",
    bytes "<style>",
    bytes "body\x7bfont-family:system-ui,sans-serif;",
    bytes "background:#0f1115;color:#e6e6e6;padding:24px\x7d",
    bytes "table\x7bborder-collapse:collapse;width:100%\x7d",
    bytes "th,td\x7bpadding:6px 10px;border-bottom:1px solid #333;",
    bytes "text-align:left;font-size:13px\x7d",
    bytes "tr.crit\x7bbackground:#5a1f1f\x7dtr.high\x7bbackground:#5a3a1f\x7d",
    bytes "tr.med\x7bbackground:#4a4a1f\x7d",
    bytes "</style></head><body>",
    bytes "<h1>spscan report</h1>",
    bytes "<table><thead><tr>",
    bytes "<th>host</th><th>port</th><th>state</th><th>service</th>",
    bytes "<th>version</th><th>top CVE</th><th>CVSS</th>",
    bytes "</tr></thead><tbody>"]

def toHtmlHead : Bytes :=
  puts toHtmlHeadLines

def toHtmlRow (r : ScanResult F) : Bytes :=
  let top := topCve r.cves
  puts [
    bytes "<tr class='", rowClass top.2, bytes "'>",
    bytes "<td>", escapeHtml r.targetHost, bytes "</td>",
    bytes "<td>", decimal r.port.toNat, bytes "</td>",
    bytes "<td>", stateStr r.state, bytes "</td>",
    bytes "<td>", escapeHtml r.service.name, bytes "</td>",
    bytes "<td>", escapeHtml r.service.version, bytes "</td>",
    bytes "<td>", escapeHtml top.1, bytes "</td>",
    bytes "<td>", Floating.put top.2, bytes "</td>",
    bytes "</tr>"]

def toHtml (results : List (ScanResult F)) : Bytes :=
  toHtmlHead ++ results.flatMap toHtmlRow ++
    bytes "</tbody></table></body></html>"

namespace HtmlWriter

def cvssStyle (cvss : F) : Bytes :=
  if Floating.le (Floating.literal 9) cvss then
    bytes "background:#b41e1e;color:#fff;font-weight:700;"
  else if Floating.le (Floating.literal 7) cvss then
    bytes "background:#c87814;color:#fff;font-weight:700;"
  else if Floating.le (Floating.literal 4) cvss then
    bytes "background:#b4aa1e;color:#fff;font-weight:700;"
  else bytes "background:#505050;color:#fff;font-weight:700;"

def epssStyle (epss : F) : Bytes :=
  if Floating.le (Floating.literal 0.50) epss then
    bytes "background:#b41e1e;color:#fff;font-weight:700;"
  else if Floating.le (Floating.literal 0.10) epss then
    bytes "background:#b4aa1e;color:#fff;font-weight:700;"
  else bytes "background:#287828;color:#fff;font-weight:700;"

/-- `static_cast<int>(x * 100)` -/
def percent (x : F) : Bytes :=
  decimalInt (Floating.truncate (Floating.mul x (Floating.literal 100)))

def headLines : List Bytes :=
  [
    bytes "<!DOCTYPE html>\n<html><head><meta charset='UTF-8'>\n",
    bytes "<title>SPS Scan Report</title>\n",
    bytes "<style>",
    bytes "body\x7bfont-family:Segoe UI,Arial,sans-serif;",
    bytes "background:#1e1e1e;color:#ddd;padding:24px;\x7d",
    bytes "h1,h2\x7bcolor:#fff;\x7dh1\x7bborder-bottom:2px solid #3a6ea5;",
    bytes "padding-bottom:10px;\x7d",
    bytes ".summary\x7bdisplay:flex;gap:12px;flex-wrap:wrap;",
    bytes "margin:16px 0 24px;\x7d",
    bytes ".metric\x7bbackground:#2a2a2a;border:1px solid #444;",
    bytes "padding:10px 14px;border-radius:4px;\x7d",
    bytes "table\x7bborder-collapse:collapse;width:100%;margin:16px 0 28px;\x7d",
    bytes "th,td\x7bborder:1px solid #444;padding:8px;text-align:left;",
    bytes "vertical-align:top;\x7d",
    bytes "th\x7bbackground:#333;color:#fff;\x7d",
    bytes "tr:nth-child(even)\x7bbackground:#282828;\x7d",
    bytes ".detail\x7bbackground:#252525;border:1px solid #3d3d3d;",
    bytes "border-radius:4px;padding:12px;margin:12px 0;\x7d",
    bytes "pre\x7bbackground:#151515;border:1px solid #333;padding:8px;",
    bytes "white-space:pre-wrap;overflow:auto;\x7d",
    bytes ".cve\x7bmargin:6px 0;padding:6px;background:#303030;",
    bytes "border-radius:4px;\x7d",
    bytes "code\x7bcolor:#b8d7ff;\x7d",
    bytes "</style></head><body>\n",
    bytes "<h1>Service Port Scanner Report</h1>\n",
    bytes "<div class='summary'>"]

def head : Bytes :=
  puts headLines

def summary (results : List (ScanResult F)) : Bytes :=
  let totals := Totals.of results
  puts [
    bytes "<div class='metric'><b>Total Ports</b><br>",
    decimal results.length, bytes "</div>",
    bytes "<div class='metric'><b>Open</b><br>",
    decimal totals.opened, bytes "</div>",
    bytes "<div class='metric'><b>Closed</b><br>",
    decimal totals.closed, bytes "</div>",
    bytes "<div class='metric'><b>Filtered</b><br>",
    decimal totals.filtered, bytes "</div>",
    bytes "<div class='metric'><b>Total CVEs</b><br>",
    decimal totals.cves, bytes "</div>"]

def tableHead : Bytes :=
  puts [
    bytes "</div>\n",
    bytes "<h2>Results</h2>\n",
    bytes "<table><tr>",
    bytes "<th>Port</th><th>Proto</th><th>State</th><th>Service</th>",
    bytes "<th>Product</th><th>Version</th><th>CVSS</th><th>EPSS</th>",
    bytes "<th>Risk Score</th>",
    bytes "</tr>\n"]

def row (r : ScanResult F) : Bytes :=
  let cvss := r.maxCvss
  let epss := r.maxEpss
  let risk := Floating.mul cvss epss
  puts [
    bytes "<tr>",
    bytes "<td>", decimal r.port.toNat, bytes "</td>",
    bytes "<td>", htmlEscape r.protocol, bytes "</td>",
    bytes "<td>", stateStr r.state, bytes "</td>",
    bytes "<td>", htmlEscape r.service.name, bytes "</td>",
    bytes "<td>", htmlEscape r.service.product, bytes "</td>",
    bytes "<td>", htmlEscape r.service.version, bytes "</td>",
    bytes "<td style='", cvssStyle cvss, bytes "'>",
    Floating.put cvss, bytes "</td>",
    bytes "<td style='", epssStyle epss, bytes "'>",
    percent epss, bytes "%</td>",
    bytes "<td>", Floating.put risk, bytes "</td>",
    bytes "</tr>\n"]

def ifPresent (opening value closing : Bytes) : Bytes :=
  if value.isEmpty then [] else puts [opening, htmlEscape value, closing]

def cveDetail (cve : CveInfo F) : Bytes :=
  puts [
    bytes "<div class='cve'><b>", htmlEscape cve.cveId, bytes "</b> ",
    bytes "(", severityStr cve.severity,
    bytes ", CVSS ", Floating.put cve.cvssScore,
    bytes ", EPSS ", percent cve.epss,
    bytes "%, Percentile ", percent cve.percentile,
    bytes "%, Risk ", Floating.put cve.risk,
    bytes ", Nuclei Verified ",
    if cve.nucleiVerified then bytes "yes" else bytes "no",
    bytes ")<br>",
    htmlEscape cve.description, bytes "</div>"]

def cveDetails (cves : List (CveInfo F)) : Bytes :=
  if cves.isEmpty then []
  else bytes "<b>CVEs:</b>" ++ cves.flatMap cveDetail

def detail (r : ScanResult F) : Bytes :=
  puts [
    bytes "<div class='detail'>",
    bytes "<h3>", htmlEscape r.targetHost, bytes ":", decimal r.port.toNat,
    bytes "/", htmlEscape r.protocol, bytes " - ", htmlEscape r.service.name,
    bytes "</h3>",
    bytes "<p><b>Resolved IP:</b> ", htmlEscape r.resolvedIp, bytes "</p>",
    bytes "<p><b>State:</b> ", stateStr r.state, bytes "</p>",
    bytes "<p><b>RTT:</b> ", decimalInt r.rtt, bytes " ms</p>",
    bytes "<p><b>Product:</b> ", htmlEscape r.service.product, bytes " ",
    htmlEscape r.service.version, bytes "</p>",
    ifPresent (bytes "<p><b>Info:</b> ") r.service.extraInfo (bytes "</p>"),
    ifPresent (bytes "<p><b>OS:</b> ") r.osGuess (bytes "</p>"),
    ifPresent (bytes "<p><b>CDN:</b> ") r.cdn (bytes "</p>"),
    ifPresent (bytes "<p><b>JA4S:</b> <code>") r.ja4s (bytes "</code></p>"),
    ifPresent (bytes "<p><b>JA4X:</b> <code>") r.ja4x (bytes "</code></p>"),
    ifPresent (bytes "<b>Banner:</b><pre>") r.service.bannerRaw
      (bytes "</pre>"),
    cveDetails r.cves,
    bytes "</div>\n"]

def text (results : List (ScanResult F)) : Bytes :=
  puts [
    head, summary results, tableHead,
    results.flatMap row,
    bytes "</table>\n",
    bytes "<h2>Result Details</h2>\n",
    results.flatMap detail,
    bytes "</body></html>\n"]

def write (opens : Bytes → Bool) (path : Bytes)
    (results : List (ScanResult F)) : Except Bytes Bytes :=
  writeFile opens (bytes "failed to open HTML export path") path (text results)

end HtmlWriter

end ServicePortScanner.Report
