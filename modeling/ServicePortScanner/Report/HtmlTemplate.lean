import ServicePortScanner.Report.Html

namespace ServicePortScanner.Report

open ServicePortScanner.Data
open ServicePortScanner.Core
open ServicePortScanner.Data.Markup (Piece Cell markup)

/-! The templates behind the HTML reports.  What a report's tags depend on is
its shape; everything else is in the fields. -/

inductive CvssBand where
  | critical
  | high
  | medium
  | low
  deriving DecidableEq, Repr

inductive EpssBand where
  | high
  | medium
  | low
  deriving DecidableEq, Repr

section

variable {F : Type} [Floating F]

def cvssBand (cvss : F) : CvssBand :=
  if Floating.le (Floating.literal 9) cvss then .critical
  else if Floating.le (Floating.literal 7) cvss then .high
  else if Floating.le (Floating.literal 4) cvss then .medium
  else .low

def epssBand (epss : F) : EpssBand :=
  if Floating.le (Floating.literal 0.50) epss then .high
  else if Floating.le (Floating.literal 0.10) epss then .medium
  else .low

end

/-- Texts that need no escaping and open no tag. -/
def Harmless (text : Bytes) : Prop :=
  Markup.less ∉ text ∧ Markup.ampersand ∉ text

instance (text : Bytes) : Decidable (Harmless text) :=
  inferInstanceAs (Decidable (_ ∧ _))

/-- The bytes that no number may contain. -/
def MarkupReserved (b : UInt8) : Prop :=
  b = Markup.less ∨ b = Markup.ampersand

theorem harmless_of_unreserved {text : Bytes}
    (unreserved : ∀ b ∈ text, ¬ MarkupReserved b) : Harmless text :=
  ⟨fun member => unreserved _ member (.inl rfl),
    fun member => unreserved _ member (.inr rfl)⟩

theorem harmless_decimal (n : Nat) : Harmless (decimal n) :=
  ⟨decimal_avoids (by decide), decimal_avoids (by decide)⟩

theorem harmless_decimalInt (z : Int) : Harmless (decimalInt z) :=
  ⟨decimalInt_avoids (by decide) (by decide),
    decimalInt_avoids (by decide) (by decide)⟩

theorem harmless_stateStr (state : PortState) : Harmless (stateStr state) := by
  cases state <;> decide

theorem harmless_severityStr (severity : Severity) :
    Harmless (severityStr severity) := by
  cases severity <;> decide

theorem escapeHtml_eq (s : Bytes) : escapeHtml s = Markup.escape s := rfl

theorem htmlEscape_eq (s : Bytes) : htmlEscape s = Markup.escape s := rfl

def plainCell (content : Piece) : Cell where
  opening := bytes "<td>"
  content := [content]

theorem cell_wellFormed {opening : Bytes} {content : Piece}
    (isTag : Markup.IsTag opening) (opens : Markup.opensCell opening = true)
    (wellFormed : content.WellFormed) (noTag : content.tag? = none) :
    Cell.WellFormed ⟨opening, [content]⟩ where
  isTag := isTag
  opens := opens
  content piece member := by
    rw [List.mem_singleton.mp member]
    exact ⟨wellFormed, noTag⟩

theorem plainCell_field (value : Bytes) :
    (plainCell (.field value)).WellFormed :=
  cell_wellFormed (by decide) rfl trivial rfl

theorem plainCell_literal {text : Bytes} (harmless : Harmless text) :
    (plainCell (.literal text)).WellFormed :=
  cell_wellFormed (by decide) rfl harmless rfl

/-! `to_html`. -/

section

variable {F : Type} [Floating F]

def CvssBand.rowTag : CvssBand → Bytes
  | .critical => bytes "<tr class='crit'>"
  | .high => bytes "<tr class='high'>"
  | .medium => bytes "<tr class='med'>"
  | .low => bytes "<tr class=''>"

theorem rowTag_cvssBand (cvss : F) :
    (cvssBand cvss).rowTag = bytes "<tr class='" ++ rowClass cvss ++ bytes "'>" := by
  unfold cvssBand rowClass
  split
  · rfl
  split
  · rfl
  split <;> rfl

theorem rowTag_isTag (band : CvssBand) : Markup.IsTag band.rowTag := by
  cases band <;> decide

theorem rowTag_opensCell (band : CvssBand) :
    Markup.opensCell band.rowTag = false := by
  cases band <;> rfl

def toHtmlCells (r : ScanResult F) : List Cell :=
  let top := topCve r.cves
  [plainCell (.field r.targetHost),
    plainCell (.literal (decimal r.port.toNat)),
    plainCell (.literal (stateStr r.state)),
    plainCell (.field r.service.name),
    plainCell (.field r.service.version),
    plainCell (.field top.1),
    plainCell (.literal (Floating.put top.2))]

def toHtmlRowPieces (r : ScanResult F) : List Piece :=
  .tag (cvssBand (topCve r.cves).2).rowTag ::
    ((toHtmlCells r).flatMap Cell.pieces ++ markup (bytes "</tr>"))

def toHtmlDocument (results : List (ScanResult F)) : List Piece :=
  toHtmlHeadLines.flatMap markup ++ (results.flatMap toHtmlRowPieces ++
    markup (bytes "</tbody></table></body></html>"))

def toHtmlTags (bands : List CvssBand) : List Bytes :=
  [bytes "<!doctype html>", bytes "<html>", bytes "<head>",
    bytes "<meta charset='utf-8'>", bytes "<title>", bytes "</title>",
    bytes "<style>", bytes "</style>", bytes "</head>", bytes "<body>",
    bytes "<h1>", bytes "</h1>", bytes "<table>", bytes "<thead>",
    bytes "<tr>"] ++
  (List.replicate 7 [bytes "<th>", bytes "</th>"]).flatten ++
  [bytes "</tr>", bytes "</thead>", bytes "<tbody>"] ++
  bands.flatMap (fun band =>
    band.rowTag :: (List.replicate 7 [bytes "<td>", bytes "</td>"]).flatten ++
      [bytes "</tr>"]) ++
  [bytes "</tbody>", bytes "</table>", bytes "</body>", bytes "</html>"]

def toHtmlShape (r : ScanResult F) : CvssBand :=
  cvssBand (topCve r.cves).2

def toHtmlRecord (r : ScanResult F) : List Bytes :=
  [r.targetHost, decimal r.port.toNat, stateStr r.state, r.service.name,
    r.service.version, (topCve r.cves).1, Floating.put (topCve r.cves).2]

theorem toHtml_eq (results : List (ScanResult F)) :
    toHtml results = Markup.render (toHtmlDocument results) := by
  have row : ∀ r : ScanResult F,
      Markup.render (toHtmlRowPieces r) = toHtmlRow r := by
    intro r
    simp [toHtmlRowPieces, toHtmlCells, toHtmlRow, plainCell, Cell.pieces,
      Piece.render, rowTag_cvssBand, escapeHtml_eq]
  simp [toHtml, toHtmlDocument, row, toHtmlHead, puts]

theorem toHtmlCells_wellFormed (numbers : PrintsWithout F MarkupReserved)
    (r : ScanResult F) : ∀ cell ∈ toHtmlCells r, cell.WellFormed := by
  have top := harmless_of_unreserved (numbers.put (topCve r.cves).2)
  simp [toHtmlCells, plainCell_field, plainCell_literal, harmless_decimal,
    harmless_stateStr, top]

theorem toHtmlRowPieces_wellFormed (numbers : PrintsWithout F MarkupReserved)
    (r : ScanResult F) : ∀ piece ∈ toHtmlRowPieces r, piece.WellFormed := by
  have closing : ∀ piece ∈ markup (bytes "</tr>"), piece.WellFormed := by decide
  intro piece member
  simp only [toHtmlRowPieces, List.mem_cons, List.mem_append,
    List.mem_flatMap] at member
  rcases member with rfl | ⟨cell, inRow, inCell⟩ | inClosing
  · exact rowTag_isTag _
  · exact (toHtmlCells_wellFormed numbers r cell inRow).pieces piece inCell
  · exact closing piece inClosing

theorem toHtmlDocument_wellFormed (numbers : PrintsWithout F MarkupReserved)
    (results : List (ScanResult F)) :
    ∀ piece ∈ toHtmlDocument results, piece.WellFormed := by
  have opening : ∀ piece ∈ toHtmlHeadLines.flatMap markup, piece.WellFormed := by
    decide +kernel
  have closing : ∀ piece ∈ markup (bytes "</tbody></table></body></html>"),
      piece.WellFormed := by decide
  intro piece member
  simp only [toHtmlDocument, List.mem_append] at member
  rcases member with inOpening | inRows | inClosing
  · exact opening piece inOpening
  · obtain ⟨r, _, inRow⟩ := List.mem_flatMap.mp inRows
    exact toHtmlRowPieces_wellFormed numbers r piece inRow
  · exact closing piece inClosing

theorem tags_toHtmlRowPieces (r : ScanResult F) :
    (toHtmlRowPieces r).filterMap Piece.tag? =
      (cvssBand (topCve r.cves).2).rowTag ::
        (List.replicate 7 [bytes "<td>", bytes "</td>"]).flatten ++
        [bytes "</tr>"] := rfl

theorem tags_toHtmlHeadLines :
    (toHtmlHeadLines.flatMap markup).filterMap Piece.tag? =
      [bytes "<!doctype html>", bytes "<html>", bytes "<head>",
        bytes "<meta charset='utf-8'>", bytes "<title>", bytes "</title>",
        bytes "<style>", bytes "</style>", bytes "</head>", bytes "<body>",
        bytes "<h1>", bytes "</h1>", bytes "<table>", bytes "<thead>",
        bytes "<tr>"] ++
      (List.replicate 7 [bytes "<th>", bytes "</th>"]).flatten ++
      [bytes "</tr>", bytes "</thead>", bytes "<tbody>"] := by
  decide +kernel

theorem tags_toHtml (numbers : PrintsWithout F MarkupReserved)
    (results : List (ScanResult F)) :
    Markup.tags (toHtml results) =
      toHtmlTags (results.map toHtmlShape) := by
  have closing :
      (markup (bytes "</tbody></table></body></html>")).filterMap Piece.tag? =
        [bytes "</tbody>", bytes "</table>", bytes "</body>",
          bytes "</html>"] := by decide
  rw [toHtml_eq, Markup.tags_render (toHtmlDocument_wellFormed numbers results)]
  rw [toHtmlDocument, List.filterMap_append, List.filterMap_append,
    tags_toHtmlHeadLines]
  simp only [List.filterMap_flatMap, closing, tags_toHtmlRowPieces,
    toHtmlTags, toHtmlShape, List.flatMap_map, List.append_assoc]

theorem cells_toHtml (numbers : PrintsWithout F MarkupReserved)
    (results : List (ScanResult F)) :
    Markup.cells ((Markup.tokens (toHtml results)).map Markup.Token.decode) =
      results.flatMap toHtmlRecord := by
  have opening : ∀ content ∈ (toHtmlHeadLines.flatMap markup).filterMap Piece.tag?,
      Markup.opensCell content = false := by
    rw [tags_toHtmlHeadLines]
    decide
  have rowEnd : ∀ content ∈ (markup (bytes "</tr>")).filterMap Piece.tag?,
      Markup.opensCell content = false := by decide
  have ending : Markup.cells (Markup.view []
      (markup (bytes "</tbody></table></body></html>"))) = [] := by decide
  rw [toHtml_eq,
    Markup.map_decode_tokens (toHtmlDocument_wellFormed numbers results),
    toHtmlDocument, Markup.cells_view_append opening]
  induction results with
  | nil => exact ending
  | cons r results induction =>
      rw [List.flatMap_cons, List.flatMap_cons, List.append_assoc,
        toHtmlRowPieces, List.cons_append, List.append_assoc,
        Markup.cells_view_tag (rowTag_opensCell _),
        Markup.cells_view_cells (toHtmlCells_wellFormed numbers r),
        Markup.cells_view_append rowEnd, induction]
      simp [toHtmlCells, toHtmlRecord, plainCell, Cell.text, Piece.value]

end

/-! `HtmlWriter::write`. -/

namespace HtmlWriter

/-- All that the tags of one result depend on. -/
structure Shape where
  cvss : CvssBand
  epss : EpssBand
  hasInfo : Bool
  hasOs : Bool
  hasCdn : Bool
  hasJa4s : Bool
  hasJa4x : Bool
  hasBanner : Bool
  cves : Nat
  deriving DecidableEq, Repr

def cvssTag : CvssBand → Bytes
  | .critical =>
      bytes "<td style='background:#b41e1e;color:#fff;font-weight:700;'>"
  | .high => bytes "<td style='background:#c87814;color:#fff;font-weight:700;'>"
  | .medium =>
      bytes "<td style='background:#b4aa1e;color:#fff;font-weight:700;'>"
  | .low => bytes "<td style='background:#505050;color:#fff;font-weight:700;'>"

def epssTag : EpssBand → Bytes
  | .high => bytes "<td style='background:#b41e1e;color:#fff;font-weight:700;'>"
  | .medium =>
      bytes "<td style='background:#b4aa1e;color:#fff;font-weight:700;'>"
  | .low => bytes "<td style='background:#287828;color:#fff;font-weight:700;'>"

def rowTags (shape : Shape) : List Bytes :=
  bytes "<tr>" :: (List.replicate 6 [bytes "<td>", bytes "</td>"]).flatten ++
    [cvssTag shape.cvss, bytes "</td>", epssTag shape.epss, bytes "</td>",
      bytes "<td>", bytes "</td>", bytes "</tr>"]

def paragraphTags : List Bytes :=
  [bytes "<p>", bytes "<b>", bytes "</b>", bytes "</p>"]

def codeTags : List Bytes :=
  [bytes "<p>", bytes "<b>", bytes "</b>", bytes "<code>", bytes "</code>",
    bytes "</p>"]

def bannerTags : List Bytes :=
  [bytes "<b>", bytes "</b>", bytes "<pre>", bytes "</pre>"]

def cveTags : List Bytes :=
  [bytes "<div class='cve'>", bytes "<b>", bytes "</b>", bytes "<br>",
    bytes "</div>"]

def detailTags (shape : Shape) : List Bytes :=
  [bytes "<div class='detail'>", bytes "<h3>", bytes "</h3>"] ++
    (List.replicate 4 paragraphTags).flatten ++
    (if shape.hasInfo then paragraphTags else []) ++
    (if shape.hasOs then paragraphTags else []) ++
    (if shape.hasCdn then paragraphTags else []) ++
    (if shape.hasJa4s then codeTags else []) ++
    (if shape.hasJa4x then codeTags else []) ++
    (if shape.hasBanner then bannerTags else []) ++
    (if shape.cves = 0 then []
      else [bytes "<b>", bytes "</b>"] ++
        (List.replicate shape.cves cveTags).flatten) ++
    [bytes "</div>"]

def metricTags : List Bytes :=
  [bytes "<div class='metric'>", bytes "<b>", bytes "</b>", bytes "<br>",
    bytes "</div>"]

def templateTags (shapes : List Shape) : List Bytes :=
  [bytes "<!DOCTYPE html>", bytes "<html>", bytes "<head>",
    bytes "<meta charset='UTF-8'>", bytes "<title>", bytes "</title>",
    bytes "<style>", bytes "</style>", bytes "</head>", bytes "<body>",
    bytes "<h1>", bytes "</h1>", bytes "<div class='summary'>"] ++
  (List.replicate 5 metricTags).flatten ++
  [bytes "</div>", bytes "<h2>", bytes "</h2>", bytes "<table>",
    bytes "<tr>"] ++
  (List.replicate 9 [bytes "<th>", bytes "</th>"]).flatten ++
  [bytes "</tr>"] ++
  shapes.flatMap rowTags ++
  [bytes "</table>", bytes "<h2>", bytes "</h2>"] ++
  shapes.flatMap detailTags ++
  [bytes "</body>", bytes "</html>"]

variable {F : Type} [Floating F]

def shape (r : ScanResult F) : Shape where
  cvss := cvssBand r.maxCvss
  epss := epssBand r.maxEpss
  hasInfo := !r.service.extraInfo.isEmpty
  hasOs := !r.osGuess.isEmpty
  hasCdn := !r.cdn.isEmpty
  hasJa4s := !r.ja4s.isEmpty
  hasJa4x := !r.ja4x.isEmpty
  hasBanner := !r.service.bannerRaw.isEmpty
  cves := r.cves.length

def record (r : ScanResult F) : List Bytes :=
  [decimal r.port.toNat, r.protocol, stateStr r.state, r.service.name,
    r.service.product, r.service.version, Floating.put r.maxCvss,
    percent r.maxEpss ++ bytes "%",
    Floating.put (Floating.mul r.maxCvss r.maxEpss)]

/-! The template with its fields. -/

def rowCells (r : ScanResult F) : List Cell :=
  [plainCell (.literal (decimal r.port.toNat)),
    plainCell (.field r.protocol),
    plainCell (.literal (stateStr r.state)),
    plainCell (.field r.service.name),
    plainCell (.field r.service.product),
    plainCell (.field r.service.version),
    { opening := cvssTag (cvssBand r.maxCvss)
      content := [.literal (Floating.put r.maxCvss)] },
    { opening := epssTag (epssBand r.maxEpss)
      content := [.literal (percent r.maxEpss ++ bytes "%")] },
    plainCell (.literal (Floating.put (Floating.mul r.maxCvss r.maxEpss)))]

def rowPieces (r : ScanResult F) : List Piece :=
  markup (bytes "<tr>") ++
    ((rowCells r).flatMap Cell.pieces ++ markup (bytes "</tr>\n"))

/-- Fields and plain texts between two pieces of markup. -/
structure Paragraph where
  opening : Bytes
  content : List Piece
  closing : Bytes

def Paragraph.pieces (paragraph : Paragraph) : List Piece :=
  markup paragraph.opening ++ (paragraph.content ++ markup paragraph.closing)

def ifPresentParagraph (opening value closing : Bytes) : List Paragraph :=
  if value.isEmpty then [] else [⟨opening, [.field value], closing⟩]

def cveParagraphs (cve : CveInfo F) : List Paragraph :=
  [⟨bytes "<div class='cve'><b>", [.field cve.cveId], bytes "</b> "⟩,
    ⟨bytes "(", [
      .literal (severityStr cve.severity),
      .literal (bytes ", CVSS "), .literal (Floating.put cve.cvssScore),
      .literal (bytes ", EPSS "), .literal (percent cve.epss),
      .literal (bytes "%, Percentile "), .literal (percent cve.percentile),
      .literal (bytes "%, Risk "), .literal (Floating.put cve.risk),
      .literal (bytes ", Nuclei Verified "),
      .literal (if cve.nucleiVerified then bytes "yes" else bytes "no")],
      bytes ")<br>"⟩,
    ⟨bytes "", [.field cve.description], bytes "</div>"⟩]

def cvesParagraphs (cves : List (CveInfo F)) : List Paragraph :=
  if cves.isEmpty then []
  else ⟨bytes "<b>CVEs:</b>", [], bytes ""⟩ :: cves.flatMap cveParagraphs

def fixedParagraphs (r : ScanResult F) : List Paragraph :=
  [⟨bytes "<div class='detail'>", [], bytes ""⟩,
    ⟨bytes "<h3>", [
      .field r.targetHost, .literal (bytes ":"),
      .literal (decimal r.port.toNat), .literal (bytes "/"),
      .field r.protocol, .literal (bytes " - "), .field r.service.name],
      bytes "</h3>"⟩,
    ⟨bytes "<p><b>Resolved IP:</b> ", [.field r.resolvedIp], bytes "</p>"⟩,
    ⟨bytes "<p><b>State:</b> ", [.literal (stateStr r.state)], bytes "</p>"⟩,
    ⟨bytes "<p><b>RTT:</b> ", [.literal (decimalInt r.rtt)], bytes " ms</p>"⟩,
    ⟨bytes "<p><b>Product:</b> ", [
      .field r.service.product, .literal (bytes " "),
      .field r.service.version], bytes "</p>"⟩]

def optionalParagraphs (r : ScanResult F) : List Paragraph :=
  ifPresentParagraph (bytes "<p><b>Info:</b> ") r.service.extraInfo
    (bytes "</p>") ++
  ifPresentParagraph (bytes "<p><b>OS:</b> ") r.osGuess (bytes "</p>") ++
  ifPresentParagraph (bytes "<p><b>CDN:</b> ") r.cdn (bytes "</p>") ++
  ifPresentParagraph (bytes "<p><b>JA4S:</b> <code>") r.ja4s
    (bytes "</code></p>") ++
  ifPresentParagraph (bytes "<p><b>JA4X:</b> <code>") r.ja4x
    (bytes "</code></p>") ++
  ifPresentParagraph (bytes "<b>Banner:</b><pre>") r.service.bannerRaw
    (bytes "</pre>")

def detailParagraphs (r : ScanResult F) : List Paragraph :=
  fixedParagraphs r ++ optionalParagraphs r ++ cvesParagraphs r.cves ++
    [⟨bytes "</div>\n", [], bytes ""⟩]

def metricParagraphs (results : List (ScanResult F)) : List Paragraph :=
  let totals := Totals.of results
  [⟨bytes "<div class='metric'><b>Total Ports</b><br>",
      [.literal (decimal results.length)], bytes "</div>"⟩,
    ⟨bytes "<div class='metric'><b>Open</b><br>",
      [.literal (decimal totals.opened)], bytes "</div>"⟩,
    ⟨bytes "<div class='metric'><b>Closed</b><br>",
      [.literal (decimal totals.closed)], bytes "</div>"⟩,
    ⟨bytes "<div class='metric'><b>Filtered</b><br>",
      [.literal (decimal totals.filtered)], bytes "</div>"⟩,
    ⟨bytes "<div class='metric'><b>Total CVEs</b><br>",
      [.literal (decimal totals.cves)], bytes "</div>"⟩]

def openingPieces (results : List (ScanResult F)) : List Piece :=
  headLines.flatMap markup ++
    ((metricParagraphs results).flatMap Paragraph.pieces ++ markup tableHead)

def closingParagraphs (results : List (ScanResult F)) : List Paragraph :=
  [⟨bytes "</table>\n", [], bytes "<h2>Result Details</h2>\n"⟩] ++
    results.flatMap detailParagraphs ++
    [⟨bytes "</body></html>\n", [], bytes ""⟩]

def document (results : List (ScanResult F)) : List Piece :=
  openingPieces results ++
    (results.flatMap rowPieces ++
      (closingParagraphs results).flatMap Paragraph.pieces)

theorem cvssTag_cvssBand (cvss : F) :
    cvssTag (cvssBand cvss) =
      bytes "<td style='" ++ cvssStyle cvss ++ bytes "'>" := by
  unfold cvssBand cvssStyle
  split
  · rfl
  split
  · rfl
  split <;> rfl

theorem epssTag_epssBand (epss : F) :
    epssTag (epssBand epss) =
      bytes "<td style='" ++ epssStyle epss ++ bytes "'>" := by
  unfold epssBand epssStyle
  split
  · rfl
  split <;> rfl

theorem render_rowPieces (r : ScanResult F) :
    Markup.render (rowPieces r) = row r := by
  have percentEnd : bytes "%</td>" = bytes "%" ++ bytes "</td>" := rfl
  simp [rowPieces, rowCells, row, plainCell, Cell.pieces, Piece.render,
    cvssTag_cvssBand, epssTag_epssBand, htmlEscape_eq, percentEnd]

@[simp] theorem render_paragraph (paragraph : Paragraph) :
    Markup.render paragraph.pieces =
      paragraph.opening ++
        (Markup.render paragraph.content ++ paragraph.closing) := by
  simp [Paragraph.pieces]

def rendered (paragraphs : List Paragraph) : Bytes :=
  Markup.render (paragraphs.flatMap Paragraph.pieces)

theorem rendered_cons (paragraph : Paragraph) (paragraphs : List Paragraph) :
    rendered (paragraph :: paragraphs) =
      paragraph.opening ++ (Markup.render paragraph.content ++
        (paragraph.closing ++ rendered paragraphs)) := by
  simp [rendered]

theorem rendered_append (first second : List Paragraph) :
    rendered (first ++ second) = rendered first ++ rendered second := by
  simp [rendered]

theorem rendered_ifPresent (opening value closing : Bytes) :
    rendered (ifPresentParagraph opening value closing) =
      ifPresent opening value closing := by
  unfold ifPresentParagraph ifPresent
  split
  · rfl
  · simp [rendered, Piece.render, htmlEscape_eq]

theorem rendered_cveParagraphs (cve : CveInfo F) :
    rendered (cveParagraphs cve) = cveDetail cve := by
  have empty : bytes "" = [] := rfl
  simp [cveParagraphs, cveDetail, rendered, Piece.render, htmlEscape_eq, empty]

theorem rendered_flatMap (items : List α) (paragraphs : α → List Paragraph) :
    rendered (items.flatMap paragraphs) =
      items.flatMap fun item => rendered (paragraphs item) := by
  simp only [rendered, List.flatMap_assoc, Markup.render_flatMap]

theorem rendered_cvesParagraphs (cves : List (CveInfo F)) :
    rendered (cvesParagraphs cves) = cveDetails cves := by
  have empty : bytes "" = [] := rfl
  unfold cvesParagraphs cveDetails
  split
  · rfl
  · rw [rendered_cons, rendered_flatMap]
    simp [rendered_cveParagraphs, empty]

theorem rendered_detailParagraphs (r : ScanResult F) :
    rendered (detailParagraphs r) = detail r := by
  have empty : bytes "" = [] := rfl
  have nothing : rendered [] = [] := rfl
  simp [detailParagraphs, fixedParagraphs, optionalParagraphs, rendered_append,
    rendered_cons, rendered_ifPresent, rendered_cvesParagraphs, detail,
    Piece.render, htmlEscape_eq, empty, nothing]

/-- What the writer concatenates is its template filled in. -/
theorem text_eq (results : List (ScanResult F)) :
    text results = Markup.render (document results) := by
  have empty : bytes "" = [] := rfl
  have nothing : rendered [] = [] := rfl
  have metrics : rendered (metricParagraphs results) = summary results := by
    simp [metricParagraphs, rendered_cons, summary, Piece.render, nothing]
  have closing : rendered (closingParagraphs results) =
      bytes "</table>\n" ++ (bytes "<h2>Result Details</h2>\n" ++
        (results.flatMap detail ++ bytes "</body></html>\n")) := by
    simp [closingParagraphs, rendered_append, rendered_cons, rendered_flatMap,
      rendered_detailParagraphs, empty, nothing]
  simp only [rendered] at metrics closing
  simp [document, text, openingPieces, metrics, closing, render_rowPieces, head,
    puts]

/-! Nothing but the rows of the table opens a cell. -/

def Outside (pieces : List Piece) : Prop :=
  ∀ piece ∈ pieces,
    piece.WellFormed ∧ piece.tag?.all (fun tag => !Markup.opensCell tag) = true

instance (pieces : List Piece) : Decidable (Outside pieces) :=
  inferInstanceAs (Decidable (∀ piece ∈ pieces, _))

theorem outside_nil : Outside [] := nofun

theorem outside_append {first second : List Piece} :
    Outside (first ++ second) ↔ Outside first ∧ Outside second :=
  List.forall_mem_append

theorem outside_field {value : Bytes} {rest : List Piece} :
    Outside (.field value :: rest) ↔ Outside rest := by
  simp [Outside, Piece.WellFormed, Piece.tag?]

theorem outside_literal {text : Bytes} {rest : List Piece} :
    Outside (.literal text :: rest) ↔ Harmless text ∧ Outside rest := by
  simp [Outside, Piece.WellFormed, Piece.tag?, Harmless]

theorem outside_flatMap {items : List α} {pieces : α → List Piece}
    (each : ∀ item ∈ items, Outside (pieces item)) :
    Outside (items.flatMap pieces) := by
  intro piece member
  obtain ⟨item, inItems, inPieces⟩ := List.mem_flatMap.mp member
  exact each item inItems piece inPieces

theorem Outside.noCells {pieces : List Piece} (outside : Outside pieces) :
    ∀ content ∈ pieces.filterMap Piece.tag?,
      Markup.opensCell content = false := by
  intro content member
  obtain ⟨piece, inPieces, isTag⟩ := List.mem_filterMap.mp member
  have closed := (outside piece inPieces).2
  simpa [isTag] using closed

theorem outside_ifPresent {opening closing : Bytes} (value : Bytes)
    (openingOutside : Outside (markup opening))
    (closingOutside : Outside (markup closing)) :
    Outside ((ifPresentParagraph opening value closing).flatMap
      Paragraph.pieces) := by
  unfold ifPresentParagraph
  split
  · exact outside_nil
  · simp only [List.flatMap_cons, List.flatMap_nil, Paragraph.pieces,
      outside_append, outside_field, outside_nil, openingOutside,
      closingOutside, and_self]

omit [Floating F] in
theorem outside_fixedParagraphs (r : ScanResult F) :
    Outside ((fixedParagraphs r).flatMap Paragraph.pieces) := by
  simp only [fixedParagraphs, List.flatMap_cons, List.flatMap_nil,
    Paragraph.pieces, outside_append, outside_field, outside_literal,
    outside_nil, harmless_decimal, harmless_decimalInt, harmless_stateStr,
    true_and, and_true]
  decide

omit [Floating F] in
theorem outside_optionalParagraphs (r : ScanResult F) :
    Outside ((optionalParagraphs r).flatMap Paragraph.pieces) := by
  simp only [optionalParagraphs, List.flatMap_append, outside_append]
  refine ⟨⟨⟨⟨⟨?_, ?_⟩, ?_⟩, ?_⟩, ?_⟩, ?_⟩ <;>
    exact outside_ifPresent _ (by decide) (by decide)

theorem outside_cveParagraphs (numbers : PrintsWithout F MarkupReserved)
    (cve : CveInfo F) :
    Outside ((cveParagraphs cve).flatMap Paragraph.pieces) := by
  have verified :
      Harmless (if cve.nucleiVerified then bytes "yes" else bytes "no") := by
    split <;> decide
  have put : ∀ x : F, Harmless (Floating.put x) :=
    fun x => harmless_of_unreserved (numbers.put x)
  simp only [cveParagraphs, List.flatMap_cons, List.flatMap_nil,
    Paragraph.pieces, outside_append, outside_field, outside_literal,
    outside_nil, harmless_severityStr, percent, harmless_decimalInt, put,
    verified, true_and, and_true]
  decide

theorem outside_detailParagraphs (numbers : PrintsWithout F MarkupReserved)
    (r : ScanResult F) :
    Outside ((detailParagraphs r).flatMap Paragraph.pieces) := by
  have cves : Outside ((cvesParagraphs r.cves).flatMap Paragraph.pieces) := by
    unfold cvesParagraphs
    split
    · exact outside_nil
    · rw [List.flatMap_cons, List.flatMap_assoc, outside_append]
      exact ⟨by decide,
        outside_flatMap fun cve _ => outside_cveParagraphs numbers cve⟩
  simp only [detailParagraphs, List.flatMap_append, outside_append]
  exact ⟨⟨⟨outside_fixedParagraphs r, outside_optionalParagraphs r⟩, cves⟩,
    by decide⟩

omit [Floating F] in
theorem outside_openingPieces (results : List (ScanResult F)) :
    Outside (openingPieces results) := by
  simp only [openingPieces, metricParagraphs, List.flatMap_cons,
    List.flatMap_nil, Paragraph.pieces, outside_append, outside_literal,
    outside_nil, harmless_decimal, true_and, and_true]
  decide +kernel

theorem outside_closingParagraphs (numbers : PrintsWithout F MarkupReserved)
    (results : List (ScanResult F)) :
    Outside ((closingParagraphs results).flatMap Paragraph.pieces) := by
  simp only [closingParagraphs, List.flatMap_append, List.flatMap_assoc,
    outside_append]
  exact ⟨⟨by decide,
    outside_flatMap fun r _ => outside_detailParagraphs numbers r⟩, by decide⟩

theorem cvssTag_isTag (band : CvssBand) : Markup.IsTag (cvssTag band) := by
  cases band <;> decide

theorem epssTag_isTag (band : EpssBand) : Markup.IsTag (epssTag band) := by
  cases band <;> decide

theorem cvssTag_opensCell (band : CvssBand) :
    Markup.opensCell (cvssTag band) = true := by
  cases band <;> rfl

theorem epssTag_opensCell (band : EpssBand) :
    Markup.opensCell (epssTag band) = true := by
  cases band <;> rfl

theorem harmless_percentSign (x : F) : Harmless (percent x ++ bytes "%") := by
  have digits : Harmless (percent x) := harmless_decimalInt _
  have sign : Harmless (bytes "%") := by decide
  simp only [Harmless, List.mem_append, not_or]
  exact ⟨⟨digits.1, sign.1⟩, digits.2, sign.2⟩

theorem rowCells_wellFormed (numbers : PrintsWithout F MarkupReserved)
    (r : ScanResult F) : ∀ cell ∈ rowCells r, cell.WellFormed := by
  have put : ∀ x : F, Harmless (Floating.put x) :=
    fun x => harmless_of_unreserved (numbers.put x)
  have cvss : Cell.WellFormed
      ⟨cvssTag (cvssBand r.maxCvss), [.literal (Floating.put r.maxCvss)]⟩ :=
    cell_wellFormed (cvssTag_isTag _) (cvssTag_opensCell _) (put _) rfl
  have epss : Cell.WellFormed
      ⟨epssTag (epssBand r.maxEpss),
        [.literal (percent r.maxEpss ++ bytes "%")]⟩ :=
    cell_wellFormed (epssTag_isTag _) (epssTag_opensCell _)
      (harmless_percentSign _) rfl
  simp [rowCells, plainCell_field, plainCell_literal, harmless_decimal,
    harmless_stateStr, put, cvss, epss]

theorem rowPieces_wellFormed (numbers : PrintsWithout F MarkupReserved)
    (r : ScanResult F) : ∀ piece ∈ rowPieces r, piece.WellFormed := by
  have opening : ∀ piece ∈ markup (bytes "<tr>"), piece.WellFormed := by decide
  have closing : ∀ piece ∈ markup (bytes "</tr>\n"), piece.WellFormed := by
    decide
  intro piece member
  simp only [rowPieces, List.mem_append, List.mem_flatMap] at member
  rcases member with inOpening | ⟨cell, inRow, inCell⟩ | inClosing
  · exact opening piece inOpening
  · exact (rowCells_wellFormed numbers r cell inRow).pieces piece inCell
  · exact closing piece inClosing

theorem document_wellFormed (numbers : PrintsWithout F MarkupReserved)
    (results : List (ScanResult F)) :
    ∀ piece ∈ document results, piece.WellFormed := by
  intro piece member
  simp only [document, List.mem_append] at member
  rcases member with inOpening | inRows | inClosing
  · exact (outside_openingPieces results piece inOpening).1
  · obtain ⟨r, _, inRow⟩ := List.mem_flatMap.mp inRows
    exact rowPieces_wellFormed numbers r piece inRow
  · exact (outside_closingParagraphs numbers results piece inClosing).1

/-! The tags of each part. -/

def tagsOf (paragraphs : List Paragraph) : List Bytes :=
  (paragraphs.flatMap Paragraph.pieces).filterMap Piece.tag?

theorem tagsOf_append (first second : List Paragraph) :
    tagsOf (first ++ second) = tagsOf first ++ tagsOf second := by
  simp [tagsOf]

theorem tagsOf_flatMap (items : List α) (paragraphs : α → List Paragraph) :
    tagsOf (items.flatMap paragraphs) =
      items.flatMap fun item => tagsOf (paragraphs item) := by
  simp only [tagsOf, List.flatMap_assoc, List.filterMap_flatMap]

theorem tagsOf_ifPresent (opening value closing : Bytes) :
    tagsOf (ifPresentParagraph opening value closing) =
      if !value.isEmpty then Markup.tags opening ++ Markup.tags closing
      else [] := by
  unfold ifPresentParagraph
  cases value with
  | nil => rfl
  | cons b value =>
      simp [tagsOf, Paragraph.pieces, List.filterMap_cons, Piece.tag?]

omit [Floating F] in
theorem tagsOf_optionalParagraphs (r : ScanResult F) :
    tagsOf (optionalParagraphs r) =
      (if !r.service.extraInfo.isEmpty then paragraphTags else []) ++
      (if !r.osGuess.isEmpty then paragraphTags else []) ++
      (if !r.cdn.isEmpty then paragraphTags else []) ++
      (if !r.ja4s.isEmpty then codeTags else []) ++
      (if !r.ja4x.isEmpty then codeTags else []) ++
      (if !r.service.bannerRaw.isEmpty then bannerTags else []) := by
  simp only [optionalParagraphs, tagsOf_append, tagsOf_ifPresent]
  rfl

theorem tagsOf_cvesParagraphs (cves : List (CveInfo F)) :
    tagsOf (cvesParagraphs cves) =
      if cves.length = 0 then []
      else [bytes "<b>", bytes "</b>"] ++
        (List.replicate cves.length cveTags).flatten := by
  cases cves with
  | nil => rfl
  | cons first others =>
      have each : (fun cve : CveInfo F => tagsOf (cveParagraphs cve)) =
          fun _ => cveTags := rfl
      have every : tagsOf ((first :: others).flatMap cveParagraphs) =
          (List.replicate (first :: others).length cveTags).flatten := by
        rw [tagsOf_flatMap, each, List.flatMap_def, List.map_const']
      rw [← every]
      rfl

theorem tagsOf_detailParagraphs (r : ScanResult F) :
    tagsOf (detailParagraphs r) = detailTags (shape r) := by
  have fixed : tagsOf (fixedParagraphs r) =
      [bytes "<div class='detail'>", bytes "<h3>", bytes "</h3>"] ++
        (List.replicate 4 paragraphTags).flatten := rfl
  have ending : tagsOf [⟨bytes "</div>\n", [], bytes ""⟩] =
      [bytes "</div>"] := rfl
  simp only [detailParagraphs, tagsOf_append, fixed, tagsOf_optionalParagraphs,
    tagsOf_cvesParagraphs, ending, detailTags, shape, List.append_assoc]
  rfl

theorem tags_rowPieces (r : ScanResult F) :
    (rowPieces r).filterMap Piece.tag? = rowTags (shape r) := rfl

theorem tags_text (numbers : PrintsWithout F MarkupReserved)
    (results : List (ScanResult F)) :
    Markup.tags (text results) = templateTags (results.map shape) := by
  have headTags : (headLines.flatMap markup).filterMap Piece.tag? =
      [bytes "<!DOCTYPE html>", bytes "<html>", bytes "<head>",
        bytes "<meta charset='UTF-8'>", bytes "<title>", bytes "</title>",
        bytes "<style>", bytes "</style>", bytes "</head>", bytes "<body>",
        bytes "<h1>", bytes "</h1>", bytes "<div class='summary'>"] := by
    decide +kernel
  have tableTags : Markup.tags tableHead =
      [bytes "</div>", bytes "<h2>", bytes "</h2>", bytes "<table>",
        bytes "<tr>"] ++
      (List.replicate 9 [bytes "<th>", bytes "</th>"]).flatten ++
      [bytes "</tr>"] := by
    decide +kernel
  have metrics : tagsOf (metricParagraphs results) =
      (List.replicate 5 metricTags).flatten := rfl
  have closing : tagsOf (closingParagraphs results) =
      [bytes "</table>", bytes "<h2>", bytes "</h2>"] ++
        (results.map shape).flatMap detailTags ++
        [bytes "</body>", bytes "</html>"] := by
    have first : tagsOf [⟨bytes "</table>\n", [],
        bytes "<h2>Result Details</h2>\n"⟩] =
        [bytes "</table>", bytes "<h2>", bytes "</h2>"] := rfl
    have last : tagsOf [⟨bytes "</body></html>\n", [], bytes ""⟩] =
        [bytes "</body>", bytes "</html>"] := rfl
    simp only [closingParagraphs, tagsOf_append, tagsOf_flatMap,
      tagsOf_detailParagraphs, first, last, List.flatMap_map]
  rw [tagsOf] at metrics closing
  rw [text_eq, Markup.tags_render (document_wellFormed numbers results)]
  simp only [document, openingPieces, List.filterMap_append, headTags, metrics,
    Markup.filterMap_tag?_markup, tableTags, closing, templateTags,
    List.append_assoc]
  rw [List.filterMap_flatMap]
  simp only [tags_rowPieces, List.flatMap_map]

theorem cells_text (numbers : PrintsWithout F MarkupReserved)
    (results : List (ScanResult F)) :
    Markup.cells ((Markup.tokens (text results)).map Markup.Token.decode) =
      results.flatMap record := by
  have rowEnd : ∀ content ∈ (markup (bytes "</tr>\n")).filterMap Piece.tag?,
      Markup.opensCell content = false := by decide
  have rowStart : ∀ content ∈ (markup (bytes "<tr>")).filterMap Piece.tag?,
      Markup.opensCell content = false := by decide
  have closing := Markup.cells_view_append
    (outside_closingParagraphs numbers results).noCells [] []
  rw [List.append_nil] at closing
  rw [text_eq, Markup.map_decode_tokens (document_wellFormed numbers results),
    document,
    Markup.cells_view_append (outside_openingPieces results).noCells]
  generalize (closingParagraphs results).flatMap Paragraph.pieces = ending
    at closing
  induction results with
  | nil => exact closing
  | cons r results induction =>
      rw [List.flatMap_cons, List.flatMap_cons, List.append_assoc, rowPieces,
        List.append_assoc, Markup.cells_view_append rowStart, List.append_assoc,
        Markup.cells_view_cells (rowCells_wellFormed numbers r),
        Markup.cells_view_append rowEnd, induction]
      simp [rowCells, record, plainCell, Cell.text, Piece.value]

end HtmlWriter

section

variable {F : Type} [Floating F]

/-- Both reports split into the tags of their templates, which depend on the
shapes of the results only, and everything between the tags decodes to the
template's texts around the fields as they are; in the cells of the tables that
is the data of each row. -/
theorem html_reports_split (numbers : PrintsWithout F MarkupReserved)
    (results : List (ScanResult F)) :
    (Markup.tags (toHtml results) = toHtmlTags (results.map toHtmlShape) ∧
      (∀ others : List (ScanResult F),
        others.map toHtmlShape = results.map toHtmlShape →
          Markup.tags (toHtml others) = Markup.tags (toHtml results)) ∧
      Markup.cells ((Markup.tokens (toHtml results)).map Markup.Token.decode) =
        results.flatMap toHtmlRecord ∧
      (Markup.tokens (toHtml results)).map Markup.Token.decode =
        Markup.view [] (toHtmlDocument results)) ∧
    ∀ opens path, opens path = true →
      ∃ text, HtmlWriter.write opens path results = .ok text ∧
        Markup.tags text =
          HtmlWriter.templateTags (results.map HtmlWriter.shape) ∧
        (∀ (others : List (ScanResult F)) (text' : Bytes),
          others.map HtmlWriter.shape = results.map HtmlWriter.shape →
            HtmlWriter.write opens path others = .ok text' →
              Markup.tags text' = Markup.tags text) ∧
        Markup.cells ((Markup.tokens text).map Markup.Token.decode) =
          results.flatMap HtmlWriter.record ∧
        (Markup.tokens text).map Markup.Token.decode =
          Markup.view [] (HtmlWriter.document results) := by
  constructor
  · refine ⟨tags_toHtml numbers results, ?_, cells_toHtml numbers results, ?_⟩
    · intro others agree
      rw [tags_toHtml numbers others, tags_toHtml numbers results, agree]
    · rw [toHtml_eq]
      exact Markup.map_decode_tokens (toHtmlDocument_wellFormed numbers results)
  · intro opens path opened
    refine ⟨HtmlWriter.text results, ?_, HtmlWriter.tags_text numbers results,
      ?_, HtmlWriter.cells_text numbers results, ?_⟩
    · simp [HtmlWriter.write, writeFile, opened]
    · intro others text' agree written
      have same : HtmlWriter.text others = text' := by
        simpa [HtmlWriter.write, writeFile, opened] using written
      rw [← same, HtmlWriter.tags_text numbers others,
        HtmlWriter.tags_text numbers results, agree]
    · rw [HtmlWriter.text_eq]
      exact Markup.map_decode_tokens
        (HtmlWriter.document_wellFormed numbers results)

end

/-- A service name that would close its cell and open a script. -/
def injectingResult : ScanResult ℚ where
  targetHost := bytes "h"
  port := 80
  state := .opened
  service := { name := bytes "</td><script>&lt;", bannerRaw := bytes "\"'" }
  cves := [{
    cveId := bytes "<b>", description := bytes ">", cvssScore := 9.8
    severity := .critical, epss := 0.5, percentile := 0.75
    nucleiVerified := false }]

theorem html_reports_split_injectingResult :
    Markup.tags (toHtml [injectingResult]) = toHtmlTags [.critical] ∧
      Markup.cells ((Markup.tokens (toHtml [injectingResult])).map
        Markup.Token.decode) = toHtmlRecord injectingResult := by
  have unreserved : ∀ b, IsNumeral b → ¬ MarkupReserved b := by
    rintro b numeral (rfl | rfl) <;> revert numeral <;>
      simp [IsNumeral, IsDigit, Markup.less, Markup.ampersand]
  have split := (html_reports_split (Exact.printsWithout unreserved)
    [injectingResult]).1
  have shapes : [injectingResult].map toHtmlShape = [.critical] := by
    decide +kernel
  rw [shapes] at split
  exact ⟨split.1, split.2.2.1.trans (List.append_nil _)⟩

end ServicePortScanner.Report
