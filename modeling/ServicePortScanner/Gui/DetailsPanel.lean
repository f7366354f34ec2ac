import ServicePortScanner.Core.ExactFloating
import ServicePortScanner.Data.FilledTemplate

namespace ServicePortScanner.Gui.DetailsPanel

open ServicePortScanner.Data
open ServicePortScanner.Core
open ServicePortScanner.Data.PlaceMarkers

/-! `DetailsPanel::showResult`.  A `QString` is given by its UTF-8 bytes. -/

/-- What Qt does with texts and numbers. -/
structure Qt (F : Type) where
  fromStdString : Bytes → Bytes
  left : Bytes → Nat → Bytes
  /-- The format 'f' with a number of digits behind the point. -/
  fixed : F → Nat → Bytes
  /-- A number as the locale writes it, for the markers that ask for it. -/
  localized : Bytes → Bytes
  round : F → Int

def toHtmlEscaped (text : Bytes) : Bytes :=
  text.flatMap fun b =>
    if b = 0x3c then bytes "&lt;"
    else if b = 0x3e then bytes "&gt;"
    else if b = 0x26 then bytes "&amp;"
    else if b = 0x22 then bytes "&quot;"
    else [b]

/-! Texts that escaping leaves as they are. -/

def IsPlain (text : Bytes) : Prop :=
  ∀ b ∈ text, b ≠ 0x3c ∧ b ≠ 0x3e ∧ b ≠ 0x26 ∧ b ≠ 0x22

theorem toHtmlEscaped_cons (b : UInt8) (text : Bytes) :
    toHtmlEscaped (b :: text) = toHtmlEscaped [b] ++ toHtmlEscaped text := by
  simp [toHtmlEscaped]

theorem toHtmlEscaped_byte (b : UInt8) :
    toHtmlEscaped [b] = [b] ∧ (b ≠ 0x3c ∧ b ≠ 0x3e ∧ b ≠ 0x26 ∧ b ≠ 0x22) ∨
      1 < (toHtmlEscaped [b]).length ∧
        ¬ (b ≠ 0x3c ∧ b ≠ 0x3e ∧ b ≠ 0x26 ∧ b ≠ 0x22) := by
  unfold toHtmlEscaped
  rw [List.flatMap_singleton]
  split_ifs with lt gt amp quot
  · exact .inr ⟨by decide, fun all => all.1 lt⟩
  · exact .inr ⟨by decide, fun all => all.2.1 gt⟩
  · exact .inr ⟨by decide, fun all => all.2.2.1 amp⟩
  · exact .inr ⟨by decide, fun all => all.2.2.2 quot⟩
  · exact .inl ⟨rfl, lt, gt, amp, quot⟩

theorem length_le_toHtmlEscaped (text : Bytes) :
    text.length ≤ (toHtmlEscaped text).length := by
  induction text with
  | nil => exact Nat.le_refl 0
  | cons b text induction =>
      have head : 1 ≤ (toHtmlEscaped [b]).length := by
        rcases toHtmlEscaped_byte b with ⟨same, _⟩ | ⟨longer, _⟩
        · simp [same]
        · exact Nat.le_of_lt longer
      rw [toHtmlEscaped_cons, List.length_append, List.length_cons]
      omega

theorem toHtmlEscaped_plain {text : Bytes} (plain : IsPlain text) :
    toHtmlEscaped text = text := by
  induction text with
  | nil => rfl
  | cons b text induction =>
      obtain ⟨first, rest⟩ := List.forall_mem_cons.mp plain
      rw [toHtmlEscaped_cons, induction rest]
      rcases toHtmlEscaped_byte b with ⟨same, _⟩ | ⟨_, special⟩
      · rw [same]
        rfl
      · exact absurd first special

/-- Any byte that is escaped makes the text longer. -/
theorem isPlain_of_length {text : Bytes}
    (same : (toHtmlEscaped text).length = text.length) : IsPlain text := by
  induction text with
  | nil => exact fun _ member => by cases member
  | cons b text induction =>
      have rest := length_le_toHtmlEscaped text
      rw [toHtmlEscaped_cons, List.length_append, List.length_cons] at same
      rcases toHtmlEscaped_byte b with ⟨kept, plain⟩ | ⟨longer, _⟩
      · rw [kept, List.length_singleton] at same
        exact List.forall_mem_cons.mpr ⟨plain, induction (by omega)⟩
      · omega

theorem eq_toHtmlEscaped_iff (text : Bytes) :
    text = toHtmlEscaped text ↔ IsPlain text := by
  constructor
  · intro same
    exact isPlain_of_length (congrArg List.length same).symm
  · intro plain
    exact (toHtmlEscaped_plain plain).symm

section

variable {F : Type} [Floating F] (qt : Qt F)

def Qt.string (s : Bytes) : Argument UInt8 :=
  ⟨qt.fromStdString s, qt.fromStdString s⟩

def Qt.number (text : Bytes) : Argument UInt8 :=
  ⟨text, qt.localized text⟩

def text (literal : Bytes) : Argument UInt8 :=
  ⟨literal, literal⟩

def cvssHtmlColor (score : F) : Bytes :=
  if Floating.le (Floating.literal 9) score then bytes "#4a1010"
  else if Floating.le (Floating.literal 7) score then bytes "#4a2a08"
  else if Floating.le (Floating.literal 4) score then bytes "#3a3508"
  else bytes "#2a2a2a"

def epssHtmlColor (epss : F) : Bytes :=
  if Floating.le (Floating.literal 0.50) epss then bytes "#b41e1e"
  else if Floating.le (Floating.literal 0.10) epss then bytes "#b4aa1e"
  else bytes "#287828"

def heading (r : ScanResult F) : Bytes :=
  args id (bytes "<h3>%1:%2/%3 &mdash; %4</h3>")
    [qt.string r.targetHost, qt.number (decimal r.port.toNat),
      qt.string r.protocol, qt.string r.service.name]

def product (r : ScanResult F) : Bytes :=
  args id (bytes "<b>Product:</b> %1 %2<br>")
    [qt.string r.service.product, qt.string r.service.version]

def info (r : ScanResult F) : Bytes :=
  if r.service.extraInfo ≠ [] then
    args id (bytes "<b>Info:</b> %1<br>") [qt.string r.service.extraInfo]
  else []

def rtt (r : ScanResult F) : Bytes :=
  args id (bytes "<b>RTT:</b> %1 ms<br>") [qt.number (decimalInt r.rtt)]

def riskScore (r : ScanResult F) : Bytes :=
  args id (bytes "<b>Risk Score:</b> %1<br><br>")
    [qt.number (qt.fixed r.maxRisk 2)]

def banner (r : ScanResult F) : Bytes :=
  if r.service.bannerRaw ≠ [] then
    bytes "<b>Banner:</b><pre style='background:#1a1a1a; padding:8px;'>" ++
      qt.left (toHtmlEscaped (qt.fromStdString r.service.bannerRaw)) 512 ++
      bytes "</pre><br>"
  else []

def fingerprints (r : ScanResult F) : Bytes :=
  (if r.osGuess ≠ [] then
    bytes "<b>OS:</b> " ++ toHtmlEscaped (qt.fromStdString r.osGuess) ++
      bytes "<br>"
  else []) ++
  (if r.cdn ≠ [] then
    bytes "<b>CDN/WAF:</b> " ++ toHtmlEscaped (qt.fromStdString r.cdn) ++
      bytes "<br>"
  else []) ++
  (if r.ja4s ≠ [] then
    bytes "<b>JA4S:</b> <code>" ++ toHtmlEscaped (qt.fromStdString r.ja4s) ++
      bytes "</code><br>"
  else []) ++
  (if r.ja4x ≠ [] then
    bytes "<b>JA4X:</b> <code>" ++ toHtmlEscaped (qt.fromStdString r.ja4x) ++
      bytes "</code><br>"
  else []) ++
  (if r.osGuess ≠ [] ∨ r.cdn ≠ [] ∨ r.ja4s ≠ [] ∨ r.ja4x ≠ [] then
    bytes "<br>"
  else [])

/-- `qRound(x * 100.0)` -/
def Qt.percentage (x : F) : Bytes :=
  decimalInt (qt.round (Floating.mul x (Floating.literal 100)))

def yesNo (verified : Bool) : Bytes :=
  if verified then bytes "yes" else bytes "no"

def cveTemplate : Bytes :=
  bytes "<div style='margin-bottom:8px; padding:6px; " ++
  bytes "background:%1; border-radius:4px;'>" ++
  bytes "<b>%2</b> &mdash; CVSS: %3 | " ++
  bytes "<span style='background:%4; color:#ffffff; font-weight:bold; " ++
  bytes "padding:1px 5px; border-radius:3px;'>EPSS: %5&#37;</span> " ++
  bytes "<span>Percentile: %6&#37;</span><br>" ++
  bytes "<b>Risk Score:</b> %7<br>" ++
  bytes "<b>Nuclei Verified:</b> %8<br>" ++
  bytes "<small>%9</small></div>"

def cveBlock (cve : CveInfo F) : Bytes :=
  args id cveTemplate
    [text (cvssHtmlColor cve.cvssScore), qt.string cve.cveId,
      qt.number (qt.fixed cve.cvssScore 1), text (epssHtmlColor cve.epss),
      qt.number (qt.percentage cve.epss),
      qt.number (qt.percentage cve.percentile),
      qt.number (qt.fixed cve.risk 2), text (yesNo cve.nucleiVerified),
      text (toHtmlEscaped (qt.fromStdString cve.description))]

def vulnerabilities (r : ScanResult F) : Bytes :=
  if r.cves ≠ [] then
    bytes "<h4>Vulnerabilities</h4>" ++ r.cves.flatMap (cveBlock qt)
  else bytes "<i>No known CVEs</i>"

def showResult (r : ScanResult F) : Bytes :=
  heading qt r ++ product qt r ++ info qt r ++ rtt qt r ++ riskScore qt r ++
    banner qt r ++ fingerprints qt r ++ vulnerabilities qt r

/-! The skeleton of the panel, with holes for the fields. -/

/-- What a hole is to show: the text passed for it, or this text escaped. -/
def Shows (argument : Argument UInt8) (text : Bytes) : Prop :=
  text = argument.text ∨ text = toHtmlEscaped argument.text

theorem Shows.length_le {argument : Argument UInt8} {text : Bytes}
    (shows : Shows argument text) : argument.text.length ≤ text.length := by
  rcases shows with rfl | rfl
  · exact Nat.le_refl _
  · exact length_le_toHtmlEscaped _

theorem Shows.eq_of_length {argument : Argument UInt8} {text : Bytes}
    (shows : Shows argument text)
    (same : argument.text.length = text.length) : argument.text = text := by
  rcases shows with rfl | rfl
  · rfl
  · exact (toHtmlEscaped_plain (isPlain_of_length same.symm)).symm

theorem Shows.lengths_le {arguments : List (Argument UInt8)}
    {shown : List Bytes} (shows : List.Forall₂ Shows arguments shown) :
    List.Forall₂ (fun text other => text.length ≤ other.length)
      (arguments.map Argument.text) shown := by
  rw [List.forall₂_map_left_iff]
  exact shows.imp fun _ _ => Shows.length_le

theorem Shows.texts_eq_of_length {arguments : List (Argument UInt8)}
    {shown literals : List Bytes} (shows : List.Forall₂ Shows arguments shown)
    (sameLength : arguments.length = literals.length)
    (same : (fill literals (arguments.map Argument.text)).length =
      (fill literals shown).length) :
    arguments.map Argument.text = shown := by
  induction shows generalizing literals with
  | nil => rfl
  | cons head following induction =>
      cases literals with
      | nil => cases sameLength
      | cons literal rest =>
          have headLe := head.length_le
          have tailLe := @PlaceMarkers.length_fill_le rest _ _
            (Shows.lengths_le following)
          simp only [List.map_cons, fill, List.length_append] at same
          have first := head.eq_of_length (by omega)
          have tail := induction (Nat.succ.inj sameLength) (by omega)
          rw [List.map_cons, first, tail]

/-- A template, what the panel passes for its holes, and what these show. -/
structure Line where
  template : Template
  arguments : List (Argument UInt8)
  shown : List Bytes
  sameLength : arguments.length = template.literals.length
  shows : List.Forall₂ Shows arguments shown

namespace Line

def skeleton (line : Line) : Bytes :=
  line.template.filled line.shown

def html (line : Line) : Bytes :=
  args id line.template.text line.arguments

/-- With the origins of the characters too, the text is the skeleton with each
hole filled by what its own field shows. -/
def ShowsFields (line : Line) : Prop :=
  line.template.tracedArgs line.arguments =
    line.template.tracedFilled line.shown

/-- No argument brings in a marker that a later one could fill. -/
def IsInert (line : Line) : Prop :=
  Inert (1 + line.template.literals.length) line.arguments

theorem ShowsFields.html_eq {line : Line} (shows : line.ShowsFields) :
    line.html = line.skeleton := by
  rw [html, ← Template.map_tracedArgs, shows, Template.map_tracedFilled,
    skeleton]

theorem showsFields_iff (line : Line) :
    line.ShowsFields ↔
      line.arguments.map Argument.text = line.shown ∧ line.IsInert :=
  Template.tracedArgs_iff line.sameLength (Shows.lengths_le line.shows)

theorem IsInert.html_eq {line : Line} (inert : line.IsInert) :
    line.html = line.template.filled (line.arguments.map Argument.text) := by
  have traced : line.template.tracedArgs line.arguments =
      line.template.tracedFilled (line.arguments.map Argument.text) :=
    (Template.tracedArgs_iff line.sameLength
      (List.forall₂_same.mpr fun _ _ => Nat.le_refl _)).mpr ⟨rfl, inert⟩
  rw [html, ← Template.map_tracedArgs, traced, Template.map_tracedFilled]

theorem IsInert.length_html_le {line : Line} (inert : line.IsInert) :
    line.html.length ≤ line.skeleton.length := by
  rw [inert.html_eq, skeleton, Template.filled, Template.filled,
    List.length_append, List.length_append]
  exact Nat.add_le_add_left
    (length_fill_le (Shows.lengths_le line.shows)) _

/-- Where no marker is brought in, the text alone tells whether each hole shows
its field: escaping only makes texts longer. -/
theorem IsInert.showsFields {line : Line} (inert : line.IsInert)
    (same : line.html.length = line.skeleton.length) : line.ShowsFields := by
  rw [inert.html_eq, skeleton, Template.filled, Template.filled,
    List.length_append, List.length_append] at same
  exact (showsFields_iff line).mpr
    ⟨Shows.texts_eq_of_length line.shows line.sameLength (by omega), inert⟩

end Line

def headingTemplate : Template where
  head := bytes "<h3>"
  literals := [bytes ":", bytes "/", bytes " &mdash; ", bytes "</h3>"]
  plain := by decide
  areLiteral := by decide
  few := by decide

def productTemplate : Template where
  head := bytes "<b>Product:</b> "
  literals := [bytes " ", bytes "<br>"]
  plain := by decide
  areLiteral := by decide
  few := by decide

def infoTemplate : Template where
  head := bytes "<b>Info:</b> "
  literals := [bytes "<br>"]
  plain := by decide
  areLiteral := by decide
  few := by decide

def rttTemplate : Template where
  head := bytes "<b>RTT:</b> "
  literals := [bytes " ms<br>"]
  plain := by decide
  areLiteral := by decide
  few := by decide

def riskScoreTemplate : Template where
  head := bytes "<b>Risk Score:</b> "
  literals := [bytes "<br><br>"]
  plain := by decide
  areLiteral := by decide
  few := by decide

def cveParts : Template where
  head := bytes "<div style='margin-bottom:8px; padding:6px; background:"
  literals := [bytes "; border-radius:4px;'><b>",
    bytes "</b> &mdash; CVSS: ", bytes " | <span style='background:",
    bytes "; color:#ffffff; font-weight:bold; padding:1px 5px; " ++
      bytes "border-radius:3px;'>EPSS: ",
    bytes "&#37;</span> <span>Percentile: ",
    bytes "&#37;</span><br><b>Risk Score:</b> ",
    bytes "<br><b>Nuclei Verified:</b> ", bytes "<br><small>",
    bytes "</small></div>"]
  plain := by decide +kernel
  areLiteral := by decide +kernel
  few := by decide

def headingLine (r : ScanResult F) : Line where
  template := headingTemplate
  arguments := [qt.string r.targetHost, qt.number (decimal r.port.toNat),
    qt.string r.protocol, qt.string r.service.name]
  shown := [toHtmlEscaped (qt.fromStdString r.targetHost),
    decimal r.port.toNat, toHtmlEscaped (qt.fromStdString r.protocol),
    toHtmlEscaped (qt.fromStdString r.service.name)]
  sameLength := rfl
  shows := by simp [Shows, Qt.string, Qt.number]

def productLine (r : ScanResult F) : Line where
  template := productTemplate
  arguments := [qt.string r.service.product, qt.string r.service.version]
  shown := [toHtmlEscaped (qt.fromStdString r.service.product),
    toHtmlEscaped (qt.fromStdString r.service.version)]
  sameLength := rfl
  shows := by simp [Shows, Qt.string]

def infoLine (r : ScanResult F) : Line where
  template := infoTemplate
  arguments := [qt.string r.service.extraInfo]
  shown := [toHtmlEscaped (qt.fromStdString r.service.extraInfo)]
  sameLength := rfl
  shows := by simp [Shows, Qt.string]

def rttLine (r : ScanResult F) : Line where
  template := rttTemplate
  arguments := [qt.number (decimalInt r.rtt)]
  shown := [decimalInt r.rtt]
  sameLength := rfl
  shows := by simp [Shows, Qt.number]

def riskScoreLine (r : ScanResult F) : Line where
  template := riskScoreTemplate
  arguments := [qt.number (qt.fixed r.maxRisk 2)]
  shown := [qt.fixed r.maxRisk 2]
  sameLength := rfl
  shows := by simp [Shows, Qt.number]

def cveLine (cve : CveInfo F) : Line where
  template := cveParts
  arguments := [text (cvssHtmlColor cve.cvssScore), qt.string cve.cveId,
    qt.number (qt.fixed cve.cvssScore 1), text (epssHtmlColor cve.epss),
    qt.number (qt.percentage cve.epss),
    qt.number (qt.percentage cve.percentile),
    qt.number (qt.fixed cve.risk 2), text (yesNo cve.nucleiVerified),
    text (toHtmlEscaped (qt.fromStdString cve.description))]
  shown := [cvssHtmlColor cve.cvssScore,
    toHtmlEscaped (qt.fromStdString cve.cveId), qt.fixed cve.cvssScore 1,
    epssHtmlColor cve.epss, qt.percentage cve.epss,
    qt.percentage cve.percentile, qt.fixed cve.risk 2,
    yesNo cve.nucleiVerified,
    toHtmlEscaped (qt.fromStdString cve.description)]
  sameLength := rfl
  shows := by simp [Shows, text, Qt.string, Qt.number]

/-- The lines around the banner and the fingerprints, which are put together
without `arg`. -/
def upperLines (r : ScanResult F) : List Line :=
  [headingLine qt r, productLine qt r] ++
    (if r.service.extraInfo ≠ [] then [infoLine qt r] else []) ++
    [rttLine qt r, riskScoreLine qt r]

def cveLines (r : ScanResult F) : List Line :=
  r.cves.map (cveLine qt)

def skeleton (r : ScanResult F) : Bytes :=
  (upperLines qt r).flatMap Line.skeleton ++ banner qt r ++
    fingerprints qt r ++
    (if r.cves ≠ [] then
      bytes "<h4>Vulnerabilities</h4>" ++
        (cveLines qt r).flatMap Line.skeleton
    else bytes "<i>No known CVEs</i>")

def lines (r : ScanResult F) : List Line :=
  upperLines qt r ++ cveLines qt r

def ShowsFields (r : ScanResult F) : Prop :=
  ∀ line ∈ lines qt r, line.ShowsFields

theorem cveTemplate_eq : cveTemplate = cveParts.text := by
  decide +kernel

theorem cveBlock_eq (cve : CveInfo F) :
    cveBlock qt cve = (cveLine qt cve).html := by
  rw [cveBlock, cveTemplate_eq]
  rfl

omit [Floating F] in
theorem info_eq (r : ScanResult F) :
    info qt r = ((if r.service.extraInfo ≠ [] then [infoLine qt r]
      else []).flatMap Line.html) := by
  unfold info
  split
  · exact (List.append_nil _).symm
  · rfl

/-- The panel is its lines, around what is put together without `arg`. -/
theorem showResult_lines (r : ScanResult F) :
    showResult qt r = (upperLines qt r).flatMap Line.html ++ banner qt r ++
      fingerprints qt r ++
      (if r.cves ≠ [] then
        bytes "<h4>Vulnerabilities</h4>" ++
          (cveLines qt r).flatMap Line.html
      else bytes "<i>No known CVEs</i>") := by
  have upper : heading qt r ++ product qt r ++ info qt r ++ rtt qt r ++
      riskScore qt r = (upperLines qt r).flatMap Line.html := by
    rw [info_eq, upperLines, List.flatMap_append, List.flatMap_append]
    simp only [List.flatMap_cons, List.flatMap_nil, List.append_assoc,
      List.append_nil]
    rfl
  have lower : r.cves.flatMap (cveBlock qt) =
      (cveLines qt r).flatMap Line.html := by
    rw [cveLines, List.flatMap_map]
    exact List.flatMap_congr fun cve _ => cveBlock_eq qt cve
  rw [showResult, upper, vulnerabilities, lower]

/-- A panel that shows its fields is the skeleton. -/
theorem showResult_eq {r : ScanResult F} (shows : ShowsFields qt r) :
    showResult qt r = skeleton qt r := by
  have upper : (upperLines qt r).flatMap Line.html =
      (upperLines qt r).flatMap Line.skeleton :=
    List.flatMap_congr fun line member =>
      (shows line (List.mem_append_left _ member)).html_eq
  have lower : (cveLines qt r).flatMap Line.html =
      (cveLines qt r).flatMap Line.skeleton :=
    List.flatMap_congr fun line member =>
      (shows line (List.mem_append_right _ member)).html_eq
  rw [showResult_lines, upper, lower, skeleton]

theorem length_flatMap_html_le {lines : List Line}
    (inert : ∀ line ∈ lines, line.IsInert) :
    (lines.flatMap Line.html).length ≤
      (lines.flatMap Line.skeleton).length := by
  induction lines with
  | nil => exact Nat.le_refl _
  | cons line rest induction =>
      obtain ⟨first, others⟩ := List.forall_mem_cons.mp inert
      rw [List.flatMap_cons, List.flatMap_cons, List.length_append,
        List.length_append]
      exact Nat.add_le_add first.length_html_le (induction others)

theorem showsFields_of_length {lines : List Line}
    (inert : ∀ line ∈ lines, line.IsInert)
    (same : (lines.flatMap Line.html).length =
      (lines.flatMap Line.skeleton).length) :
    ∀ line ∈ lines, line.ShowsFields := by
  induction lines with
  | nil => exact fun _ member => by cases member
  | cons line rest induction =>
      obtain ⟨first, others⟩ := List.forall_mem_cons.mp inert
      have head := first.length_html_le
      have tail := length_flatMap_html_le others
      rw [List.flatMap_cons, List.flatMap_cons, List.length_append,
        List.length_append] at same
      exact List.forall_mem_cons.mpr
        ⟨first.showsFields (by omega), induction others (by omega)⟩

/-- Where no field brings in a marker, the skeleton is a sign that each hole
shows its field. -/
theorem showsFields_of_eq {r : ScanResult F}
    (inert : ∀ line ∈ lines qt r, line.IsInert)
    (same : showResult qt r = skeleton qt r) : ShowsFields qt r := by
  obtain ⟨inertUpper, inertLower⟩ := List.forall_mem_append.mp inert
  have upper := length_flatMap_html_le inertUpper
  have lower := length_flatMap_html_le inertLower
  rw [showResult_lines, skeleton] at same
  have lengths := congrArg List.length same
  simp only [List.length_append] at lengths
  rw [ShowsFields, lines, List.forall_mem_append]
  by_cases none : r.cves = []
  · rw [if_neg (not_not.mpr none), if_neg (not_not.mpr none)] at lengths
    refine ⟨showsFields_of_length inertUpper (by omega), ?_⟩
    rw [cveLines, none]
    exact fun _ member => by cases member
  · rw [if_pos none, if_pos none, List.length_append,
      List.length_append] at lengths
    exact ⟨showsFields_of_length inertUpper (by omega),
      showsFields_of_length inertLower (by omega)⟩

end

/-! Which fields each line shows. -/

/-- No marker that an argument up to the limit could fill. -/
def Markerless (limit : Nat) (text : Bytes) : Prop :=
  ∀ number ∈ numbers id text, limit < number

/-- Numbers are printed without a `%`. -/
structure Qt.PrintsNumbers {F : Type} (qt : Qt F) : Prop where
  fixed : ∀ x digits, percent ∉ qt.fixed x digits

theorem markerless_of_not_mem {text : Bytes} (plain : percent ∉ text)
    (limit : Nat) : Markerless limit text := by
  intro number member
  have none : numbers id text = [] :=
    numbers_plain fun c isIn same => plain (same ▸ isIn)
  rw [none] at member
  cases member

theorem markerless_decimal (limit n : Nat) : Markerless limit (decimal n) :=
  markerless_of_not_mem (decimal_avoids (by decide)) limit

theorem markerless_decimalInt (limit : Nat) (z : Int) :
    Markerless limit (decimalInt z) :=
  markerless_of_not_mem (decimalInt_avoids (by decide) (by decide)) limit

section

variable {F : Type} [Floating F] {qt : Qt F}

theorem markerless_cvssHtmlColor (limit : Nat) (score : F) :
    Markerless limit (cvssHtmlColor score) := by
  apply markerless_of_not_mem
  unfold cvssHtmlColor
  split_ifs <;> decide

theorem markerless_epssHtmlColor (limit : Nat) (epss : F) :
    Markerless limit (epssHtmlColor epss) := by
  apply markerless_of_not_mem
  unfold epssHtmlColor
  split_ifs <;> decide

theorem markerless_yesNo (limit : Nat) (verified : Bool) :
    Markerless limit (yesNo verified) := by
  apply markerless_of_not_mem
  cases verified with
  | false => decide
  | true => decide

theorem inert_iff {limit : Nat} {arguments : List (Argument UInt8)} :
    Inert (1 + limit) arguments ↔
      ∀ argument ∈ arguments.dropLast, Markerless limit argument.text := by
  simp only [Inert, Markerless, Nat.one_add_le_iff]

omit [Floating F] in
theorem headingLine_isInert (r : ScanResult F) :
    (headingLine qt r).IsInert ↔
      Markerless 4 (qt.fromStdString r.targetHost) ∧
        Markerless 4 (qt.fromStdString r.protocol) := by
  have port := markerless_decimal 4 r.port.toNat
  apply (@inert_iff 4 _).trans
  simp [headingLine, Qt.string, Qt.number, port]

omit [Floating F] in
theorem productLine_isInert (r : ScanResult F) :
    (productLine qt r).IsInert ↔
      Markerless 2 (qt.fromStdString r.service.product) := by
  apply (@inert_iff 2 _).trans
  simp [productLine, Qt.string]

/-- An only argument has no later one behind it. -/
theorem isInert_single {line : Line} {argument : Argument UInt8}
    (single : line.arguments = [argument]) : line.IsInert := by
  rw [Line.IsInert, single]
  exact fun _ member => by cases member

theorem cveLine_isInert (numbers : qt.PrintsNumbers) (cve : CveInfo F) :
    (cveLine qt cve).IsInert ↔
      Markerless 9 (qt.fromStdString cve.cveId) := by
  have fixed (x : F) (digits : Nat) : Markerless 9 (qt.fixed x digits) :=
    markerless_of_not_mem (numbers.fixed x digits) 9
  have percentage (x : F) : Markerless 9 (qt.percentage x) :=
    markerless_decimalInt 9 _
  apply (@inert_iff 9 _).trans
  simp [cveLine, Qt.string, Qt.number, text, fixed, percentage,
    markerless_cvssHtmlColor, markerless_epssHtmlColor, markerless_yesNo]

/-- No `<`, `>`, `&` or `"` in the fields that are put in unescaped. -/
structure NoMarkup (qt : Qt F) (r : ScanResult F) : Prop where
  targetHost : IsPlain (qt.fromStdString r.targetHost)
  protocol : IsPlain (qt.fromStdString r.protocol)
  name : IsPlain (qt.fromStdString r.service.name)
  product : IsPlain (qt.fromStdString r.service.product)
  version : IsPlain (qt.fromStdString r.service.version)
  extraInfo : r.service.extraInfo ≠ [] →
    IsPlain (qt.fromStdString r.service.extraInfo)
  cveIds : ∀ cve ∈ r.cves, IsPlain (qt.fromStdString cve.cveId)

/-- No marker in the fields that another argument follows. -/
structure NoMarkers (qt : Qt F) (r : ScanResult F) : Prop where
  targetHost : Markerless 4 (qt.fromStdString r.targetHost)
  protocol : Markerless 4 (qt.fromStdString r.protocol)
  product : Markerless 2 (qt.fromStdString r.service.product)
  cveIds : ∀ cve ∈ r.cves, Markerless 9 (qt.fromStdString cve.cveId)

theorem forall_lines_iff {p : Line → Prop} (r : ScanResult F) :
    (∀ line ∈ lines qt r, p line) ↔
      p (headingLine qt r) ∧ p (productLine qt r) ∧
        (r.service.extraInfo ≠ [] → p (infoLine qt r)) ∧
        p (rttLine qt r) ∧ p (riskScoreLine qt r) ∧
        ∀ cve ∈ r.cves, p (cveLine qt cve) := by
  unfold lines upperLines cveLines
  split
  · next some => simp [some]
  · next none => simp [none]

theorem texts_iff (r : ScanResult F) :
    (∀ line ∈ lines qt r,
      line.arguments.map Argument.text = line.shown) ↔ NoMarkup qt r := by
  rw [forall_lines_iff]
  simp only [headingLine, productLine, infoLine, rttLine, riskScoreLine,
    cveLine, Qt.string, Qt.number, text, List.map_cons, List.map_nil,
    List.cons.injEq, eq_toHtmlEscaped_iff, true_and, and_true]
  constructor
  · rintro ⟨⟨host, protocol, name⟩, ⟨product, version⟩, extraInfo, cveIds⟩
    exact ⟨host, protocol, name, product, version, extraInfo, cveIds⟩
  · intro plain
    exact ⟨⟨plain.targetHost, plain.protocol, plain.name⟩,
      ⟨plain.product, plain.version⟩, plain.extraInfo, plain.cveIds⟩

theorem isInert_iff (numbers : qt.PrintsNumbers) (r : ScanResult F) :
    (∀ line ∈ lines qt r, line.IsInert) ↔ NoMarkers qt r := by
  have info : (infoLine qt r).IsInert := isInert_single rfl
  have rtt : (rttLine qt r).IsInert := isInert_single rfl
  have riskScore : (riskScoreLine qt r).IsInert := isInert_single rfl
  rw [forall_lines_iff, headingLine_isInert, productLine_isInert]
  simp only [cveLine_isInert numbers]
  constructor
  · rintro ⟨⟨host, protocol⟩, product, _, _, _, cveIds⟩
    exact ⟨host, protocol, product, cveIds⟩
  · intro markerless
    exact ⟨⟨markerless.targetHost, markerless.protocol⟩, markerless.product,
      fun _ => info, rtt, riskScore, markerless.cveIds⟩

theorem showsFields_iff (numbers : qt.PrintsNumbers) (r : ScanResult F) :
    ShowsFields qt r ↔ NoMarkup qt r ∧ NoMarkers qt r := by
  rw [← texts_iff, ← isInert_iff numbers, ShowsFields, ← forall₂_and]
  exact forall₂_congr fun line _ => line.showsFields_iff

/-- Every hole shows its own field if and only if the fields have neither markup
nor markers, and then the panel is the skeleton; without markers it is the
skeleton in no other case. -/
theorem showResult_iff (numbers : qt.PrintsNumbers) (r : ScanResult F) :
    (ShowsFields qt r ↔ NoMarkup qt r ∧ NoMarkers qt r) ∧
      (ShowsFields qt r → showResult qt r = skeleton qt r) ∧
      (NoMarkers qt r →
        (showResult qt r = skeleton qt r ↔ NoMarkup qt r)) := by
  have shows := showsFields_iff numbers r
  refine ⟨shows, showResult_eq qt, ?_⟩
  intro markerless
  constructor
  · intro same
    have inert := (isInert_iff numbers r).mpr markerless
    exact (shows.mp (showsFields_of_eq qt inert same)).1
  · intro plain
    exact showResult_eq qt (shows.mpr ⟨plain, markerless⟩)

end

instance (text : Bytes) : Decidable (IsPlain text) :=
  inferInstanceAs (Decidable (∀ b ∈ text, _))

instance (limit : Nat) (text : Bytes) : Decidable (Markerless limit text) :=
  inferInstanceAs (Decidable (∀ number ∈ numbers id text, _))

/-- Exact numbers, texts in UTF-8 already, and no group separators. -/
def exactQt : Qt ℚ where
  fromStdString := id
  left text n := text.take n
  fixed x digits := Exact.fixed digits x
  localized := id
  round x := if 0 ≤ x then ⌊x + 1 / 2⌋ else ⌈x - 1 / 2⌉

theorem printsNumbers_exactQt : exactQt.PrintsNumbers where
  fixed x digits member := by
    have isNumeral : IsNumeral percent := Exact.isNumeral_of_mem_fixed member
    revert isNumeral
    unfold IsNumeral
    decide

def webServer : ScanResult ℚ where
  targetHost := bytes "2001:db8::1"
  port := 443
  state := .opened
  service :=
    { name := bytes "https", product := bytes "nginx"
      version := bytes "1.18.0" }
  cves :=
    [{ cveId := bytes "CVE-2021-23017"
       description := bytes "1-byte overwrite & 100%2 more"
       cvssScore := 7.7, severity := .high, epss := 0.5, percentile := 0.9
       nucleiVerified := true }]

theorem showResult_webServer :
    NoMarkup exactQt webServer ∧ NoMarkers exactQt webServer ∧
      (ShowsFields exactQt webServer ↔
        NoMarkup exactQt webServer ∧ NoMarkers exactQt webServer) ∧
      (ShowsFields exactQt webServer →
        showResult exactQt webServer = skeleton exactQt webServer) ∧
      (NoMarkers exactQt webServer →
        (showResult exactQt webServer = skeleton exactQt webServer ↔
          NoMarkup exactQt webServer)) := by
  have markup : NoMarkup exactQt webServer := by
    constructor
    all_goals decide +kernel
  have markers : NoMarkers exactQt webServer := by
    constructor
    all_goals decide +kernel
  exact ⟨markup, markers, showResult_iff printsNumbers_exactQt webServer⟩

/-- The zone of a link-local address begins like the marker of the port. -/
def linkLocal : ScanResult ℚ where
  targetHost := bytes "fe80::1%2"
  port := 443
  state := .opened
  service := { name := bytes "https" }

theorem linkLocal_notShown :
    exactQt.PrintsNumbers ∧
      heading exactQt linkLocal =
        bytes "<h3>fe80::1443:443/tcp &mdash; https</h3>" ∧
      showResult exactQt linkLocal ≠ skeleton exactQt linkLocal := by
  refine ⟨printsNumbers_exactQt, ?_, ?_⟩
  · decide +kernel
  · decide +kernel

end ServicePortScanner.Gui.DetailsPanel
