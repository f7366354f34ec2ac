import ServicePortScanner.Core.ExtendedFloating
import ServicePortScanner.Gui.WindowRuns
import ServicePortScanner.Report.HtmlTemplate
import ServicePortScanner.Report.JsonTemplate
import ServicePortScanner.Report.WriteFailure

namespace ServicePortScanner.Gui

open ServicePortScanner.Data ServicePortScanner.Core ServicePortScanner.Cli
open ServicePortScanner.Report
open ServicePortScanner.Gui.BannerPreview (QString literal)

/-! The export of the table.  Its dialogs run event loops of their own, so that
results go on arriving while they are open. -/

inductive ExportFormat where
  | html
  | json
  | csv
  deriving DecidableEq, Repr

/-- Where the files go, and how the insertions of a writer divide its text. -/
structure Disk where
  buffering : Buffering
  opens : Bytes → Bool
  failsAt : Nat
  pieces : Bytes → List Bytes
  flatten : ∀ text, (pieces text).flatten = text

/-- What is known of the numbers that are printed. -/
structure PrintsPlainly (F : Type) [Floating F] : Prop where
  markup : PrintsWithout F MarkupReserved
  fields : PrintsWithout F Csv.Reserved
  json : PrintsJsonNumbers F

namespace ExportFormat

variable {F : Type} [Floating F]

def suffix : ExportFormat → QString
  | .html => literal ".html"
  | .json => literal ".json"
  | .csv => literal ".csv"

def document : ExportFormat → List (ScanResult F) → Bytes
  | .html, results => HtmlWriter.text results
  | .json, results => JsonWriter.text results
  | .csv, results => CsvWriter.text results

def write (disk : Disk) (format : ExportFormat) (path : Bytes)
    (results : List (ScanResult F)) : Except Bytes (Device UInt8) :=
  match format with
  | .html =>
      HtmlWriter.writeOut disk.buffering disk.opens disk.failsAt path results
  | .json =>
      JsonWriter.writeOut disk.buffering disk.opens disk.failsAt path
        (disk.pieces (JsonWriter.text results))
  | .csv =>
      CsvWriter.writeOut disk.buffering disk.opens disk.failsAt path
        (disk.pieces (CsvWriter.text results))

/-- What reads the file finds the record of each result. -/
def ReadsBack (format : ExportFormat) (text : Bytes)
    (results : List (ScanResult F)) : Prop :=
  match format with
  | .html => Markup.cells ((Markup.tokens text).map Markup.Token.decode) =
      results.flatMap HtmlWriter.record
  | .json => Json.parse text = some (JsonWriter.documentValue results)
  | .csv => Csv.read text =
      some (CsvWriter.header :: results.map CsvWriter.record)

end ExportFormat

/-- A file that has been written, or has not been opened.  `shown` are the rows
of the table when the button was pressed. -/
structure Export (F : Type) where
  format : ExportFormat
  path : QString
  shown : List (ScanResult F)
  results : List (ScanResult F)
  outcome : Except Bytes (Device UInt8)

/-- What the button has opened. -/
inductive Exporting (F : Type) where
  | closed
  | menu (shown : List (ScanResult F))
  | fileDialog (format : ExportFormat) (shown : List (ScanResult F))
  | message

def Exporting.shown? {F : Type} : Exporting F → Option (List (ScanResult F))
  | .closed | .message => none
  | .menu shown | .fileDialog _ shown => some shown

structure Exporter (F : Type) where
  window : MainWindow F
  exporting : Exporting F := .closed
  exports : List (Export F) := []

namespace Exporter

variable {F : Type} [Floating F]

inductive Action (F : Type) where
  | window (action : MainWindow.Action F)
  | press
  | choose (selected : Option ExportFormat)
  | save (path : QString)
  | dismiss

section

variable (toCaseFolded : UInt16 → UInt16)

/-- `endsWith(suffix, Qt::CaseInsensitive)` -/
def endsWith (path suffix : QString) : Bool :=
  (suffix.map toCaseFolded).isSuffixOf (path.map toCaseFolded)

variable (disk : Disk) (toStdString : QString → Bytes)

/-- `exportResults` from the file dialog on, whose `results` refers to the rows
that the model has by then. -/
def exportTo (exporter : Exporter F) (format : ExportFormat)
    (shown : List (ScanResult F)) (path : QString) : Exporter F :=
  if path.isEmpty then { exporter with exporting := .closed }
  else
    let path :=
      if endsWith toCaseFolded path format.suffix then path
      else path ++ format.suffix
    let results := exporter.window.table.results
    { exporter with
      exporting := .message
      exports := exporter.exports ++ [{
        format := format
        path := path
        shown := shown
        results := results
        outcome := format.write disk (toStdString path) results }] }

variable (databases : ScanController.Databases F)
variable (makeAddress : Bytes → Option Address)

def construct (dummy : List (ScanResult F)) : Exporter F where
  window := .construct dummy

/-- With something open in front of the window the user does not get at the rest
of it, while the threads and the queue go on. -/
def step (exporter : Exporter F) (action : Action F) : Option (Exporter F) :=
  let moved (action : MainWindow.Action F) :=
    (exporter.window.step databases toStdString makeAddress action).map
      fun window => { exporter with window := window }
  let isFree := !exporter.window.terminated && exporter.window.isIdle
  match exporter.exporting, action with
  | .closed, .window action => moved action
  | _, .window (.background action) => moved (.background action)
  | .closed, .press =>
      if isFree then
        some { exporter with exporting := .menu exporter.window.table.results }
      else none
  | .menu shown, .choose selected =>
      if isFree then
        match selected with
        | none => some { exporter with exporting := .closed }
        | some format =>
            some { exporter with exporting := .fileDialog format shown }
      else none
  | .fileDialog format shown, .save path =>
      if isFree then
        some (exporter.exportTo toCaseFolded disk toStdString format shown path)
      else none
  | .message, .dismiss =>
      if isFree then some { exporter with exporting := .closed } else none
  | _, _ => none

end

/-! What a finished export has written. -/

theorem endsWith_append (toCaseFolded : UInt16 → UInt16)
    (path suffix : QString) :
    endsWith toCaseFolded (path ++ suffix) suffix = true := by
  rw [endsWith, List.isSuffixOf_iff_suffix, List.map_append]
  exact List.suffix_append _ _

theorem write_eq (disk : Disk) (format : ExportFormat) (path : Bytes)
    (results : List (ScanResult F)) :
    ∃ message pieces, format.write disk path results =
        writeOut disk.buffering disk.opens disk.failsAt message path pieces ∧
      pieces.flatten = format.document results := by
  cases format with
  | html => exact ⟨_, _, rfl, by simp [ExportFormat.document]⟩
  | json => exact ⟨_, _, rfl, disk.flatten _⟩
  | csv => exact ⟨_, _, rfl, disk.flatten _⟩

/-- Where there is room for it, a file that has been opened has the document. -/
theorem written_of_ok {disk : Disk} {format : ExportFormat} {path : Bytes}
    {results : List (ScanResult F)} {device : Device UInt8}
    (written : format.write disk path results = .ok device)
    (room : (format.document results).length ≤ disk.failsAt) :
    device.written = format.document results := by
  obtain ⟨message, pieces, made, flat⟩ := write_eq disk format path results
  rw [made] at written
  by_cases opened : disk.opens path = true
  · obtain ⟨other, outcome, content⟩ := writeOut_of_opens disk.buffering
      disk.failsAt opened message pieces
    rw [outcome] at written
    cases written
    rw [content, flat, List.take_of_length_le room]
  · rw [writeOut, if_neg opened] at written
    cases written

/-- A document reads back, as JSON where its numbers are finite. -/
theorem readsBack_document_iff (prints : PrintsPlainly F) (format : ExportFormat)
    (results : List (ScanResult F)) :
    format.ReadsBack (format.document results) results ↔
      (format = .json → JsonWriter.Finite results) := by
  cases format with
  | html => exact iff_of_true (HtmlWriter.cells_text prints.markup results) nofun
  | json =>
      by_cases finite : JsonWriter.Finite results
      · exact iff_of_true (JsonWriter.parse_text_finite prints.json finite)
          fun _ => finite
      · refine iff_of_false ?_ fun all => finite (all rfl)
        intro parsed
        have failed := JsonWriter.parse_text_notFinite prints.json finite
        cases failed.symm.trans parsed
  | csv => exact iff_of_true (CsvWriter.read_text prints.fields results) nofun

/-- A finished export, as long as the window goes on. -/
structure Keeps (toCaseFolded : UInt16 → UInt16) (disk : Disk)
    (dummy : List (ScanResult F)) (window : MainWindow F) (file : Export F) :
    Prop where
  suffix : endsWith toCaseFolded file.path file.format.suffix = true
  initial : dummy <+: file.shown
  shown : file.shown <+: file.results
  rows : file.results <+: window.table.results
  readsBack : ∀ device, file.outcome = .ok device →
    (file.format.document file.results).length ≤ disk.failsAt →
      (file.format.ReadsBack device.written file.results ↔
        (file.format = .json → JsonWriter.Finite file.results))

theorem Keeps.window {toCaseFolded : UInt16 → UInt16} {disk : Disk}
    {dummy : List (ScanResult F)} {window next : MainWindow F} {file : Export F}
    (keeps : Keeps toCaseFolded disk dummy window file)
    (later : window.table.results <+: next.table.results) :
    Keeps toCaseFolded disk dummy next file :=
  { keeps with rows := keeps.rows.trans later }

/-! Every run. -/

section

variable {toCaseFolded : UInt16 → UInt16} {disk : Disk}
variable {databases : ScanController.Databases F}
variable {toStdString : QString → Bytes} {makeAddress : Bytes → Option Address}
variable {dummy : List (ScanResult F)} {exporter next : Exporter F}

theorem results_step {window next : MainWindow F} {action : MainWindow.Action F}
    (stepped : window.step databases toStdString makeAddress action =
      some next) : window.table.results <+: next.table.results := by
  cases (MainWindow.step_moves stepped).2 with
  | @take event rest controller queued moved =>
      cases event with
      | resultReady r => exact List.prefix_append _ _
      | _ => exact List.prefix_refl _
  | select row =>
      rw [(MainWindow.setCurrentIndex_sameData window row).table]
  | click clicked =>
      rw [(MainWindow.pointClicked_sameData window _).table]
  | _ => exact List.prefix_refl _

/-- What an action can do: move the window on, open or close something, or
export. -/
theorem step_cases {action : Action F}
    (stepped : exporter.step toCaseFolded disk toStdString databases makeAddress
      action = some next) :
    (∃ action window, exporter.window.step databases toStdString makeAddress
        action = some window ∧ next = { exporter with window := window }) ∨
    (∃ exporting, next = { exporter with exporting := exporting } ∧
      ∀ shown ∈ exporting.shown?, shown = exporter.window.table.results ∨
        exporter.exporting.shown? = some shown) ∨
    (∃ format shown path, exporter.exporting.shown? = some shown ∧
      next = exporter.exportTo toCaseFolded disk toStdString format shown
        path) := by
  unfold step at stepped
  dsimp only at stepped
  split at stepped
  · obtain ⟨window, moved, rfl⟩ := Option.map_eq_some_iff.mp stepped
    exact .inl ⟨_, window, moved, rfl⟩
  · obtain ⟨window, moved, rfl⟩ := Option.map_eq_some_iff.mp stepped
    exact .inl ⟨_, window, moved, rfl⟩
  · obtain ⟨_, stepped⟩ := Option.ite_none_right_eq_some.mp stepped
    cases stepped
    refine .inr (.inl ⟨_, rfl, ?_⟩)
    rintro shown ⟨⟩
    exact .inl rfl
  · next shown selected here =>
      obtain ⟨_, stepped⟩ := Option.ite_none_right_eq_some.mp stepped
      cases selected with
      | none =>
          cases stepped
          exact .inr (.inl ⟨_, rfl, nofun⟩)
      | some format =>
          cases stepped
          refine .inr (.inl ⟨_, rfl, ?_⟩)
          rintro _ ⟨⟩
          exact .inr (by rw [here]; rfl)
  · next format shown path here =>
      obtain ⟨_, stepped⟩ := Option.ite_none_right_eq_some.mp stepped
      cases stepped
      exact .inr (.inr ⟨format, shown, path, by rw [here]; rfl, rfl⟩)
  · obtain ⟨_, stepped⟩ := Option.ite_none_right_eq_some.mp stepped
    cases stepped
    exact .inr (.inl ⟨_, rfl, nofun⟩)
  · cases stepped

/-- The rows that were shown are still in front, and so are those that have been
exported. -/
structure Exports (toCaseFolded : UInt16 → UInt16) (disk : Disk)
    (databases : ScanController.Databases F) (dummy : List (ScanResult F))
    (exporter : Exporter F) : Prop where
  records : exporter.window.Records databases dummy
  ongoing : ∀ shown ∈ exporter.exporting.shown?, dummy <+: shown ∧
    shown <+: exporter.window.table.results
  exports : ∀ file ∈ exporter.exports,
    Keeps toCaseFolded disk dummy exporter.window file

theorem exports_construct :
    Exports toCaseFolded disk databases dummy (construct dummy) where
  records := MainWindow.records_construct
  ongoing := nofun
  exports := nofun

theorem Exports.exportTo (prints : PrintsPlainly F) {format : ExportFormat}
    {shown : List (ScanResult F)} (path : QString)
    (exports : Exports toCaseFolded disk databases dummy exporter)
    (ongoing : exporter.exporting.shown? = some shown) :
    Exports toCaseFolded disk databases dummy
      (exporter.exportTo toCaseFolded disk toStdString format shown path) := by
  unfold Exporter.exportTo
  split
  · exact ⟨exports.records, nofun, exports.exports⟩
  · refine ⟨exports.records, nofun, ?_⟩
    rw [List.forall_mem_append, List.forall_mem_singleton]
    obtain ⟨initial, since⟩ := exports.ongoing shown ongoing
    refine ⟨exports.exports, ?_, initial, since, List.prefix_refl _, ?_⟩
    · dsimp only
      split
      · next ends => exact ends
      · exact endsWith_append toCaseFolded path format.suffix
    · intro device written room
      dsimp only at written room ⊢
      rw [written_of_ok written room]
      exact readsBack_document_iff prints format _

theorem Exports.step (prints : PrintsPlainly F) {action : Action F}
    (exports : Exports toCaseFolded disk databases dummy exporter)
    (stepped : exporter.step toCaseFolded disk toStdString databases makeAddress
      action = some next) : Exports toCaseFolded disk databases dummy next := by
  rcases step_cases stepped with ⟨action, window, moved, rfl⟩ |
    ⟨exporting, rfl, shows⟩ | ⟨format, shown, path, ongoing, rfl⟩
  · have later := results_step moved
    refine ⟨exports.records.step moved, ?_, ?_⟩
    · intro shown member
      obtain ⟨initial, since⟩ := exports.ongoing shown member
      exact ⟨initial, since.trans later⟩
    · exact fun file member => (exports.exports file member).window later
  · refine ⟨exports.records, ?_, exports.exports⟩
    intro shown member
    rcases shows shown member with rfl | before
    · refine ⟨?_, List.prefix_refl _⟩
      rw [exports.records.rows]
      exact List.prefix_append _ _
    · exact exports.ongoing shown before
  · exact exports.exportTo prints path ongoing

/-- Whatever the user and the threads do, a finished export has the suffix of its
format, and its file reads back as the record of each row that the table had when
it was written, as JSON exactly where the numbers are finite: the initial data and
what the scans have reported by then, no less than was shown when the button was
pressed. -/
theorem run_exports (prints : PrintsPlainly F) {actions : List (Action F)}
    (ran : Steps.run (Exporter.step toCaseFolded disk toStdString databases
      makeAddress) (construct dummy) actions = some exporter) :
    exporter.window.Ledger databases dummy ∧
      ∀ file ∈ exporter.exports,
        Keeps toCaseFolded disk dummy exporter.window file := by
  have exports : Exports toCaseFolded disk databases dummy exporter :=
    Steps.run_invariant (fun exports stepped => exports.step prints stepped)
      exports_construct ran
  exact ⟨exports.records.ledger, exports.exports⟩

end

/-- Numbers with infinities among them print plainly. -/
theorem extended_printsPlainly : PrintsPlainly Reading where
  markup := by
    refine Extended.printsWithout ?_ ?_
    · rintro b numeral (rfl | rfl) <;> revert numeral <;>
        simp [IsNumeral, IsDigit, Markup.less, Markup.ampersand]
    · have plain : ∀ b ∈ bytes "-infa",
          b ≠ Markup.less ∧ b ≠ Markup.ampersand := by decide
      rintro b member (rfl | rfl)
      · exact (plain _ member).1 rfl
      · exact (plain _ member).2 rfl
  fields := Extended.printsWithout (fun _ => not_reserved_of_isNumeral)
    (by decide)
  json :=
    { zero := rfl
      finite := by
        intro x finite
        cases x with
        | number x => exact ReferenceDump.isNumber_shortest x
        | _ => cases finite
      notFinite := by
        intro x notFinite
        cases x with
        | nan => exact ⟨⟨_, by decide, List.prefix_refl _⟩, by decide⟩
        | infinity negative =>
            cases negative with
            | false =>
                exact ⟨⟨bytes "inf", by decide, List.prefix_refl _⟩, by decide⟩
            | true =>
                exact ⟨⟨bytes "-inf", by decide, List.prefix_refl _⟩, by decide⟩
        | number x => cases notFinite }

/-- A disk with room. -/
def roomyDisk : Disk where
  buffering := .ofSize 8192
  opens _ := true
  failsAt := 100000
  pieces text := [text]
  flatten text := by simp

/-- A feed has given words for the values. -/
def wordsDatabases : ScanController.Databases Reading where
  cdnProvider _ := []
  epss := { map := [(bytes "CVE-2021-41773", ⟨.infinity false, .nan⟩)] }

def httpWith (epss percentile : Reading) : ScanResult Reading where
  targetHost := bytes "127.0.0.1"
  port := 80
  state := .opened
  service := { name := bytes "http" }
  cves := [⟨bytes "CVE-2021-41773", [], .number (15 / 2), .high, epss,
    percentile, false⟩]

/-- With what the feed has for it. -/
def infiniteHttp : ScanResult Reading :=
  httpWith (.infinity false) .nan

def scanInfiniteHttp : List (MainWindow.Action Reading) :=
  [.openScanDialog, .acceptDialog MainWindow.dialogForHttp] ++
    List.replicate 3 (.background .ui) ++
    List.replicate 4 (.background .worker) ++
    [.background (.complete 0 (.returned (httpWith (.number 0) (.number 0))))] ++
    List.replicate 7 (.background .worker)

/-- The button is pressed before the result of the scan has arrived, and once
more behind that. -/
def exportHttp : List (Action Reading) :=
  scanInfiniteHttp.map .window ++ [.press] ++
    List.replicate 3 (.window (.background .take)) ++
    [.choose (some .json), .save (literal "scan"), .dismiss, .press,
      .choose (some .csv), .save (literal "scan"), .dismiss]

/-- The two files: neither lacks the row, but only one of them reads back. -/
theorem run_exports_exportHttp : ∃ exporter json csv,
    Steps.run (Exporter.step id roomyDisk MainWindow.latin wordsDatabases
        MainWindow.onlyLocalhost) (construct []) exportHttp = some exporter ∧
    exporter.exports = [json, csv] ∧ json.path = literal "scan.json" ∧
    json.shown = [] ∧ json.results = [infiniteHttp] ∧
    (∃ device, json.outcome = .ok device ∧
      Json.parse device.written ≠
        some (JsonWriter.documentValue [infiniteHttp])) ∧
    ∃ device, csv.outcome = .ok device ∧ Csv.read device.written =
      some [CsvWriter.header, CsvWriter.record infiniteHttp] := by
  have ends : ((Steps.run (Exporter.step id roomyDisk MainWindow.latin
      wordsDatabases MainWindow.onlyLocalhost) (construct [])
        exportHttp).any fun exporter => exporter.exports.map (fun file =>
          (file.format, file.path, file.shown, file.results,
            file.outcome.isOk)) ==
        [(.json, literal "scan.json", [], [infiniteHttp], true),
          (.csv, literal "scan.csv", [infiniteHttp], [infiniteHttp], true)]) =
            true := by
    decide +kernel
  obtain ⟨exporter, ran, same⟩ := (Option.any_eq_true _ _).mp ends
  obtain ⟨json, others, exports, first, rest⟩ :=
    List.map_eq_cons_iff.mp (eq_of_beq same)
  obtain ⟨csv, rfl, second⟩ := List.map_eq_singleton_iff.mp rest
  simp only [Prod.mk.injEq] at first second
  obtain ⟨format, path, shown, results, opened⟩ := first
  obtain ⟨format', _, _, results', opened'⟩ := second
  have keeps := (run_exports extended_printsPlainly ran).2
  rw [exports, List.forall_mem_cons, List.forall_mem_singleton] at keeps
  have written {file : Export Reading} (opened : file.outcome.isOk = true) :
      ∃ device, file.outcome = .ok device := by
    cases written : file.outcome with
    | error message =>
        rw [written] at opened
        cases opened
    | ok device => exact ⟨device, rfl⟩
  obtain ⟨device, outcome⟩ := written opened
  obtain ⟨device', outcome'⟩ := written opened'
  have reads := keeps.1.readsBack device outcome
  have reads' := keeps.2.readsBack device' outcome'
  rw [format, results] at reads
  rw [format', results'] at reads'
  have room : (JsonWriter.text [infiniteHttp]).length ≤ roomyDisk.failsAt := by
    decide +kernel
  have room' : (CsvWriter.text [infiniteHttp]).length ≤ roomyDisk.failsAt := by
    decide +kernel
  have infinite : ¬ JsonWriter.Finite [infiniteHttp] := by
    intro finite
    have printed := finite _ List.mem_cons_self _ List.mem_cons_self
    exact absurd printed (by decide)
  refine ⟨exporter, json, csv, ran, exports, path, shown, results,
    ⟨device, outcome, ?_⟩, device', outcome', (reads' room').mpr nofun⟩
  exact fun parsed => infinite ((reads room).mp parsed rfl)

end Exporter

end ServicePortScanner.Gui
