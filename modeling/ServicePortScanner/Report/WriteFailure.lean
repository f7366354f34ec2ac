import Mathlib.Data.List.TakeDrop
import ServicePortScanner.Data.OutputStream
import ServicePortScanner.Report.Csv
import ServicePortScanner.Report.Html
import ServicePortScanner.Report.Json

namespace ServicePortScanner.Report

open ServicePortScanner.Data
open ServicePortScanner.Core

/-! Writing a report to a device that may fail, as `write_to_file` and the
writers do it through a stream. -/

/-- The result, and what is on the device in the end: for an empty path on that
of the standard output. -/
def writeToFile (buffering : Buffering) (opens : Bytes → Bool) (failsAt : Nat)
    (path content : Bytes) : Bool × Device UInt8 :=
  let stream := (OutputStream.openOn (Device.blank UInt8 failsAt)).insert
    buffering content
  if path.isEmpty then (true, stream.close)
  else if opens path then (stream.good, stream.close)
  else (false, Device.blank UInt8 failsAt)

/-- The file output of a writer, which inserts its text in pieces and never
looks at the stream again. -/
def writeOut (buffering : Buffering) (opens : Bytes → Bool) (failsAt : Nat)
    (message path : Bytes) (pieces : List Bytes) :
    Except Bytes (Device UInt8) :=
  if opens path then
    .ok ((OutputStream.openOn (Device.blank UInt8 failsAt)).insertAll
      buffering pieces).close
  else .error message

def CsvWriter.writeOut (buffering : Buffering) (opens : Bytes → Bool)
    (failsAt : Nat) (path : Bytes) (pieces : List Bytes) :
    Except Bytes (Device UInt8) :=
  Report.writeOut buffering opens failsAt
    (bytes "failed to open CSV export path") path pieces

def JsonWriter.writeOut (buffering : Buffering) (opens : Bytes → Bool)
    (failsAt : Nat) (path : Bytes) (pieces : List Bytes) :
    Except Bytes (Device UInt8) :=
  Report.writeOut buffering opens failsAt
    (bytes "failed to open JSON export path") path pieces

/-- The whole document is one insertion here. -/
def HtmlWriter.writeOut {F : Type} [Floating F] (buffering : Buffering)
    (opens : Bytes → Bool) (failsAt : Nat) (path : Bytes)
    (results : List (ScanResult F)) : Except Bytes (Device UInt8) :=
  Report.writeOut buffering opens failsAt
    (bytes "failed to open HTML export path") path [HtmlWriter.text results]

/-- Success is reported only for a content that is on the device. -/
def Announced (outcome : Bool × Device UInt8) (content : Bytes) : Prop :=
  outcome.1 = true → outcome.2.written = content

/-- A writer returns normally only with its document on the device. -/
def WritesOrThrows (outcome : Except Bytes (Device UInt8)) (document : Bytes) :
    Prop :=
  ∀ device, outcome = .ok device → device.written = document

section

variable (buffering : Buffering) (opens : Bytes → Bool) (failsAt : Nat)

theorem close_insert_written (content : Bytes) :
    ((OutputStream.openOn (Device.blank UInt8 failsAt)).insert buffering
      content).close.written = content.take failsAt :=
  ((OutputStream.holds_openOn failsAt).insert content).close_written

theorem writeOut_of_opens {opens : Bytes → Bool} {path : Bytes}
    (opened : opens path = true) (message : Bytes) (pieces : List Bytes) :
    ∃ device, writeOut buffering opens failsAt message path pieces = .ok device ∧
      device.written = pieces.flatten.take failsAt :=
  ⟨_, if_pos opened,
    ((OutputStream.holds_openOn failsAt).insertAll pieces).close_written⟩

/-- On a device with room for the text this is the text-level writer. -/
theorem writeOut_of_room (message path : Bytes) {pieces : List Bytes}
    (room : pieces.flatten.length ≤ failsAt) :
    (writeOut buffering opens failsAt message path pieces).map Device.written =
      writeFile opens message path pieces.flatten := by
  by_cases opened : opens path = true
  · obtain ⟨device, outcome, written⟩ :=
      writeOut_of_opens buffering failsAt opened message pieces
    rw [outcome, writeFile, if_pos opened, Except.map, written,
      List.take_of_length_le room]
  · rw [writeOut, writeFile, if_neg opened, if_neg opened]
    rfl

theorem announced_iff (path content : Bytes) :
    Announced (writeToFile buffering opens failsAt path content) content ↔
      content.length ≤ failsAt ∨
        (path ≠ [] ∧
          (opens path = false ∨ failsAt < buffering.spill 0 content.length)) := by
  have written := close_insert_written buffering failsAt content
  have good := OutputStream.insert_good_iff buffering failsAt content
  have whole := List.take_eq_self_iff content (n := failsAt)
  by_cases standard : path = []
  · have outcome : writeToFile buffering opens failsAt path content = (true, _) :=
      if_pos (List.isEmpty_iff.mpr standard)
    rw [Announced, outcome, written, whole]
    simp [standard]
  · have named : ¬ path.isEmpty = true := fun empty =>
      standard (List.isEmpty_iff.mp empty)
    cases opened : opens path with
    | false =>
        have outcome : writeToFile buffering opens failsAt path content =
            (false, _) :=
          (if_neg named).trans (if_neg (Bool.eq_false_iff.mp opened))
        rw [Announced, outcome]
        simp [standard]
    | true =>
        have outcome : writeToFile buffering opens failsAt path content = (_, _) :=
          (if_neg named).trans (if_pos opened)
        rw [Announced, outcome, written, whole, good]
        simp only [standard, ne_eq, not_false_eq_true, true_and, reduceCtorEq,
          false_or]
        omega

theorem writesOrThrows_iff (message path : Bytes) (pieces : List Bytes) :
    WritesOrThrows (writeOut buffering opens failsAt message path pieces)
        pieces.flatten ↔
      opens path = false ∨ pieces.flatten.length ≤ failsAt := by
  cases opened : opens path with
  | false =>
      have outcome : writeOut buffering opens failsAt message path pieces =
          .error message :=
        if_neg (Bool.eq_false_iff.mp opened)
      rw [outcome]
      simp [WritesOrThrows]
  | true =>
      obtain ⟨device, outcome, written⟩ :=
        writeOut_of_opens buffering failsAt opened message pieces
      rw [outcome]
      simp [WritesOrThrows, written]

variable {F : Type} [Floating F]

/-- Exactly when the four functions report success for a text that is on the
device: `write_to_file` sees a failure only in what it hands on before it asks,
and the writers see none. -/
theorem reports_announced_iff (path : Bytes) :
    (∀ content : Bytes,
      Announced (writeToFile buffering opens failsAt path content) content ↔
        content.length ≤ failsAt ∨
          (path ≠ [] ∧
            (opens path = false ∨
              failsAt < buffering.spill 0 content.length))) ∧
    ∀ results : List (ScanResult F),
      (∀ pieces : List Bytes, pieces.flatten = CsvWriter.text results →
        (WritesOrThrows
            (CsvWriter.writeOut buffering opens failsAt path pieces)
            (CsvWriter.text results) ↔
          opens path = false ∨ (CsvWriter.text results).length ≤ failsAt)) ∧
      (∀ pieces : List Bytes, pieces.flatten = JsonWriter.text results →
        (WritesOrThrows
            (JsonWriter.writeOut buffering opens failsAt path pieces)
            (JsonWriter.text results) ↔
          opens path = false ∨ (JsonWriter.text results).length ≤ failsAt)) ∧
      (WritesOrThrows
          (HtmlWriter.writeOut buffering opens failsAt path results)
          (HtmlWriter.text results) ↔
        opens path = false ∨ (HtmlWriter.text results).length ≤ failsAt) := by
  refine ⟨announced_iff buffering opens failsAt path, ?_⟩
  intro results
  refine ⟨?_, ?_, ?_⟩
  · intro pieces whole
    rw [← whole]
    exact writesOrThrows_iff buffering opens failsAt _ path pieces
  · intro pieces whole
    rw [← whole]
    exact writesOrThrows_iff buffering opens failsAt _ path pieces
  · have single := writesOrThrows_iff buffering opens failsAt
      (bytes "failed to open HTML export path") path [HtmlWriter.text results]
    rw [List.flatten_singleton] at single
    exact single

end

/-- A device that is full after three bytes, behind a buffer of 8191. -/
theorem fullDevice_announced :
    ((writeToFile (Buffering.ofSize 8192) (fun _ => true) 3 (bytes "r.csv")
        (bytes "hello")).1 = true ∧
      (writeToFile (Buffering.ofSize 8192) (fun _ => true) 3 (bytes "r.csv")
        (bytes "hello")).2.written = bytes "hel") ∧
    ¬ Announced (writeToFile (Buffering.ofSize 8192) (fun _ => true) 3
      (bytes "r.csv") (bytes "hello")) (bytes "hello") ∧
    ¬ WritesOrThrows (HtmlWriter.writeOut (Buffering.ofSize 8192)
      (fun _ => true) 3 (bytes "r.html") ([] : List (ScanResult ℚ)))
        (HtmlWriter.text ([] : List (ScanResult ℚ))) := by
  refine ⟨by decide +kernel, ?_, ?_⟩
  · unfold Announced
    decide +kernel
  · intro written
    have truncated := congrArg List.length (written _ rfl)
    revert truncated
    decide +kernel

end ServicePortScanner.Report
