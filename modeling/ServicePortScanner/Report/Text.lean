import ServicePortScanner.Core.Result

namespace ServicePortScanner.Report

open ServicePortScanner.Data
open ServicePortScanner.Core

/-! What the writers of all formats share. -/

/-- The text of a chain of `<<`. -/
def puts (pieces : List Bytes) : Bytes :=
  pieces.flatten

@[simp] theorem puts_nil : puts [] = [] := rfl

@[simp] theorem puts_cons (piece : Bytes) (pieces : List Bytes) :
    puts (piece :: pieces) = piece ++ puts pieces := rfl

/-- Every writer has its own copy of this function, and of the next. -/
def stateStr : PortState → Bytes
  | .opened => bytes "open"
  | .closed => bytes "closed"
  | .filtered => bytes "filtered"
  | .unknown => bytes "unknown"

def severityStr : Severity → Bytes
  | .critical => bytes "critical"
  | .high => bytes "high"
  | .medium => bytes "medium"
  | .low => bytes "low"
  | .none => bytes "none"

variable {F : Type} [Floating F]

/-- The loop over `cves` in `to_csv` and `to_html`: the id and the score of the
first entry with the highest score, if that is above zero. -/
def topCve (cves : List (CveInfo F)) : Bytes × F :=
  cves.foldl
    (fun top cve =>
      if Floating.lt top.2 cve.cvssScore then (cve.cveId, cve.cvssScore) else top)
    ([], Floating.literal 0)

/-- The counters that `JsonWriter` and `HtmlWriter` print first. -/
structure Totals where
  opened : Nat := 0
  closed : Nat := 0
  filtered : Nat := 0
  cves : Nat := 0
  deriving DecidableEq, Repr

omit [Floating F] in
def Totals.count (totals : Totals) (result : ScanResult F) : Totals :=
  let totals := { totals with cves := totals.cves + result.cves.length }
  match result.state with
  | .opened => { totals with opened := totals.opened + 1 }
  | .closed => { totals with closed := totals.closed + 1 }
  | .filtered => { totals with filtered := totals.filtered + 1 }
  | .unknown => totals

omit [Floating F] in
def Totals.of (results : List (ScanResult F)) : Totals :=
  results.foldl Totals.count {}

/-- Where a writer cannot open its path it throws the message given here;
otherwise the file gets the text. -/
def writeFile (opens : Bytes → Bool) (message path text : Bytes) :
    Except Bytes Bytes :=
  if opens path then .ok text else .error message

end ServicePortScanner.Report
