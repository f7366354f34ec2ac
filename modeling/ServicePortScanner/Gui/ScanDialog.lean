import Mathlib.Data.List.DropRight
import ServicePortScanner.Cli.PortSpec
import ServicePortScanner.Cli.ScopeGuard
import ServicePortScanner.Gui.BannerPreview

namespace ServicePortScanner.Gui

open ServicePortScanner.Data ServicePortScanner.Cli
open ServicePortScanner.Gui.BannerPreview (QString literal)

/-! The dialog for a new scan: what it checks, and what it hands over. -/

/-- `QChar::isSpace` on a unit. -/
def isSpace (u : UInt16) : Bool :=
  u == 0x20 || (0x09 ≤ u && u ≤ 0x0d) || u == 0x85 || u == 0xa0 ||
    u == 0x1680 || (0x2000 ≤ u && u ≤ 0x200a) || u == 0x2028 || u == 0x2029 ||
    u == 0x202f || u == 0x205f || u == 0x3000

def trimmed (text : QString) : QString :=
  (text.dropWhile isSpace).rdropWhile isSpace

/-- What the widgets of the dialog hold. -/
structure ScanDialog where
  target : QString := literal "127.0.0.1"
  ports : QString := literal "22,80,443,8080,8443"
  allowExternal : Bool := false
  deriving DecidableEq, Repr

namespace ScanDialog

/-- Where `accept` returns without closing the dialog. -/
inductive Refusal where
  | targetRequired
  | unreadablePorts
  | scopeDenied (decision : ScopeDecision)
  deriving DecidableEq, Repr

/-- The `ScanRequest` of the dialog. -/
structure Request where
  target : QString
  ports : List UInt16
  externalConsent : Bool
  deriving DecidableEq, Repr

section

variable (toStdString : QString → Bytes)

def portVec (dialog : ScanDialog) : List UInt16 :=
  expandPortSpec (toStdString (trimmed dialog.ports))

def request (dialog : ScanDialog) : Request where
  target := trimmed dialog.target
  ports := dialog.portVec toStdString
  externalConsent := dialog.allowExternal

variable (makeAddress : Bytes → Option Address)

def accept (dialog : ScanDialog) : Except Refusal Unit :=
  let target := trimmed dialog.target
  if target.isEmpty then .error .targetRequired
  else if (dialog.portVec toStdString).isEmpty then .error .unreadablePorts
  else
    let opts : ScopeOptions := { explicitConsent := dialog.allowExternal }
    match checkScope makeAddress (toStdString target) opts with
    | .allowed => .ok ()
    | decision => .error (.scopeDenied decision)

end

end ScanDialog

/-! Requests that the guard lets through. -/

section

variable {toStdString : QString → Bytes} {makeAddress : Bytes → Option Address}

theorem expandPortSpec_ascending (spec : Bytes) :
    (expandPortSpec spec).Pairwise (· < ·) := by
  rcases expandPortSpec_cases spec with ⟨empty, _⟩ | ⟨set, reached, _⟩
  · rw [empty]
    exact .nil
  · rw [reached]
    exact set.ascending

/-- An accepted dialog hands over ports in ascending order and a target that the
guard lets through. -/
theorem ScanDialog.accept_ok {dialog : ScanDialog}
    (accepted : dialog.accept toStdString makeAddress = .ok ()) :
    (dialog.request toStdString).ports ≠ [] ∧
      (dialog.request toStdString).ports.Pairwise (· < ·) ∧
      InScope makeAddress (dialog.allowExternal = true)
        (toStdString (dialog.request toStdString).target) := by
  unfold accept at accepted
  dsimp only at accepted
  split at accepted
  · cases accepted
  · split at accepted
    · cases accepted
    · next readable =>
        split at accepted
        · next allowed =>
            exact ⟨fun empty => readable (List.isEmpty_iff.mpr empty),
              expandPortSpec_ascending _, inScope_of_allowed allowed⟩
        · cases accepted

end

end ServicePortScanner.Gui
