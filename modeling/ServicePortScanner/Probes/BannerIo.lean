import ServicePortScanner.Net.Network

namespace ServicePortScanner.Probes

open ServicePortScanner.Data ServicePortScanner.Net

/-! Reading and writing with a time limit, and what every probe returns. -/

def kMaxBannerBytes : Nat := 8 * 1024

structure ProbeOutcome where
  matched : Bool := false
  service : Bytes := []
  version : Bytes := []
  banner : Bytes := []
  ja4s : Bytes := []
  ja4x : Bytes := []
  deriving DecidableEq, Repr

/-- One turn of the read operation of `read_until_quiet`, on the banner as its
variable.  A read of no bytes ends it like an error does. -/
def readTurn (cap : Nat) : Task Bytes (Option Bool) := do
  let received ← Co.await (.read 1024) Answer.reading?
  let banner ← Co.load
  match received with
  | none | some [] => return some !banner.isEmpty
  | some chunk =>
      let room := if banner.length < cap then cap - banner.length else 0
      if room = 0 then return some true
      let banner := banner ++ chunk.take (min chunk.length room)
      Co.save banner
      if cap ≤ banner.length then return some true
      return none

theorem readTurn_progresses (cap : Nat) : Co.Progresses (readTurn cap) :=
  Co.progresses_await _ _ _

def readUntilQuiet (timeout cap : Nat) : Task Bytes Bool := do
  match ← Co.race timeout (Co.loop (readTurn cap) (readTurn_progresses cap)) with
  | none => return !(← Co.load).isEmpty
  | some ok => return ok

def writeAll {σ : Type} (payload : Bytes) (timeout : Nat) : Task σ Bool := do
  match ← Co.race timeout (Co.await (.write payload) Answer.writing?) with
  | none => return false
  | some ok => return ok

end ServicePortScanner.Probes
