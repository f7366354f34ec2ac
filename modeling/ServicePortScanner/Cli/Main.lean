import ServicePortScanner.Cli.CommandLine
import ServicePortScanner.Cli.ScopeGuard
import ServicePortScanner.Fp.CdnDefault
import ServicePortScanner.Fp.CveDatabase
import ServicePortScanner.Fp.EpssDatabase
import ServicePortScanner.Probes.ProbeDatabase
import ServicePortScanner.Report.WriteFailure
import ServicePortScanner.Scan.PortReport

namespace ServicePortScanner.Cli

open ServicePortScanner.Data ServicePortScanner.Core ServicePortScanner.Net
open ServicePortScanner.Fp ServicePortScanner.Probes ServicePortScanner.Scan
open ServicePortScanner.Report

/-! The program on a command line. -/

/-- What a task meets, and what the clocks show it. -/
structure Meeting where
  script : Script
  rtt : Int
  timestamp : Int

/-- What the program finds around it. -/
structure System (F : Type) where
  readFile : Bytes → Option Bytes
  parseJson : JsonParser F
  parseDouble : Bytes → Option F
  compiles : Bytes → Bool
  makeAddress : Bytes → Option Address
  sha256Hex : Bytes → Bytes
  dump : JsonValue F → Except Bytes Bytes
  meets : ScanRequest → Meeting
  buffering : Buffering
  opens : Bytes → Bool
  failsAt : Nat

inductive Ending where
  | exit (code : Int)
  /-- an exception has left `main` -/
  | terminated
  /-- for a task that has not ended -/
  | waiting
  deriving DecidableEq, Repr

/-- A task that `run` has spawned, and how far it has come. -/
structure Spawned (F : Type) where
  request : ScanRequest
  run : Run network Unit (ScanResult F)

/-- What the program has done.  Of the standard error stream these are the
complaints. -/
structure Process (F : Type) where
  spawned : List (Spawned F) := []
  results : List (ScanResult F) := []
  listing : Bytes := []
  complaints : Bytes := []
  /-- what a report has been written to -/
  device : Option (Device UInt8) := none
  ending : Ending

/-- The databases of a run. -/
structure Databases (F : Type) where
  cves : Option (CveDb F)
  probes : List ProbeVariant
  cdn : CdnDatabase
  epss : EpssDb F

section

variable {F : Type} [Floating F]

namespace System

variable (sys : System F)

def loadCves (path : Bytes) : Except JsonError (CveDb F) :=
  match sys.readFile path with
  | none => .ok {}
  | some text => CveDb.loadFromString sys.parseJson text

def loadEpss (path : Bytes) : EpssDb F :=
  match sys.readFile path with
  | none => {}
  | some text => EpssDb.parse sys.parseDouble text

omit [Floating F] in
def loadProbes (path : Bytes) : Except JsonError ProbeDatabase :=
  match sys.readFile path with
  | none => .ok {}
  | some text => ProbeDatabase.parse sys.parseJson sys.compiles text

/-- The database of the tasks, whose pointer is null without a path. -/
def cvesOf (path : Bytes) : Except JsonError (Option (CveDb F)) :=
  if path.isEmpty then .ok none else (sys.loadCves path).map some

omit [Floating F] in
/-- `default_probes`: the embedded rules where the file has none. -/
def probesOf (path : Bytes) : Except JsonError (List ProbeVariant) :=
  (if path.isEmpty then .ok ⟨defaultRules⟩ else sys.loadProbes path).map
    fun db =>
      let db := if db.rules.isEmpty then ⟨defaultRules⟩ else db
      db.rules.map .json ++ [.tls]

omit [Floating F] in
def cdnOf (path : Bytes) : Except JsonError CdnDatabase :=
  if path.isEmpty then .ok CdnDatabase.loadDefault
  else
    (CdnDatabase.loadFromFile sys.parseJson sys.readFile path).map fun db =>
      if db.isEmpty then CdnDatabase.loadDefault else db

def epssOf (path : Bytes) : EpssDb F :=
  if path.isEmpty then {} else sys.loadEpss path

def databases (args : ScanArgs) : Except JsonError (Databases F) := do
  let cves ← sys.cvesOf args.cveDbPath
  let probes ← sys.probesOf args.probesDbPath
  let cdn ← sys.cdnOf args.cdnDbPath
  return ⟨cves, probes, cdn, sys.epssOf args.epssDbPath⟩

/-- The task of a port, on what it meets. -/
def spawn (args : ScanArgs) (dbs : Databases F) (port : UInt16) : Spawned F :=
  let request : ScanRequest := ⟨args.target, port, args.timeout⟩
  let meeting := sys.meets request
  { request := request
    run :=
      (scanOne sys.sha256Hex request meeting.rtt meeting.timestamp
        (if args.noProbe then none else some dbs.probes) dbs.cves).run ()
        meeting.script }

end System

/-- `get` of a future, which does not come back while the task is waiting. -/
def get (task : Spawned F) : Option (Except RegexError (ScanResult F)) :=
  match task.run.status with
  | .returned result => some (.ok result)
  | .threw error => some (.error error)
  | .waiting _ => none

omit [Floating F] in
def taskErrors (futs : List (Except RegexError (ScanResult F))) : Bytes :=
  futs.flatMap fun
    | .ok _ => []
    | .error e => bytes "[spscan] task error: " ++ e.what ++ bytes "\n"

def alignRight (width : Nat) (s : Bytes) : Bytes :=
  List.replicate (width - s.length) 0x20 ++ s

omit [Floating F] in
def listed (r : ScanResult F) : Bytes :=
  alignRight 5 (decimal r.port.toNat) ++ bytes "/tcp  open  " ++
    r.service.name ++ bytes " " ++ r.service.version ++ bytes "\n"

omit [Floating F] in
/-- The loop over the results without a report. -/
def listing (results : List (ScanResult F)) : Bytes :=
  results.flatMap fun r => if r.state ≠ .opened then [] else listed r

namespace System

variable (sys : System F)

def body (report : ReportKind) (results : List (ScanResult F)) :
    Except Bytes Bytes :=
  match report with
  | .json => toJson sys.dump results
  | .csv => .ok (toCsv results)
  | .html => .ok (toHtml results)
  | .none => .ok []

/-- `run` from the end of the scan on. -/
def conclude (args : ScanArgs) (scan : Process F) : Process F :=
  if args.report = .none then
    { scan with listing := listing scan.results, ending := .exit 0 }
  else
    match sys.body args.report scan.results with
    | .error _ => { scan with ending := .terminated }
    | .ok body =>
        match writeToFile sys.buffering sys.opens sys.failsAt args.outPath body with
        | (true, device) =>
            { scan with device := some device, ending := .exit 0 }
        | (false, device) =>
            { scan with
              complaints := scan.complaints ++
                bytes "[spscan] failed to write: " ++ args.outPath ++ bytes "\n"
              device := some device
              ending := .exit 2 }

/-- The loop over the ports. -/
def tasks (args : ScanArgs) (dbs : Databases F) : List (Spawned F) :=
  args.ports.map (sys.spawn args dbs)

/-- The scan behind the loop over the futures. -/
def collected (args : ScanArgs) (dbs : Databases F)
    (futs : List (Except RegexError (ScanResult F))) : Process F where
  spawned := sys.tasks args dbs
  results := collect (dbs.cdn.lookup args.target) dbs.epss futs
  complaints := taskErrors futs
  ending := .waiting

def run (args : ScanArgs) : Process F :=
  match sys.databases args with
  | .error _ => { ending := .terminated }
  | .ok dbs =>
      match (sys.tasks args dbs).mapM get with
      | none => { spawned := sys.tasks args dbs, ending := .waiting }
      | some futs => sys.conclude args (sys.collected args dbs futs)

def main (given : Except ParseError Options) : Process F :=
  match parse given with
  | .failed exitCode error =>
      if exitCode ≠ 0 then { ending := .exit exitCode }
      else { complaints := error ++ bytes "\n", ending := .exit 2 }
  | .ok args =>
      match checkScope sys.makeAddress args.target ⟨args.consent⟩ with
      | .allowed => sys.run args
      | decision =>
          { complaints := bytes "[spscan] scope denied: " ++ describe decision ++
              bytes "\n"
            ending := .exit 3 }

end System

end

end ServicePortScanner.Cli
