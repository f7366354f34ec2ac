import ServicePortScanner.Cli.Args
import ServicePortScanner.Cli.PortSpec

namespace ServicePortScanner.Cli

open ServicePortScanner.Data

/-! The command line, and the arguments that `parse` makes of it. -/

def kTopPorts : List UInt16 :=
  [80, 23, 443, 21, 22, 25, 3389, 110, 445, 139,
    143, 53, 135, 3306, 8080, 1723, 111, 995, 993, 5900,
    1025, 587, 8888, 199, 1720, 465, 548, 113, 81, 6001,
    10000, 514, 5060, 179, 1026, 2000, 8443, 8000, 32768, 554,
    26, 1433, 49152, 2001, 515, 8008, 49154, 1027, 5666, 646,
    5000, 5631, 631, 49153, 8081, 2049, 88, 79, 5800, 106,
    2121, 1110, 49155, 6000, 513, 990, 5357, 427, 49156, 543,
    544, 5101, 144, 7, 389, 8009, 3128, 444, 9999, 5009,
    7070, 5190, 3000, 5432, 1900, 3986, 13, 1029, 9, 5051,
    6646, 49157, 1028, 873, 1755, 2717, 4899, 9100, 119, 37]

def topNPorts (n : Nat) : List UInt16 :=
  kTopPorts.take (min n kTopPorts.length)

inductive ReportKind where
  | none
  | json
  | csv
  | html
  deriving DecidableEq, Repr

def parseReport (s : Bytes) : ReportKind :=
  if s == bytes "json" then .json
  else if s == bytes "csv" then .csv
  else if s == bytes "html" then .html
  else .none

/-- What the command line gives for the options; a value that is given has
passed the checks of its option. -/
structure Options extends RateOptions where
  target : Bytes
  ports : Option Bytes := none
  topPorts : Option Nat := none
  /-- `--timeout-ms` -/
  timeout : Option Nat := none
  report : Option Bytes := none
  outPath : Option Bytes := none
  cveDb : Option Bytes := none
  probesDb : Option Bytes := none
  cdnDb : Option Bytes := none
  epssDb : Option Bytes := none
  threads : Option Nat := none
  noProbe : Bool := false
  consent : Bool := false
  rate_inRange : Args.inRange rate
  maxRate_inRange : Args.inRange maxRate
  topPorts_inRange : ∀ n ∈ topPorts, 1 ≤ n ∧ n ≤ 1000
  timeout_inRange : ∀ ms ∈ timeout, 100 ≤ ms ∧ ms ≤ 60000
  report_isMember : ∀ s ∈ report,
    s ∈ [bytes "none", bytes "json", bytes "csv", bytes "html"]
  deriving DecidableEq

/-- `CLI::ParseError`, of which `--help` is one as well. -/
structure ParseError where
  exitCode : Int
  what : Bytes
  deriving DecidableEq, Repr

/-- The other members of `Args`. -/
structure ScanArgs extends Args where
  target : Bytes
  ports : List UInt16
  /-- in milliseconds -/
  timeout : Nat := 2000
  report : ReportKind := .none
  outPath : Bytes := []
  cveDbPath : Bytes := []
  probesDbPath : Bytes := []
  cdnDbPath : Bytes := []
  epssDbPath : Bytes := []
  consent : Bool := false
  noProbe : Bool := false
  threads : Nat := 0
  topPorts : Nat := 0
  deriving DecidableEq, Repr

inductive ParseResult where
  | ok (args : ScanArgs)
  | failed (exitCode : Int) (error : Bytes)
  deriving DecidableEq, Repr

namespace Options

theorem parseRates_isSome (options : Options) :
    (Args.parseRates options.toRateOptions).isSome = true := by
  simp [Args.parseRates, options.rate_inRange, options.maxRate_inRange]

def rates (options : Options) : Args :=
  (Args.parseRates options.toRateOptions).get options.parseRates_isSome

def selectedPorts (options : Options) : List UInt16 :=
  let topPorts := options.topPorts.getD 0
  if 0 < topPorts then topNPorts topPorts
  else expandPortSpec (options.ports.getD (bytes "1-1024"))

def args (options : Options) : ScanArgs where
  toArgs := options.rates
  target := options.target
  ports := options.selectedPorts
  timeout := options.timeout.getD 2000
  report := parseReport (options.report.getD (bytes "none"))
  outPath := options.outPath.getD []
  cveDbPath := options.cveDb.getD []
  probesDbPath := options.probesDb.getD []
  cdnDbPath := options.cdnDb.getD []
  epssDbPath := options.epssDb.getD []
  consent := options.consent
  noProbe := options.noProbe
  threads := options.threads.getD 0
  topPorts := options.topPorts.getD 0

end Options

/-- What `app.parse` has made of the command line is given. -/
def parse (given : Except ParseError Options) : ParseResult :=
  match given with
  | .error e => .failed e.exitCode e.what
  | .ok options =>
      if options.selectedPorts.isEmpty then
        .failed 0 (bytes "invalid port selection (--ports / --top-ports)")
      else .ok options.args

/-! What holds of accepted arguments. -/

theorem kTopPorts_nodup : kTopPorts.Nodup := by
  decide

theorem topNPorts_nodup (n : Nat) : (topNPorts n).Nodup :=
  kTopPorts_nodup.sublist (List.take_sublist _ _)

theorem zero_notMem_kTopPorts : 0 ∉ kTopPorts := by
  decide

theorem expandPortSpec_nodup (spec : Bytes) : (expandPortSpec spec).Nodup := by
  rcases expandPortSpec_cases spec with ⟨empty, _⟩ | ⟨set, reached, _⟩
  · rw [empty]
    exact .nil
  · rw [reached]
    exact set.ascending.imp fun before => UInt16.ne_of_lt before

/-- What the scan relies on in its arguments. -/
structure ScanArgs.Valid (args : ScanArgs) : Prop where
  some : args.ports ≠ []
  nodup : args.ports.Nodup
  nonzero : 0 ∉ args.ports
  timeout : 100 ≤ args.timeout ∧ args.timeout ≤ 60000
  rate : 1 ≤ args.rate ∧ args.rate ≤ args.maxRate

theorem Options.selectedPorts_nonzero (options : Options) :
    0 ∉ options.selectedPorts := by
  unfold selectedPorts
  dsimp only
  split
  · exact fun member => zero_notMem_kTopPorts (List.mem_of_mem_take member)
  · rcases expandPortSpec_cases (options.ports.getD (bytes "1-1024")) with
      ⟨empty, _⟩ | ⟨set, reached, _, members⟩
    · rw [empty]
      exact List.not_mem_nil
    · rw [reached]
      intro member
      obtain ⟨tok, _, covers⟩ := (members 0).mp member
      exact absurd covers.positive (by decide)

theorem parse_ok {given : Except ParseError Options} {args : ScanArgs}
    (parsed : parse given = .ok args) :
    args.Valid ∧ ∃ options, given = .ok options ∧ args = options.args := by
  unfold parse at parsed
  split at parsed
  · cases parsed
  · next options =>
      split at parsed
      · cases parsed
      · next selected =>
          cases parsed
          refine ⟨⟨?_, ?_, options.selectedPorts_nonzero, ?_, ?_⟩, options, rfl, rfl⟩
          · exact fun empty => selected (List.isEmpty_iff.mpr empty)
          · change options.selectedPorts.Nodup
            unfold Options.selectedPorts
            dsimp only
            split
            · exact topNPorts_nodup _
            · exact expandPortSpec_nodup _
          · change 100 ≤ options.timeout.getD 2000 ∧
              options.timeout.getD 2000 ≤ 60000
            cases given : options.timeout with
            | none => decide
            | some ms => exact options.timeout_inRange ms given
          · exact Args.parseRates_valid (Option.some_get _).symm

end ServicePortScanner.Cli
