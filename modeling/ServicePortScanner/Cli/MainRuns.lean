import ServicePortScanner.Cli.Main

namespace ServicePortScanner.Cli

open ServicePortScanner.Data ServicePortScanner.Core ServicePortScanner.Net
open ServicePortScanner.Fp ServicePortScanner.Probes ServicePortScanner.Scan
open ServicePortScanner.Report

/-! What holds of the program on every command line. -/

/-- Nothing has been connected to and nothing has been written. -/
structure Process.Idle {F : Type} (process : Process F) : Prop where
  spawned : process.spawned = []
  results : process.results = []
  device : process.device = none
  failed : process.ending ≠ .exit 0 ∧ process.ending ≠ .waiting

section

variable {F : Type} [Floating F]

namespace System

variable {sys : System F} {given : Except ParseError Options}

/-- The stages before the scan have let these options through. -/
structure Scans (sys : System F) (given : Except ParseError Options)
    (options : Options) (dbs : Databases F) : Prop where
  given : given = .ok options
  valid : options.args.Valid
  allowed : checkScope sys.makeAddress options.target ⟨options.consent⟩ = .allowed
  loaded : sys.databases options.args = .ok dbs

theorem conclude_spawned (args : ScanArgs) (scan : Process F) :
    (sys.conclude args scan).spawned = scan.spawned ∧
      (sys.conclude args scan).results = scan.results := by
  unfold conclude
  split
  · exact ⟨rfl, rfl⟩
  · split
    · exact ⟨rfl, rfl⟩
    · split <;> exact ⟨rfl, rfl⟩

/-- The program stops before the scan, or waits for one of its tasks, or goes on
with what all of them have come to. -/
theorem main_cases (sys : System F) (given : Except ParseError Options) :
    (sys.main given).Idle ∨ ∃ options dbs, sys.Scans given options dbs ∧
      ((sys.tasks options.args dbs).mapM get = none ∧
        sys.main given =
          { spawned := sys.tasks options.args dbs, ending := .waiting } ∨
      ∃ futs, (sys.tasks options.args dbs).mapM get = some futs ∧
        sys.main given =
          sys.conclude options.args (sys.collected options.args dbs futs)) := by
  unfold main
  cases parsed : parse given with
  | failed exitCode error =>
      left
      dsimp only
      split
      · next nonzero =>
          exact ⟨rfl, rfl, rfl, fun zero => nonzero (Ending.exit.inj zero), nofun⟩
      · exact ⟨rfl, rfl, rfl, nofun, nofun⟩
  | ok args =>
      obtain ⟨valid, options, rfl, rfl⟩ := parse_ok parsed
      dsimp only
      split
      · next allowed =>
          unfold run
          cases loaded : sys.databases options.args with
          | error fault => exact .inl ⟨rfl, rfl, rfl, nofun, nofun⟩
          | ok dbs =>
              refine .inr ⟨options, dbs, ⟨rfl, valid, allowed, loaded⟩, ?_⟩
              dsimp only
              cases ended : (sys.tasks options.args dbs).mapM get with
              | none => exact .inl ⟨rfl, rfl⟩
              | some futs => exact .inr ⟨futs, rfl, rfl⟩
      · exact .inl ⟨rfl, rfl, rfl, nofun, nofun⟩

theorem main_spawned (sys : System F) (given : Except ParseError Options) :
    (sys.main given).spawned = [] ∨ ∃ options dbs,
      sys.Scans given options dbs ∧
        (sys.main given).spawned = sys.tasks options.args dbs := by
  rcases main_cases sys given with idle | ⟨options, dbs, scans, waits | done⟩
  · exact .inl idle.spawned
  · obtain ⟨_, process⟩ := waits
    exact .inr ⟨options, dbs, scans, by rw [process]⟩
  · obtain ⟨futs, _, process⟩ := done
    refine .inr ⟨options, dbs, scans, ?_⟩
    rw [process]
    exact (conclude_spawned _ _).1

/-! Where the program connects to. -/

/-- A host that is an address resolves to this address, and a number to this
port. -/
def ResolvesLiterals (sys : System F) : Prop :=
  ∀ request address, sys.makeAddress request.host = some address →
    ∀ endpoints, .answer (.resolved endpoints) ∈ (sys.meets request).script →
      ∀ endpoint ∈ endpoints, sys.makeAddress endpoint.address = some address ∧
        endpoint.port = request.port

theorem spawn_connectsOnly {sys : System F} {args : ScanArgs}
    {dbs : Databases F} {port : UInt16} {target : Endpoint → Prop}
    (relied : (connectsOnly target).Relied
      (sys.meets ⟨args.target, port, args.timeout⟩).script)
    {endpoint : Endpoint}
    (attempted : .attempt endpoint ∈ (sys.spawn args dbs port).run.trace) :
    target endpoint := by
  have run : (connectsOnly target).Guaranteed (fun _ => True)
      (sys.spawn args dbs port).run.trace
      (sys.spawn args dbs port).run.status :=
    (scanOne_keeps _).of_relied relied ()
  exact run.1 _ attempted

/-- On every command line the program connects to nothing but the selected ports
of its target, which is an internal address or one the user has consented to. -/
theorem main_connects_only (sys : System F) (literals : sys.ResolvesLiterals)
    (given : Except ParseError Options) {task : Spawned F}
    (started : task ∈ (sys.main given).spawned) {endpoint : Endpoint}
    (attempted : .attempt endpoint ∈ task.run.trace) :
    ∃ options address, given = .ok options ∧
      sys.makeAddress options.target = some address ∧
      (options.consent = true ∨
        (allowedTargets.append alsoAllowed).Contain address) ∧
      sys.makeAddress endpoint.address = some address ∧
      endpoint.port ∈ options.selectedPorts ∧ endpoint.port ≠ 0 := by
  rcases main_spawned sys given with none | ⟨options, dbs, scans, spawned⟩
  · rw [none] at started
    cases started
  · rw [spawned] at started
    obtain ⟨port, selected, rfl⟩ := List.mem_map.mp started
    obtain ⟨address, parsed, permitted⟩ := inScope_of_allowed scans.allowed
    let request : ScanRequest := ⟨options.target, port, options.args.timeout⟩
    let target (endpoint : Endpoint) : Prop :=
      sys.makeAddress endpoint.address = some address ∧ endpoint.port = port
    have relied : (connectsOnly target).Relied (sys.meets request).script := by
      intro answer member
      cases answer with
      | resolved endpoints =>
          exact literals request address parsed endpoints member
      | _ => trivial
    obtain ⟨same, rfl⟩ := spawn_connectsOnly relied attempted
    refine ⟨options, address, scans.given, parsed, permitted, same, selected, ?_⟩
    exact fun zero => scans.valid.nonzero (zero ▸ selected)

/-! What is reported. -/

/-- The result of a task that has returned one. -/
def result? (task : Spawned F) : Option (ScanResult F) :=
  match task.run.status with
  | .returned result => some result
  | _ => none

theorem collect_get {tasks : List (Spawned F)}
    {futs : List (Except RegexError (ScanResult F))}
    (ended : tasks.mapM get = some futs) (cdnProvider : Bytes)
    (epss : EpssDb F) :
    collect cdnProvider epss futs = tasks.filterMap fun task =>
      (result? task).map (decorate cdnProvider epss) := by
  induction tasks generalizing futs with
  | nil =>
      cases ended
      rfl
  | cons task tasks induction =>
      rw [List.mapM_cons] at ended
      obtain ⟨fut, got, others⟩ := Option.bind_eq_some_iff.mp ended
      obtain ⟨futs, rest, same⟩ := Option.bind_eq_some_iff.mp others
      cases same
      have tail := induction rest
      unfold collect at tail ⊢
      unfold get at got
      cases status : task.run.status with
      | returned result =>
          rw [status] at got
          cases got
          simp [result?, status, tail]
      | threw error =>
          rw [status] at got
          cases got
          simp [result?, status, tail]
      | waiting wait =>
          rw [status] at got
          cases got

omit [Floating F] in
theorem get_of_ended {tasks : List (Spawned F)}
    {futs : List (Except RegexError (ScanResult F))}
    (ended : tasks.mapM get = some futs) {task : Spawned F}
    (member : task ∈ tasks) : get task ≠ none := by
  induction tasks generalizing futs with
  | nil => cases member
  | cons first tasks induction =>
      rw [List.mapM_cons] at ended
      obtain ⟨fut, got, others⟩ := Option.bind_eq_some_iff.mp ended
      obtain ⟨futs, rest, _⟩ := Option.bind_eq_some_iff.mp others
      rcases List.mem_cons.mp member with rfl | later
      · rw [got]
        nofun
      · exact induction rest later

/-- The results are those of the ports whose tasks have returned one, in the order
of the ports, and each tells what its task has been answered.  Only a task that
has thrown leaves its port out. -/
structure Reports (sys : System F) (options : Options) (dbs : Databases F)
    (results : List (ScanResult F)) : Prop where
  ports : results.map (·.port) = options.selectedPorts.filter fun port =>
    (result? (sys.spawn options.args dbs port)).isSome
  lost : ∀ port ∈ options.selectedPorts, port ∉ results.map (·.port) →
    ∃ error, (sys.spawn options.args dbs port).run.status = .threw error
  rows : ∀ r ∈ results, ∃ plain,
    let request : ScanRequest := ⟨options.target, r.port, options.args.timeout⟩
    let meeting := sys.meets request
    r = decorate (dbs.cdn.lookup options.target) dbs.epss plain ∧
      Tells request meeting.rtt meeting.timestamp
        (if options.noProbe then none else some dbs.probes) dbs.cves
        meeting.script plain

theorem spawn_tells {sys : System F} {args : ScanArgs} {dbs : Databases F}
    {port : UInt16} {plain : ScanResult F}
    (returned : result? (sys.spawn args dbs port) = some plain) :
    let request : ScanRequest := ⟨args.target, port, args.timeout⟩
    Tells request (sys.meets request).rtt (sys.meets request).timestamp
      (if args.noProbe then none else some dbs.probes) dbs.cves
      (sys.meets request).script plain := by
  unfold result? at returned
  split at returned
  · next result status =>
      cases returned
      exact scanOne_tells status
  · cases returned

theorem port_of_tells {request : ScanRequest} {rtt timestamp : Int}
    {probes : Option (List ProbeVariant)} {cves : Option (CveDb F)}
    {script : Script} {result : ScanResult F}
    (tells : Tells request rtt timestamp probes cves script result) :
    result.port = request.port :=
  congrArg ScanResult.port tells.scanned

/-- What goes back to where it comes from stands in the same order. -/
theorem map_filterMap_of_back {α β : Type} {f : α → Option β} {back : β → α}
    (backs : ∀ a b, f a = some b → back b = a) (list : List α) :
    (list.filterMap f).map back = list.filter fun a => (f a).isSome := by
  induction list with
  | nil => rfl
  | cons a list induction =>
      cases made : f a with
      | none => simp [made, induction]
      | some b => simp [made, induction, backs a b made]

theorem collected_reports {sys : System F} {options : Options}
    {dbs : Databases F} {futs : List (Except RegexError (ScanResult F))}
    (ended : (sys.tasks options.args dbs).mapM get = some futs) :
    Reports sys options dbs (sys.collected options.args dbs futs).results := by
  have results : (sys.collected options.args dbs futs).results = _ :=
    collect_get ended _ _
  rw [results]
  have ports : ((sys.tasks options.args dbs).filterMap fun task =>
      (result? task).map
        (decorate (dbs.cdn.lookup options.target) dbs.epss)).map (·.port) =
      options.selectedPorts.filter fun port =>
        (result? (sys.spawn options.args dbs port)).isSome := by
    unfold tasks
    rw [List.filterMap_map]
    refine (map_filterMap_of_back ?_ _).trans ?_
    · intro port r made
      obtain ⟨plain, returned, rfl⟩ := Option.map_eq_some_iff.mp made
      exact port_of_tells (spawn_tells returned)
    · simp only [Function.comp_apply, Option.isSome_map]
      rfl
  refine ⟨ports, ?_, ?_⟩
  · intro port selected missing
    have waited := get_of_ended ended (List.mem_map_of_mem selected)
    have unreturned : ¬ (result? (sys.spawn options.args dbs port)).isSome := by
      intro returned
      exact missing (ports ▸ List.mem_filter.mpr ⟨selected, returned⟩)
    cases status : (sys.spawn options.args dbs port).run.status with
    | returned result => simp [result?, status] at unreturned
    | threw error => exact ⟨error, rfl⟩
    | waiting wait => simp [get, status] at waited
  · unfold tasks
    rw [List.filterMap_map]
    intro r member
    obtain ⟨port, _, made⟩ := List.mem_filterMap.mp member
    obtain ⟨plain, returned, rfl⟩ := Option.map_eq_some_iff.mp made
    have same : plain.port = port := port_of_tells (spawn_tells returned)
    refine ⟨plain, rfl, ?_⟩
    have tells := spawn_tells returned
    rw [← same] at tells
    exact tells

theorem writeToFile_written {buffering : Buffering} {opens : Bytes → Bool}
    {failsAt : Nat} {path content : Bytes} {device : Device UInt8}
    (wrote : writeToFile buffering opens failsAt path content = (true, device)) :
    device.written = content.take failsAt := by
  unfold writeToFile at wrote
  dsimp only at wrote
  split at wrote
  · cases wrote
    exact close_insert_written buffering failsAt content
  · split at wrote
    · have same := congrArg Prod.snd wrote
      dsimp only at same
      rw [← same]
      exact close_insert_written buffering failsAt content
    · cases wrote

/-- An exit with 0 has been through the scan, and what is announced as written is
the report on its results. -/
theorem main_succeeds {sys : System F} {given : Except ParseError Options}
    (succeeds : (sys.main given).ending = .exit 0) :
    ∃ options dbs, sys.Scans given options dbs ∧
      Reports sys options dbs (sys.main given).results ∧
      (options.args.report = .none ∧
          (sys.main given).listing = listing (sys.main given).results ∨
        ∃ body device,
          sys.body options.args.report (sys.main given).results = .ok body ∧
          (sys.main given).device = some device ∧
          device.written = body.take sys.failsAt) := by
  rcases main_cases sys given with idle | ⟨options, dbs, scans, waits | done⟩
  · exact (idle.failed.1 succeeds).elim
  · obtain ⟨_, process⟩ := waits
    rw [process] at succeeds
    cases succeeds
  · obtain ⟨futs, ended, process⟩ := done
    have results : (sys.conclude options.args
        (sys.collected options.args dbs futs)).results =
        (sys.collected options.args dbs futs).results :=
      (conclude_spawned _ _).2
    rw [process] at succeeds ⊢
    rw [results]
    refine ⟨options, dbs, scans, collected_reports ended, ?_⟩
    unfold conclude at succeeds ⊢
    split at succeeds
    · next plain =>
        rw [if_pos plain]
        exact .inl ⟨plain, rfl⟩
    · next reported =>
        rw [if_neg reported]
        right
        split at succeeds
        · cases succeeds
        · next body made =>
            rw [made]
            split at succeeds
            · next device wrote =>
                exact ⟨body, device, rfl, rfl, writeToFile_written wrote⟩
            · cases succeeds

/-- With `--report csv` and room for the text, an exit with 0 leaves a file that
reads as one record for each port whose task has returned, in their order. -/
theorem main_csv (numbers : PrintsWithout F Csv.Reserved) (sys : System F)
    {options : Options} (csv : options.report = some (bytes "csv"))
    (succeeds : (sys.main (.ok options)).ending = .exit 0) :
    let results := (sys.main (.ok options)).results
    ∃ dbs device, sys.databases options.args = .ok dbs ∧
      Reports sys options dbs results ∧
      (sys.main (.ok options)).device = some device ∧
      ((toCsv results).length ≤ sys.failsAt →
        Csv.read device.written =
          some (toCsvHeader :: results.map toCsvRecord)) := by
  obtain ⟨_, dbs, scans, reports, output⟩ := main_succeeds succeeds
  cases scans.given
  have kind : options.args.report = .csv := by
    change parseReport (options.report.getD (bytes "none")) = .csv
    rw [csv]
    rfl
  rw [kind] at output
  rcases output with ⟨absurd, _⟩ | ⟨body, device, made, written, content⟩
  · cases absurd
  · cases made
    refine ⟨dbs, device, scans.loaded, reports, written, fun fits => ?_⟩
    rw [content, List.take_of_length_le fits]
    exact read_toCsv numbers _

/-! Networks of content providers. -/

/-- A dotted quad is read as the address that it denotes. -/
def ReadsQuads (sys : System F) : Prop :=
  ∀ s addr address, parseIpv4 s = some addr →
    sys.makeAddress s = some address → address = .v4 addr.toBitVec

/-- Every internal address lies apart from every network of the table. -/
theorem loadDefault_external {addr : UInt32}
    (internal : (allowedTargets.append alsoAllowed).Contain (.v4 addr.toBitVec)) :
    ∀ r ∈ CdnDatabase.loadDefault.ranges, ¬ r.Matches addr := by
  have apart : ∀ block ∈ (allowedTargets.append alsoAllowed).v4,
      ∀ r ∈ CdnDatabase.loadDefault.ranges,
        block.base &&& r.mask.toBitVec ≠
          r.base.toBitVec &&& Cidr.mask 32 block.length := by
    decide +kernel
  obtain ⟨block, member, here⟩ := internal
  rw [Cidr.contains_iff_mask] at here
  intro r listed there
  apply apart block member r listed
  rw [← here, ← there, UInt32.toBitVec_and, BitVec.and_assoc, BitVec.and_assoc,
    BitVec.and_comm (Cidr.mask 32 block.length)]

theorem ok_of_bind {ε α β : Type} {first : Except ε α} {next : α → Except ε β}
    {result : β} (bound : first >>= next = .ok result) :
    ∃ value, first = .ok value ∧ next value = .ok result := by
  cases first with
  | error fault => cases bound
  | ok value => exact ⟨value, rfl, bound⟩

theorem databases_cdn {sys : System F} {args : ScanArgs} {dbs : Databases F}
    (loaded : sys.databases args = .ok dbs) :
    sys.cdnOf args.cdnDbPath = .ok dbs.cdn := by
  obtain ⟨cves, _, rest⟩ := ok_of_bind loaded
  obtain ⟨probes, _, rest⟩ := ok_of_bind rest
  obtain ⟨cdn, found, rest⟩ := ok_of_bind rest
  cases rest
  exact found

omit [Floating F] in
/-- The networks are the embedded ones where no file has others. -/
theorem cdnOf_embedded {sys : System F} {path : Bytes} {db : CdnDatabase}
    (found : sys.cdnOf path = .ok db)
    (embedded : path = [] ∨ sys.readFile path = none) :
    db = CdnDatabase.loadDefault := by
  unfold cdnOf at found
  by_cases empty : path = []
  · subst empty
    cases found
    rfl
  · have missing := embedded.resolve_left empty
    rw [if_neg fun nil => empty (List.isEmpty_iff.mp nil),
      CdnDatabase.loadFromFile, missing] at found
    cases found
    rfl

/-- Without consent and without a file of networks no result names a provider. -/
theorem main_internal_cdn (sys : System F) (quads : sys.ReadsQuads)
    {options : Options} (unconsented : options.consent = false)
    (embedded : options.cdnDb.getD [] = [] ∨
      sys.readFile (options.cdnDb.getD []) = none) :
    ∀ r ∈ (sys.main (.ok options)).results, r.cdn = [] := by
  rcases main_cases sys (.ok options) with idle | ⟨same, dbs, scans, waits | done⟩
  · rw [idle.results]
    nofun
  · obtain ⟨_, process⟩ := waits
    rw [process]
    nofun
  · obtain ⟨futs, ended, process⟩ := done
    cases scans.given
    have cdn : dbs.cdn = CdnDatabase.loadDefault :=
      cdnOf_embedded (databases_cdn scans.loaded) embedded
    obtain ⟨address, parsed, permitted⟩ := inScope_of_allowed scans.allowed
    have internal := permitted.resolve_left (by simp [unconsented])
    have unnamed : dbs.cdn.lookup options.target = [] := by
      rw [cdn]
      cases read : parseIpv4 options.target with
      | none => simp only [CdnDatabase.lookup, read]
      | some addr =>
          rw [quads _ addr address read parsed] at internal
          exact CdnDatabase.lookup_eq_nil_of_no_match read
            (loadDefault_external internal)
    rw [process, (conclude_spawned _ _).2]
    intro r member
    obtain ⟨plain, rfl, _⟩ := (collected_reports ended).rows r member
    exact unnamed

end System

end

/-! A run on a host with an SSH server and a closed port. -/

def labMeeting (request : ScanRequest) : Meeting where
  script :=
    let endpoint : Endpoint := ⟨request.host, request.port⟩
    if request.port = 22 then
      answers [.granted, .resolved [endpoint], .connected, .resolved [endpoint],
        .connected, .received (bytes "SSH-2.0-OpenSSH_7.4\r\n")] ++
      [.timer, .answer (.searched (.found
        [bytes "SSH-2.0-OpenSSH_7.4", bytes "OpenSSH_7.4"]))]
    else answers [.granted, .resolved [endpoint], .refused]
  rtt := 1
  timestamp := 0

def labSystem : System ℚ where
  readFile _ := none
  parseJson _ := .error .parseError
  parseDouble _ := none
  compiles _ := true
  makeAddress s := (parseIpv4 s).map fun addr => .v4 addr.toBitVec
  sha256Hex _ := []
  dump _ := .error []
  meets := labMeeting
  buffering := .ofSize 8192
  opens _ := true
  failsAt := 1000000

def labOptions : Options where
  target := bytes "10.0.0.5"
  ports := some (bytes "22,23")
  report := some (bytes "csv")
  outPath := some (bytes "scan.csv")
  rate_inRange := by decide
  maxRate_inRange := by decide
  topPorts_inRange := by simp
  timeout_inRange := by simp
  report_isMember := by decide

theorem labSystem_resolvesLiterals : labSystem.ResolvesLiterals := by
  intro request address parsed endpoints member
  have resolved : endpoints = [⟨request.host, request.port⟩] := by
    change _ ∈ (labMeeting request).script at member
    unfold labMeeting answers at member
    dsimp only at member
    split at member <;> simpa using member
  subst resolved
  intro endpoint listed
  rw [List.mem_singleton.mp listed]
  exact ⟨parsed, rfl⟩

theorem labSystem_readsQuads : labSystem.ReadsQuads := by
  intro s addr address quad parsed
  change (parseIpv4 s).map _ = _ at parsed
  rw [quad] at parsed
  exact (Option.some.inj parsed).symm

theorem main_connects_only_lab :
    ∃ options address, .ok labOptions = (.ok options : Except ParseError Options) ∧
      labSystem.makeAddress options.target = some address ∧
      (options.consent = true ∨
        (allowedTargets.append alsoAllowed).Contain address) ∧
      labSystem.makeAddress (bytes "10.0.0.5") = some address ∧
      (22 : UInt16) ∈ options.selectedPorts ∧ (22 : UInt16) ≠ 0 := by
  have attempts : (labSystem.main (.ok labOptions)).spawned.any (fun task =>
      task.run.trace.contains (.attempt ⟨bytes "10.0.0.5", 22⟩)) = true := by
    decide +kernel
  obtain ⟨task, started, attempted⟩ := List.any_eq_true.mp attempts
  exact System.main_connects_only labSystem labSystem_resolvesLiterals
    (.ok labOptions) started (List.contains_iff_mem.mp attempted)

theorem main_csv_lab :
    let results := (labSystem.main (.ok labOptions)).results
    ∃ dbs device, labSystem.databases labOptions.args = .ok dbs ∧
      System.Reports labSystem labOptions dbs results ∧
      (labSystem.main (.ok labOptions)).device = some device ∧
      ((toCsv results).length ≤ labSystem.failsAt →
        Csv.read device.written =
          some (toCsvHeader :: results.map toCsvRecord)) := by
  exact System.main_csv
    (Exact.printsWithout fun _ => not_reserved_of_isNumeral) labSystem rfl
      (by decide +kernel)

theorem main_internal_cdn_lab :
    ∃ r, r ∈ (labSystem.main (.ok labOptions)).results ∧ r.port = 22 ∧
      r.cdn = [] := by
  have scanned : ((labSystem.main (.ok labOptions)).results.any fun r =>
      r.port == 22) = true := by
    decide +kernel
  obtain ⟨r, member, port⟩ := List.any_eq_true.mp scanned
  exact ⟨r, member, eq_of_beq port,
    System.main_internal_cdn labSystem labSystem_readsQuads rfl (.inl rfl) r
      member⟩

end ServicePortScanner.Cli
