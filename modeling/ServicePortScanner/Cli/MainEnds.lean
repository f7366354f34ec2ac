import ServicePortScanner.Cli.MainRuns
import ServicePortScanner.Scan.Suspension

namespace ServicePortScanner.Cli

open ServicePortScanner.Data ServicePortScanner.Core ServicePortScanner.Net
open ServicePortScanner.Fp ServicePortScanner.Probes ServicePortScanner.Scan

/-! When the program comes to an end. -/

section

variable {F : Type} [Floating F] {sha256Hex : Bytes → Bytes}
variable {request : ScanRequest} {rtt timestamp : Int}
variable {probes : Option (List ProbeVariant)} {cves : Option (CveDb F)}

/-- A task that has its token and does not identify a service has come to an end
when its timer has expired. -/
theorem scanOne_ended {rest : Script}
    (unprobed : probes = none ∨ connects rest = false)
    (usedUp : ((scanOne sha256Hex request rtt timestamp probes cves :
      Task Unit (ScanResult F)).run () (.answer .granted :: rest)).UsedUp) :
    ((scanOne sha256Hex request rtt timestamp probes cves :
      Task Unit (ScanResult F)).run ()
        (.answer .granted :: rest ++ [.timer])).Ended := by
  have same (later : Script) (closed : probes = none ∨ connects later = false) :
      (scanOne sha256Hex request rtt timestamp probes cves :
        Task Unit (ScanResult F)).run () (.answer .granted :: later) =
      ((connectScan request timestamp >>=
        afterConnect sha256Hex request rtt none cves).run () later).after
          [.token] := by
    rcases closed with rfl | closed
    · rfl
    · have rejects : accepts (.answer .granted :: later) = false := closed
      exact scanOne_rejects rejects ()
  rw [same rest unprobed] at usedUp
  have later := same (rest ++ [.timer]) (by rwa [connects_append_timer])
  rw [List.cons_append, later]
  have behind (base : ScanResult F) (store : Unit) (later : Script) :
      ((afterConnect sha256Hex request rtt none cves base :
        Task Unit (ScanResult F)).run store later).Ended := by
    rw [afterConnect_eq (.inr rfl)]
    nofun
  have scanning : ((connectScan request timestamp :
      Task Unit (ScanResult F)).run () rest).UsedUp :=
    Co.bind_usedUp usedUp
  rw [connectScan_eq] at scanning
  have scanned : ((connectScan request timestamp :
      Task Unit (ScanResult F)).run () (rest ++ [.timer])).Ended := by
    rw [connectScan_eq]
    exact Co.bind_ended (Co.race_ended (Co.bind_usedUp scanning)) nofun
  exact Co.bind_ended scanned behind

omit [Floating F] in
theorem mapM_get_ne_none {tasks : List (Spawned F)}
    (ended : ∀ task ∈ tasks, get task ≠ none) : tasks.mapM get ≠ none := by
  induction tasks with
  | nil => nofun
  | cons task tasks induction =>
      rw [List.forall_mem_cons] at ended
      obtain ⟨fut, first⟩ := Option.ne_none_iff_exists'.mp ended.1
      obtain ⟨futs, rest⟩ := Option.ne_none_iff_exists'.mp (induction ended.2)
      rw [List.mapM_cons, first, rest]
      nofun

namespace System

/-- The same, until every timer has expired. -/
def timeOut (sys : System F) : System F :=
  { sys with
    meets := fun request =>
      let meeting := sys.meets request
      { meeting with script := meeting.script ++ [.timer] } }

/-- The limiter grants the task of a port its token, and whatever is answered to
the task is an answer to what it waits for. -/
structure Heard (sys : System F) (args : ScanArgs) (dbs : Databases F)
    (port : UInt16) : Prop where
  granted : ∃ rest,
    (sys.meets ⟨args.target, port, args.timeout⟩).script =
      .answer .granted :: rest
  usedUp : (sys.spawn args dbs port).run.UsedUp

theorem spawn_timeOut {sys : System F} {args : ScanArgs} {dbs : Databases F}
    {port : UInt16} (heard : sys.Heard args dbs port)
    (unprobed : args.noProbe = true ∨
      accepts (sys.meets ⟨args.target, port, args.timeout⟩).script = false) :
    get (sys.timeOut.spawn args dbs port) ≠ none := by
  obtain ⟨⟨rest, script⟩, usedUp⟩ := heard
  unfold spawn at usedUp
  rw [script] at unprobed
  have ended : (sys.timeOut.spawn args dbs port).run.Ended := by
    unfold spawn timeOut
    dsimp only at usedUp ⊢
    rw [script] at usedUp ⊢
    refine scanOne_ended ?_ usedUp
    rcases unprobed with noProbe | closed
    · exact .inl (if_pos noProbe)
    · exact .inr closed
  unfold get
  split
  · nofun
  · nofun
  · next wait waits => exact absurd waits (ended wait)

theorem conclude_ending (sys : System F) (args : ScanArgs) (scan : Process F) :
    (sys.conclude args scan).ending ≠ .waiting := by
  unfold conclude
  split
  · nofun
  · split
    · nofun
    · split <;> nofun

/-- Without probes the program does not wait forever on any peers: once each task
has its token, it ends when the timers expire.  With probes it still does where no
connection is accepted. -/
theorem main_ends (sys : System F) {options : Options}
    (heard : ∀ dbs, sys.databases options.args = .ok dbs →
      ∀ port ∈ options.args.ports, sys.Heard options.args dbs port)
    (unprobed : options.noProbe = true ∨ ∀ port ∈ options.args.ports,
      accepts (sys.meets
        ⟨options.target, port, options.args.timeout⟩).script = false) :
    (sys.timeOut.main (.ok options)).ending ≠ .waiting := by
  rcases main_cases sys.timeOut (.ok options) with
    idle | ⟨_, dbs, scans, ⟨waits, _⟩ | ⟨futs, _, process⟩⟩
  · exact idle.failed.2
  · cases scans.given
    have loaded : sys.databases options.args = .ok dbs := scans.loaded
    refine absurd waits (mapM_get_ne_none ?_)
    intro task member
    obtain ⟨port, selected, rfl⟩ := List.mem_map.mp member
    apply spawn_timeOut (heard dbs loaded port selected)
    exact unprobed.imp id fun closed => closed port selected
  · rw [process]
    exact conclude_ending _ _ _

/-! The ports of a host that drops what it is sent. -/

end System

end

def droppedMeeting (request : ScanRequest) : Meeting where
  script := answers [.granted, .resolved [⟨request.host, request.port⟩]]
  rtt := 1
  timestamp := 0

def droppedSystem : System ℚ :=
  { labSystem with meets := droppedMeeting }

theorem main_ends_dropped :
    (droppedSystem.main (.ok labOptions)).ending = .waiting ∧
      (droppedSystem.timeOut.main (.ok labOptions)).ending ≠ .waiting := by
  refine ⟨by decide +kernel, System.main_ends droppedSystem ?_ ?_⟩
  · intro dbs _ port _
    exact ⟨⟨_, rfl⟩, fun _ _ => rfl⟩
  · right
    intro port _
    rfl

end ServicePortScanner.Cli
