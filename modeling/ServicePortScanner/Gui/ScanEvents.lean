import ServicePortScanner.Gui.ScanController

namespace ServicePortScanner.Gui.ScanController

open ServicePortScanner.Data ServicePortScanner.Core ServicePortScanner.Fp

/-! The events of a scan, in the order the worker thread posts them. -/

section

variable {F : Type} [Floating F] (databases : Databases F)

def resultEvents (target : Bytes) (futs : List (Future F)) (done : Nat) :
    List (Event F) :=
  match futs[done]? with
  | some fut => (Worker.kept databases target fut).toList.map .resultReady
  | none => []

/-- The events of the first tasks: of each its result, if it has one, and its
progress. -/
def reports (target : Bytes) (futs : List (Future F)) : Nat → List (Event F)
  | 0 => []
  | done + 1 =>
      reports target futs done ++ (resultEvents databases target futs done ++
        [.progressChanged (done + 1) futs.length])

omit [Floating F] in
def resultPorts (events : List (Event F)) : List UInt16 :=
  events.filterMap fun
    | .resultReady r => some r.port
    | _ => none

omit [Floating F] in
def Future.Done (fut : Future F) : Prop :=
  fut.outcome.isSome = true

namespace Job

omit [Floating F] in
def errors (job : Job F) : List (Event F) :=
  job.failed.toList.map fun what => .scanError (bytes "Scan error: " ++ what)

omit [Floating F] in
/-- The futures are those of a front of the ports, of all ports where nobody
cancels, and the first `count` of them are done. -/
structure Collected (job : Job F) (count : Nat) : Prop where
  unfailed : job.failed = none
  spawned : job.futs.map Future.port <+: job.request.ports
  all : job.cancelled = false → job.futs.map Future.port = job.request.ports
  le : count ≤ job.futs.length
  ready : ∀ index < count, ∃ fut, job.futs[index]? = some fut ∧ fut.Done

/-- `events` are all that a scan posts before it finishes, when the loop has
taken the first `count` of its tasks. -/
structure Reported (job : Job F) (events : List (Event F)) (count : Nat) :
    Prop where
  events_eq : events =
    reports databases job.request.target job.futs count ++ job.errors
  le : count ≤ job.futs.length
  ready : ∀ index < count, ∃ fut, job.futs[index]? = some fut ∧ fut.Done
  spawned : job.futs.map Future.port <+: job.request.ports
  all : job.cancelled = false → job.failed = none →
    count = job.futs.length ∧ job.futs.map Future.port = job.request.ports

variable {databases}

theorem Collected.reported {job : Job F} {count : Nat}
    (collected : job.Collected count)
    (done : job.cancelled = true ∨ job.futs.length ≤ count) :
    job.Reported databases
      (reports databases job.request.target job.futs count) count where
  events_eq := by simp [errors, collected.unfailed]
  le := collected.le
  ready := collected.ready
  spawned := collected.spawned
  all := by
    intro uncancelled _
    rcases done with cancelled | above
    · rw [uncancelled] at cancelled
      cases cancelled
    · exact ⟨collected.le.antisymm above, collected.all uncancelled⟩

omit [Floating F] in
theorem Collected.succ {job : Job F} {done : Nat} {fut : Future F}
    (collected : job.Collected done) (atDone : job.futs[done]? = some fut)
    (isDone : fut.Done) : job.Collected (done + 1) where
  unfailed := collected.unfailed
  spawned := collected.spawned
  all := collected.all
  le := (List.getElem?_eq_some_iff.mp atDone).1
  ready := by
    intro index within
    rcases Nat.lt_succ_iff_lt_or_eq.mp within with before | rfl
    · exact collected.ready index before
    · exact ⟨fut, atDone, isDone⟩

/-- What the pool does to the futures: those that are done stay as they
are. -/
structure Completes (job job' : Job F) : Prop where
  request : job'.request = job.request
  cancelled : job'.cancelled = job.cancelled
  failed : job'.failed = job.failed
  ports : job'.futs.map Future.port = job.futs.map Future.port
  same : ∀ (index : Nat) (fut : Future F), job.futs[index]? = some fut → fut.Done →
    job'.futs[index]? = some fut

namespace Completes

variable {job job' : Job F} (completes : job.Completes job')
include completes

omit [Floating F] in
theorem length_eq : job'.futs.length = job.futs.length := by
  simpa using congrArg List.length completes.ports

omit [Floating F] in
theorem ready {count : Nat} (ready : ∀ index < count, ∃ fut,
    job.futs[index]? = some fut ∧ fut.Done) :
    ∀ index < count, ∃ fut, job'.futs[index]? = some fut ∧ fut.Done := by
  intro index within
  obtain ⟨fut, atIndex, isDone⟩ := ready index within
  exact ⟨fut, completes.same index fut atIndex isDone, isDone⟩

theorem resultEvents_eq {done : Nat}
    (ready : ∃ fut, job.futs[done]? = some fut ∧ fut.Done) :
    resultEvents databases job'.request.target job'.futs done =
      resultEvents databases job.request.target job.futs done := by
  obtain ⟨fut, atDone, isDone⟩ := ready
  rw [resultEvents, resultEvents, completes.same done fut atDone isDone, atDone,
    completes.request]

theorem reports_eq {count : Nat} (ready : ∀ index < count, ∃ fut,
    job.futs[index]? = some fut ∧ fut.Done) :
    reports databases job'.request.target job'.futs count =
      reports databases job.request.target job.futs count := by
  induction count with
  | zero => rfl
  | succ done induction =>
      have here := ready done (Nat.lt_succ_self done)
      have before := induction fun index within =>
        ready index (Nat.lt_succ_of_lt within)
      rw [reports, reports, before, completes.resultEvents_eq here,
        completes.length_eq]

omit [Floating F] in
theorem collected {count : Nat} (collected : job.Collected count) :
    job'.Collected count where
  unfailed := completes.failed.trans collected.unfailed
  spawned := by
    rw [completes.ports, completes.request]
    exact collected.spawned
  all := by
    rw [completes.cancelled, completes.ports, completes.request]
    exact collected.all
  le := completes.length_eq ▸ collected.le
  ready := completes.ready collected.ready

theorem reported {events : List (Event F)} {count : Nat}
    (reported : job.Reported databases events count) :
    job'.Reported databases events count where
  events_eq := by
    rw [completes.reports_eq reported.ready, errors, completes.failed]
    exact reported.events_eq
  le := completes.length_eq ▸ reported.le
  ready := completes.ready reported.ready
  spawned := by
    rw [completes.ports, completes.request]
    exact reported.spawned
  all := by
    rw [completes.cancelled, completes.failed, completes.length_eq,
      completes.ports, completes.request]
    exact reported.all

end Completes

end Job

namespace Worker

def Stage (worker : Worker F) : Prop :=
  let total := worker.futs.length
  let reported := reports databases worker.request.target worker.futs
  let resulting := resultEvents databases worker.request.target worker.futs
  match worker.point with
  | .startPool =>
      worker.posted = [] ∧ worker.failed = none ∧ worker.futs = []
  | .checkSpawn rest => worker.posted = [] ∧ worker.failed = none ∧
      worker.futs.map Future.port ++ rest = worker.request.ports
  | .spawn port rest => worker.posted = [] ∧ worker.failed = none ∧
      worker.futs.map Future.port ++ port :: rest = worker.request.ports
  | .checkCollect done =>
      worker.Collected done ∧ worker.posted = reported done
  | .get done =>
      worker.Collected done ∧ worker.posted = reported done ∧ done < total
  | .postResult done r => worker.Collected (done + 1) ∧
      worker.posted = reported done ∧ resulting done = [.resultReady r]
  | .postProgress done => worker.Collected (done + 1) ∧
      worker.posted = reported done ++ resulting done
  | .stopPool | .postFinished =>
      ∃ count, worker.Reported databases worker.posted count
  | .emitError what =>
      worker.posted = [] ∧ worker.failed = some what ∧ worker.futs = []
  | .clearRunning | .leaving | .exited => ∃ events count,
      worker.posted = events ++ [.scanFinished] ∧
        worker.Reported databases events count

variable {databases}

theorem Stage.step {worker worker' : Worker F} {cancel : Bool}
    {event : Option (Event F)} (stage : worker.Stage databases)
    (noted : worker.point.scanning = true → cancel = true →
      worker.cancelled = true)
    (stepped : worker.step databases cancel = some (worker', event)) :
    worker'.Stage databases := by
  cases here : worker.point with
  | startPool =>
      simp only [Worker.step, Stage, here] at stepped stage
      cases stepped
      obtain ⟨posted, unfailed, empty⟩ := stage
      exact ⟨posted, unfailed, by simp [moveTo, empty]⟩
  | checkSpawn rest =>
      cases rest with
      | nil =>
          simp only [Worker.step, Stage, here] at stepped stage
          cases stepped
          obtain ⟨posted, unfailed, ports⟩ := stage
          rw [List.append_nil] at ports
          refine ⟨⟨unfailed, ?_, fun _ => ports, Nat.zero_le _, ?_⟩, posted⟩
          · exact ports ▸ List.prefix_refl _
          · intro fut member
            cases member
      | cons port rest =>
          simp only [Worker.step, Stage, here] at stepped stage
          cases stepped
          obtain ⟨posted, unfailed, ports⟩ := stage
          cases cancelling : cancel with
          | false => exact ⟨posted, unfailed, ports⟩
          | true =>
              have cancelled := noted (by rw [here]; rfl) cancelling
              refine ⟨⟨unfailed, ⟨port :: rest, ports⟩, ?_, Nat.zero_le _,
                ?_⟩, posted⟩
              · intro uncancelled
                rw [show worker.cancelled = false from uncancelled] at cancelled
                cases cancelled
              · intro fut member
                cases member
  | spawn port rest =>
      simp only [Worker.step, Stage, here] at stepped stage
      cases stepped
      obtain ⟨posted, unfailed, ports⟩ := stage
      exact ⟨posted, unfailed, by simpa using ports⟩
  | checkCollect done =>
      simp only [Worker.step, Stage, here] at stepped stage
      cases stepped
      obtain ⟨collected, posted⟩ := stage
      by_cases behind : worker.futs.length ≤ done
      · rw [if_pos behind]
        exact ⟨done, posted ▸ collected.reported (.inr behind)⟩
      · rw [if_neg behind]
        cases cancelling : cancel with
        | false => exact ⟨collected, posted, not_le.mp behind⟩
        | true =>
            have cancelled := noted (by rw [here]; rfl) cancelling
            exact ⟨done, posted ▸ collected.reported (.inl cancelled)⟩
  | get done =>
      obtain ⟨fut, atDone, ready, same⟩ := step_get here stepped
      cases same
      simp only [Stage, here] at stage
      obtain ⟨collected, posted, _⟩ := stage
      have further := collected.succ atDone ready
      cases result : kept databases worker.request.target fut with
      | none =>
          refine ⟨further, ?_⟩
          simp only [moveTo, resultEvents, atDone, result, posted]
          simp
      | some r =>
          refine ⟨further, posted, ?_⟩
          simp only [moveTo, resultEvents, atDone, result]
          rfl
  | postResult done r =>
      simp only [Worker.step, Stage, here] at stepped stage
      cases stepped
      obtain ⟨collected, posted, resulting⟩ := stage
      refine ⟨collected, ?_⟩
      simp [post, posted, resulting]
  | postProgress done =>
      simp only [Worker.step, Stage, here] at stepped stage
      cases stepped
      obtain ⟨collected, posted⟩ := stage
      refine ⟨collected, ?_⟩
      simp [post, posted, reports]
  | stopPool =>
      simp only [Worker.step, Stage, here] at stepped stage
      obtain ⟨_, same⟩ := Option.ite_none_right_eq_some.mp stepped
      cases same
      exact stage
  | emitError what =>
      simp only [Worker.step, Stage, here] at stepped stage
      cases stepped
      obtain ⟨posted, failed, empty⟩ := stage
      refine ⟨0, ⟨?_, Nat.zero_le _, by simp, ?_, ?_⟩⟩
      · simp [post, posted, Job.errors, failed, reports]
      · simp [post, empty]
      · intro _ unfailed
        rw [show worker.failed = none from unfailed] at failed
        cases failed
  | postFinished =>
      simp only [Worker.step, Stage, here] at stepped stage
      cases stepped
      obtain ⟨count, reported⟩ := stage
      exact ⟨worker.posted, count, rfl, reported⟩
  | clearRunning | leaving =>
      simp only [Worker.step, Stage, here] at stepped stage
      cases stepped
      exact stage
  | exited =>
      simp only [Worker.step, here] at stepped
      cases stepped

theorem Stage.completes {worker worker' : Worker F}
    (stage : worker.Stage databases)
    (completes : worker.toJob.Completes worker'.toJob)
    (point : worker'.point = worker.point)
    (posted : worker'.posted = worker.posted) : worker'.Stage databases := by
  have empty (none : worker.futs = []) : worker'.futs = [] := by
    have ports := completes.ports
    rw [none] at ports
    exact List.map_eq_nil_iff.mp ports
  unfold Stage at stage ⊢
  rw [point]
  cases here : worker.point with
  | startPool =>
      simp only [here] at stage
      exact ⟨posted.trans stage.1, completes.failed.trans stage.2.1,
        empty stage.2.2⟩
  | checkSpawn rest =>
      simp only [here] at stage
      refine ⟨posted.trans stage.1, completes.failed.trans stage.2.1, ?_⟩
      rw [completes.ports, completes.request]
      exact stage.2.2
  | spawn port rest =>
      simp only [here] at stage
      refine ⟨posted.trans stage.1, completes.failed.trans stage.2.1, ?_⟩
      rw [completes.ports, completes.request]
      exact stage.2.2
  | checkCollect done =>
      simp only [here] at stage
      obtain ⟨collected, events⟩ := stage
      refine ⟨completes.collected collected, ?_⟩
      rw [completes.reports_eq collected.ready]
      exact posted.trans events
  | get done =>
      simp only [here] at stage
      obtain ⟨collected, events, within⟩ := stage
      refine ⟨completes.collected collected, ?_, ?_⟩
      · rw [completes.reports_eq collected.ready]
        exact posted.trans events
      · exact completes.length_eq ▸ within
  | postResult done r =>
      simp only [here] at stage
      obtain ⟨collected, events, resulting⟩ := stage
      refine ⟨completes.collected collected, ?_, ?_⟩
      · rw [completes.reports_eq fun index within =>
          collected.ready index (Nat.lt_succ_of_lt within)]
        exact posted.trans events
      · rw [completes.resultEvents_eq (collected.ready done done.lt_succ_self)]
        exact resulting
  | postProgress done =>
      simp only [here] at stage
      obtain ⟨collected, events⟩ := stage
      refine ⟨completes.collected collected, ?_⟩
      rw [completes.reports_eq fun index within =>
          collected.ready index (Nat.lt_succ_of_lt within),
        completes.resultEvents_eq (collected.ready done done.lt_succ_self)]
      exact posted.trans events
  | stopPool | postFinished =>
      simp only [here] at stage
      obtain ⟨count, reported⟩ := stage
      exact ⟨count, posted ▸ completes.reported reported⟩
  | emitError what =>
      simp only [here] at stage
      exact ⟨posted.trans stage.1, completes.failed.trans stage.2.1,
        empty stage.2.2⟩
  | clearRunning | leaving | exited =>
      simp only [here] at stage
      obtain ⟨events, count, ends, reported⟩ := stage
      exact ⟨events, count, posted.trans ends, completes.reported reported⟩

theorem Stage.fail {worker : Worker F} (stage : worker.Stage databases)
    (mayFail : worker.point.mayFail = true) (what : Bytes) :
    Stage databases { worker with
      point := .emitError what
      futs := []
      failed := some what } := by
  have silent : worker.posted = [] := by
    unfold Stage at stage
    cases here : worker.point with
    | startPool | spawn port rest =>
        simp only [here] at stage
        exact stage.1
    | _ =>
        rw [here] at mayFail
        cases mayFail
  exact ⟨silent, rfl, rfl⟩

theorem Stage.noteCancel {worker : Worker F} (stage : worker.Stage databases) :
    worker.noteCancel.Stage databases := by
  cases scans : worker.point.scanning with
  | false =>
      rw [noteCancel_of_finished scans]
      exact stage
  | true =>
      have collected {count : Nat} (collected : worker.Collected count) :
          worker.noteCancel.Collected count :=
        ⟨collected.unfailed, collected.spawned, by simp [Worker.noteCancel, scans],
          collected.le, collected.ready⟩
      unfold Stage at stage ⊢
      rw [show worker.noteCancel.point = worker.point from rfl]
      cases here : worker.point with
      | startPool | checkSpawn rest | spawn port rest | emitError what =>
          simp only [here] at stage
          exact stage
      | checkCollect done | get done | postResult done r | postProgress done =>
          simp only [here] at stage
          exact ⟨collected stage.1, stage.2⟩
      | stopPool | postFinished =>
          simp only [here] at stage
          obtain ⟨count, reported⟩ := stage
          exact ⟨count, reported.events_eq, reported.le, reported.ready,
            reported.spawned, by simp [Worker.noteCancel, scans]⟩
      | clearRunning | leaving | exited =>
          rw [here] at scans
          cases scans

omit [Floating F] in
theorem completes_set {worker : Worker F} {index : Nat} {fut : Future F}
    (atIndex : worker.futs[index]? = some fut) (pending : fut.outcome = none)
    (outcome : Outcome F) :
    worker.toJob.Completes { worker.toJob with
      futs := worker.futs.set index { fut with outcome := some outcome } } where
  request := rfl
  cancelled := rfl
  failed := rfl
  ports := by
    obtain ⟨within, same⟩ := List.getElem?_eq_some_iff.mp atIndex
    rw [List.map_set]
    apply List.ext_getElem (by simp)
    intro i _ _
    by_cases here : index = i
    · subst here
      simp [same]
    · simp [List.getElem_set_ne here]
  same := by
    intro i earlier atI done
    have apart : index ≠ i := by
      rintro rfl
      rw [atIndex] at atI
      cases atI
      rw [Future.Done, pending] at done
      cases done
    rw [List.getElem?_set_ne apart]
    exact atI

omit [Floating F] in
/-- The results in the futures are those of their ports. -/
def Fitting (worker : Worker F) : Prop :=
  ∀ fut ∈ worker.futs, ∀ outcome, fut.outcome = some outcome →
    fut.Accepts outcome

end Worker

/-! What the events of a scan look like. -/

variable {databases}

omit [Floating F] in
@[simp] theorem resultPorts_append (events later : List (Event F)) :
    resultPorts (events ++ later) = resultPorts events ++ resultPorts later :=
  List.filterMap_append

theorem resultPorts_resultEvents (target : Bytes) {futs : List (Future F)}
    {done : Nat} {fut : Future F} (atDone : futs[done]? = some fut)
    (fits : ∀ outcome, fut.outcome = some outcome → fut.Accepts outcome) :
    (resultPorts (resultEvents databases target futs done)).Sublist
      [fut.port] := by
  simp only [resultEvents, atDone, Worker.kept]
  split
  · next r returned =>
      have same : r.port = fut.port := fits _ returned
      simp [resultPorts, Scan.decorate, same]
  · exact List.nil_sublist _

theorem resultPorts_reports (target : Bytes) {futs : List (Future F)}
    (fitting : ∀ fut ∈ futs, ∀ outcome, fut.outcome = some outcome →
      fut.Accepts outcome) {count : Nat} (le : count ≤ futs.length) :
    (resultPorts (reports databases target futs count)).Sublist
      ((futs.take count).map Future.port) := by
  induction count with
  | zero => exact List.nil_sublist _
  | succ done induction =>
      have atDone := List.getElem?_eq_getElem le
      have here : (resultPorts (resultEvents databases target futs done)).Sublist
          [futs[done].port] :=
        resultPorts_resultEvents target atDone
          (fitting _ (List.getElem_mem le))
      rw [reports, resultPorts_append, List.take_add_one, atDone,
        List.map_append]
      apply (induction (Nat.le_of_succ_le le)).append
      simpa [resultPorts] using here

theorem scanFinished_notMem_reports (target : Bytes) (futs : List (Future F))
    (count : Nat) :
    Event.scanFinished ∉ reports databases target futs count := by
  induction count with
  | zero => exact List.not_mem_nil
  | succ done induction =>
      have silent : Event.scanFinished ∉
          resultEvents databases target futs done := by
        unfold resultEvents
        split <;> simp
      simp [reports, induction, silent]

namespace Job

omit [Floating F] in
theorem scanFinished_notMem_errors (job : Job F) :
    Event.scanFinished ∉ job.errors := by
  simp [errors]

omit [Floating F] in
theorem resultPorts_errors (job : Job F) : resultPorts job.errors = [] := by
  unfold errors
  cases job.failed with
  | none => rfl
  | some what => rfl

end Job

namespace Worker

/-- What a thread has posted is a front of what it will have posted when it
finishes. -/
theorem Stage.front {worker : Worker F} (stage : worker.Stage databases)
    (scans : worker.point.scanning = true) :
    worker.futs.map Future.port <+: worker.request.ports ∧
      ∃ count, count ≤ worker.futs.length ∧ worker.posted <+:
        reports databases worker.request.target worker.futs count ++
          worker.errors := by
  unfold Stage at stage
  cases here : worker.point with
  | startPool =>
      simp only [here] at stage
      obtain ⟨posted, _, empty⟩ := stage
      refine ⟨?_, 0, Nat.zero_le _, ?_⟩
      · rw [empty]
        exact List.nil_prefix
      · rw [posted]
        exact List.nil_prefix
  | checkSpawn rest =>
      simp only [here] at stage
      obtain ⟨posted, _, ports⟩ := stage
      refine ⟨⟨rest, ports⟩, 0, Nat.zero_le _, ?_⟩
      rw [posted]
      exact List.nil_prefix
  | spawn port rest =>
      simp only [here] at stage
      obtain ⟨posted, _, ports⟩ := stage
      refine ⟨⟨port :: rest, ports⟩, 0, Nat.zero_le _, ?_⟩
      rw [posted]
      exact List.nil_prefix
  | checkCollect done =>
      simp only [here] at stage
      obtain ⟨collected, posted⟩ := stage
      refine ⟨collected.spawned, done, collected.le, ?_⟩
      rw [posted]
      exact List.prefix_append _ _
  | get done =>
      simp only [here] at stage
      obtain ⟨collected, posted, _⟩ := stage
      refine ⟨collected.spawned, done, collected.le, ?_⟩
      rw [posted]
      exact List.prefix_append _ _
  | postResult done r =>
      simp only [here] at stage
      obtain ⟨collected, posted, _⟩ := stage
      refine ⟨collected.spawned, done, Nat.le_of_succ_le collected.le, ?_⟩
      rw [posted]
      exact List.prefix_append _ _
  | postProgress done =>
      simp only [here] at stage
      obtain ⟨collected, posted⟩ := stage
      refine ⟨collected.spawned, done + 1, collected.le,
        .progressChanged (done + 1) worker.futs.length :: worker.errors, ?_⟩
      simp [posted, reports]
  | stopPool | postFinished =>
      simp only [here] at stage
      obtain ⟨count, reported⟩ := stage
      exact ⟨reported.spawned, count, reported.le,
        reported.events_eq ▸ List.prefix_refl _⟩
  | emitError what =>
      simp only [here] at stage
      obtain ⟨posted, _, empty⟩ := stage
      refine ⟨?_, 0, Nat.zero_le _, ?_⟩
      · rw [empty]
        exact List.nil_prefix
      · rw [posted]
        exact List.nil_prefix
  | clearRunning | leaving | exited =>
      rw [here] at scans
      cases scans

/-- Where a thread has finished, `scanFinished` is behind all its reports. -/
theorem Stage.ended {worker : Worker F} (stage : worker.Stage databases)
    (done : worker.point.scanning = false) :
    ∃ events count, worker.posted = events ++ [.scanFinished] ∧
      worker.Reported databases events count := by
  unfold Stage at stage
  cases here : worker.point with
  | clearRunning | leaving | exited =>
      simp only [here] at stage
      exact stage
  | _ =>
      rw [here] at done
      cases done

theorem resultPorts_sublist {worker : Worker F} (fitting : worker.Fitting)
    (spawned : worker.futs.map Future.port <+: worker.request.ports)
    {count : Nat} (le : count ≤ worker.futs.length) :
    (resultPorts (reports databases worker.request.target worker.futs count ++
      worker.errors)).Sublist worker.request.ports := by
  rw [resultPorts_append, worker.resultPorts_errors, List.append_nil]
  have taken : ((worker.futs.take count).map Future.port).Sublist
      (worker.futs.map Future.port) :=
    (List.take_sublist count worker.futs).map Future.port
  exact ((resultPorts_reports _ fitting le).trans taken).trans spawned.sublist

end Worker

end

end ServicePortScanner.Gui.ScanController
