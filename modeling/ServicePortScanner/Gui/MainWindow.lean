import ServicePortScanner.Gui.ChartsPanel
import ServicePortScanner.Gui.ScanDialog
import ServicePortScanner.Gui.ScanProtocol

namespace ServicePortScanner.Gui

open ServicePortScanner.Data ServicePortScanner.Core ServicePortScanner.Cli
open ServicePortScanner.Gui.BannerPreview (QString literal)

/-! The main window around the controller: table, chart, details and the dialog
for a new scan. -/

/-- `model_`, and the row of it behind each row that `proxy_` shows. -/
structure Table (F : Type) where
  results : List (ScanResult F)
  rows : List Nat
  perm : rows.Perm (List.range results.length)
  deriving DecidableEq

namespace Table

variable {F : Type}

def ofResults (results : List (ScanResult F)) : Table F :=
  ⟨results, List.range results.length, .refl _⟩

def appendResult (table : Table F) (r : ScanResult F) : Table F where
  results := table.results ++ [r]
  rows := table.rows ++ [table.results.length]
  perm := by
    rw [List.length_append, List.length_singleton, List.range_succ]
    exact table.perm.append_right _

/-- The proxy may put its rows in any order. -/
def sort (table : Table F) (rows : List Nat) : Option (Table F) :=
  if perm : rows.Perm (List.range table.results.length) then
    some ⟨table.results, rows, perm⟩
  else none

theorem lt_of_mem_rows {table : Table F} {source : Nat}
    (member : source ∈ table.rows) : source < table.results.length :=
  List.mem_range.mp (table.perm.mem_iff.mp member)

end Table

structure MainWindow (F : Type) where
  controller : ScanController.State F := {}
  table : Table F
  charts : ChartsPanel F
  /-- what `detail_` shows -/
  detail : Option (ScanResult F) := none
  /-- the row of the model that is the current one of the view -/
  current : Option Nat := none
  dialogOpen : Bool := false
  /-- `at` has thrown out of a slot. -/
  terminated : Bool := false
  deriving DecidableEq

namespace MainWindow

variable {F : Type} [Floating F]

/-- The constructor, which ends with `load_dummy_data`. -/
def construct (dummy : List (ScanResult F)) : MainWindow F where
  table := .ofResults dummy
  charts := .updateData dummy

/-- A step of the threads and the event loop, or something the user does.
`acceptDialog` is the button of the dialog, with what the widgets hold then. -/
inductive Action (F : Type) where
  | background (action : ScanController.Action F)
  | openScanDialog
  | acceptDialog (dialog : ScanDialog)
  | rejectDialog
  | startDemoScan
  | sort (rows : List Nat)
  | select (row : Nat)
  | click (point : Point F)
  deriving DecidableEq, Repr

/-- `detail_->showResult(model_->resultAt(row))` -/
def showResult (window : MainWindow F) (row : Nat) : MainWindow F :=
  match window.table.results[row]? with
  | some r => { window with detail := some r }
  | none => { window with terminated := true }

/-- The view's `setCurrentIndex`, with `on_row_selected` where that is another
row. -/
def setCurrentIndex (window : MainWindow F) (row : Nat) : MainWindow F :=
  match window.table.rows[row]? with
  | some source =>
      if window.current = some source then window
      else showResult { window with current := some source } source
  | none => window

/-- The slot of `pointClicked`. -/
def pointClicked (window : MainWindow F) (idx : Nat) : MainWindow F :=
  let window := window.showResult idx
  if window.terminated then window
  else window.setCurrentIndex (window.table.rows.idxOf idx)

/-- The slots of the controller's signals, as far as they go beyond messages. -/
def receive (window : MainWindow F) : ScanController.Event F → MainWindow F
  | .resultReady r => { window with table := window.table.appendResult r }
  | .scanFinished =>
      { window with charts := .updateData window.table.results }
  | .progressChanged .. | .scanError _ => window

def demoTarget : QString :=
  literal "127.0.0.1"

def demoPorts : List UInt16 :=
  [21, 22, 25, 80, 110, 143, 443, 587, 993, 8080]

/-- The event loop can hand an action of the user to the window. -/
def isIdle (window : MainWindow F) : Bool :=
  window.controller.ui == .idle && !window.dialogOpen

section

variable (databases : ScanController.Databases F)
variable (toStdString : QString → Bytes) (makeAddress : Bytes → Option Address)

def startScan (window : MainWindow F) (target : QString) (ports : List UInt16) :
    Option (MainWindow F) :=
  (window.controller.step databases
      (.startScan ⟨toStdString target, ports⟩)).map fun controller =>
    { window with controller := controller }

/-- The window has no action that calls `cancelScan`. -/
def background (window : MainWindow F) :
    ScanController.Action F → Option (MainWindow F)
  | .startScan _ | .cancelScan => none
  | .take =>
      match window.controller.queue with
      | [] => none
      | event :: _ =>
          (window.controller.step databases .take).map fun controller =>
            { window with controller := controller }.receive event
  | action =>
      (window.controller.step databases action).map fun controller =>
        { window with controller := controller }

def acceptDialog (window : MainWindow F) (dialog : ScanDialog) :
    Option (MainWindow F) :=
  if window.controller.ui = .idle ∧ window.dialogOpen then
    match dialog.accept toStdString makeAddress with
    | .error _ => some window
    | .ok () =>
        let request := dialog.request toStdString
        { window with dialogOpen := false }.startScan databases toStdString
          request.target request.ports
  else none

def step (window : MainWindow F) (action : Action F) : Option (MainWindow F) :=
  if window.terminated then none
  else
    match action with
    | .background action => window.background databases action
    | .acceptDialog dialog =>
        window.acceptDialog databases toStdString makeAddress dialog
    | .rejectDialog =>
        if window.dialogOpen then some { window with dialogOpen := false }
        else none
    | .openScanDialog =>
        if window.isIdle then
          some { window with dialogOpen := !window.controller.running }
        else none
    | .startDemoScan =>
        if window.isIdle then
          if window.controller.running then some window
          else window.startScan databases toStdString demoTarget demoPorts
        else none
    | .sort rows =>
        if window.isIdle then
          (window.table.sort rows).map fun table => { window with table := table }
        else none
    | .select row =>
        if window.isIdle then some (window.setCurrentIndex row) else none
    | .click point =>
        if window.isIdle then
          match window.charts.onScatterClicked point with
          | some idx => some (window.pointClicked idx)
          | none => some window
        else none

end

/-! What an action can do. -/

section

variable {databases : ScanController.Databases F}
variable {toStdString : QString → Bytes} {makeAddress : Bytes → Option Address}

variable (databases toStdString makeAddress) in
/-- The ways from a window to the next one. -/
inductive Moves (window : MainWindow F) : Action F → MainWindow F → Prop where
  | threads {action : ScanController.Action F}
      {controller : ScanController.State F}
      (stepped : window.controller.step databases action = some controller)
      (starts : ∀ request, action ≠ .startScan request)
      (cancels : action ≠ .cancelScan) (takes : action ≠ .take) :
      Moves window (.background action) { window with controller := controller }
  | take {event : ScanController.Event F} {rest : List (ScanController.Event F)}
      {controller : ScanController.State F}
      (queued : window.controller.queue = event :: rest)
      (stepped : window.controller.step databases .take = some controller) :
      Moves window (.background .take)
        ({ window with controller := controller }.receive event)
  | demoScan {controller : ScanController.State F}
      (stepped : window.controller.step databases
        (.startScan ⟨toStdString demoTarget, demoPorts⟩) = some controller) :
      Moves window .startDemoScan { window with controller := controller }
  | dialogScan {dialog : ScanDialog} {controller : ScanController.State F}
      (accepted : dialog.accept toStdString makeAddress = .ok ())
      (stepped : window.controller.step databases
        (.startScan ⟨toStdString (dialog.request toStdString).target,
          (dialog.request toStdString).ports⟩) = some controller) :
      Moves window (.acceptDialog dialog)
        { window with controller := controller, dialogOpen := false }
  | dialog (action : Action F) (isOpen : Bool) :
      Moves window action { window with dialogOpen := isOpen }
  | sort {rows : List Nat}
      (perm : rows.Perm (List.range window.table.results.length)) :
      Moves window (.sort rows)
        { window with table := ⟨window.table.results, rows, perm⟩ }
  | select (row : Nat) : Moves window (.select row) (window.setCurrentIndex row)
  | click {point : Point F} {idx : Nat}
      (clicked : window.charts.onScatterClicked point = some idx) :
      Moves window (.click point) (window.pointClicked idx)

theorem Moves.unchanged {window : MainWindow F} {action : Action F} :
    Moves databases toStdString makeAddress window action window :=
  .dialog action window.dialogOpen

theorem background_moves {window next : MainWindow F}
    {action : ScanController.Action F}
    (stepped : window.background databases action = some next) :
    Moves databases toStdString makeAddress window (.background action) next := by
  cases action with
  | startScan request => cases stepped
  | cancelScan => cases stepped
  | take =>
      simp only [background] at stepped
      split at stepped
      · cases stepped
      · next event rest queued =>
          obtain ⟨controller, moved, same⟩ := Option.map_eq_some_iff.mp stepped
          exact same ▸ .take queued moved
  | _ =>
      obtain ⟨controller, moved, same⟩ := Option.map_eq_some_iff.mp stepped
      exact same ▸ .threads moved nofun nofun nofun

theorem step_moves {window next : MainWindow F} {action : Action F}
    (stepped : window.step databases toStdString makeAddress action =
      some next) :
    window.terminated = false ∧
      Moves databases toStdString makeAddress window action next := by
  unfold step at stepped
  obtain ⟨alive, stepped⟩ := Option.ite_none_left_eq_some.mp stepped
  refine ⟨by simpa using alive, ?_⟩
  cases action with
  | background action => exact background_moves stepped
  | openScanDialog =>
      obtain ⟨_, same⟩ := Option.ite_none_right_eq_some.mp stepped
      exact Option.some.inj same ▸ .dialog _ _
  | acceptDialog dialog =>
      obtain ⟨_, stepped⟩ := Option.ite_none_right_eq_some.mp stepped
      split at stepped
      · exact Option.some.inj stepped ▸ .unchanged
      · next accepted =>
          obtain ⟨controller, moved, same⟩ := Option.map_eq_some_iff.mp stepped
          exact same ▸ .dialogScan accepted moved
  | rejectDialog =>
      obtain ⟨_, same⟩ := Option.ite_none_right_eq_some.mp stepped
      exact Option.some.inj same ▸ .dialog _ _
  | startDemoScan =>
      obtain ⟨_, stepped⟩ := Option.ite_none_right_eq_some.mp stepped
      split at stepped
      · exact Option.some.inj stepped ▸ .unchanged
      · obtain ⟨controller, moved, same⟩ := Option.map_eq_some_iff.mp stepped
        exact same ▸ .demoScan moved
  | sort rows =>
      obtain ⟨_, stepped⟩ := Option.ite_none_right_eq_some.mp stepped
      obtain ⟨table, sorted, same⟩ := Option.map_eq_some_iff.mp stepped
      unfold Table.sort at sorted
      split at sorted
      · next perm =>
          cases sorted
          exact same ▸ .sort perm
      · cases sorted
  | select row =>
      obtain ⟨_, same⟩ := Option.ite_none_right_eq_some.mp stepped
      exact Option.some.inj same ▸ .select row
  | click point =>
      obtain ⟨_, stepped⟩ := Option.ite_none_right_eq_some.mp stepped
      split at stepped
      · next idx clicked => exact Option.some.inj stepped ▸ .click clicked
      · exact Option.some.inj stepped ▸ .unchanged

end

/-! The slots of the user's side leave the controller, the rows and the chart
alone. -/

/-- What showing a result leaves as it is. -/
structure SameData (window next : MainWindow F) : Prop where
  controller : next.controller = window.controller
  table : next.table = window.table
  charts : next.charts = window.charts

omit [Floating F] in
theorem SameData.trans {window middle next : MainWindow F}
    (first : window.SameData middle) (second : middle.SameData next) :
    window.SameData next where
  controller := second.controller.trans first.controller
  table := second.table.trans first.table
  charts := second.charts.trans first.charts

omit [Floating F] in
theorem showResult_sameData (window : MainWindow F) (row : Nat) :
    window.SameData (window.showResult row) := by
  unfold showResult
  split <;> exact ⟨rfl, rfl, rfl⟩

omit [Floating F] in
theorem setCurrentIndex_sameData (window : MainWindow F) (row : Nat) :
    window.SameData (window.setCurrentIndex row) := by
  unfold setCurrentIndex
  split
  · next source _ =>
      split
      · exact ⟨rfl, rfl, rfl⟩
      · have shown :=
          showResult_sameData { window with current := some source } source
        exact ⟨shown.controller, shown.table, shown.charts⟩
  · exact ⟨rfl, rfl, rfl⟩

omit [Floating F] in
theorem pointClicked_sameData (window : MainWindow F) (idx : Nat) :
    window.SameData (window.pointClicked idx) := by
  unfold pointClicked
  dsimp only
  have shown := window.showResult_sameData idx
  split
  · exact shown
  · exact shown.trans (setCurrentIndex_sameData _ _)

/-! What the window shows. -/

/-- The details are those of the current row, and the chart is that of a front of
the results. -/
structure Views (window : MainWindow F) : Prop where
  detail : window.detail = window.current.bind (window.table.results[·]?)
  inTable : ∀ source, window.current = some source →
    source < window.table.results.length
  alive : window.terminated = false
  chart : ∃ shown, shown <+: window.table.results ∧
    window.charts = .updateData shown

theorem views_construct (dummy : List (ScanResult F)) :
    (construct dummy).Views where
  detail := rfl
  inTable := nofun
  alive := rfl
  chart := ⟨dummy, List.prefix_refl dummy, rfl⟩

omit [Floating F] in
theorem showResult_eq {window : MainWindow F} {row : Nat} {r : ScanResult F}
    (inTable : window.table.results[row]? = some r) :
    window.showResult row = { window with detail := some r } := by
  rw [showResult, inTable]

omit [Floating F] in
theorem setCurrentIndex_eq {window : MainWindow F} {row source : Nat}
    {r : ScanResult F} (found : window.table.rows[row]? = some source)
    (inTable : window.table.results[source]? = some r)
    (already : window.current = some source → window.detail = some r) :
    window.setCurrentIndex row =
      { window with current := some source, detail := some r } := by
  rw [setCurrentIndex, found]
  dsimp only
  split
  · next same => rw [← already same, ← same]
  · exact showResult_eq inTable

omit [Floating F] in
theorem exists_row {table : Table F} {source : Nat}
    (inTable : source < table.results.length) :
    table.rows[table.rows.idxOf source]? = some source := by
  have member := table.perm.mem_iff.mpr (List.mem_range.mpr inTable)
  have place := List.idxOf_lt_length_iff.mpr member
  rw [List.getElem?_eq_getElem place, List.getElem_idxOf]

namespace Views

variable {window : MainWindow F} (views : window.Views)
include views

theorem select {row source : Nat}
    (found : window.table.rows[row]? = some source) :
    ∃ r, window.table.results[source]? = some r ∧
      window.setCurrentIndex row =
        { window with current := some source, detail := some r } := by
  have inTable := Table.lt_of_mem_rows (List.mem_of_getElem? found)
  have shown := List.getElem?_eq_getElem inTable
  refine ⟨_, shown, setCurrentIndex_eq found shown ?_⟩
  intro already
  rw [views.detail, already, Option.bind_some, shown]

theorem click {idx : Nat} {r : ScanResult F}
    (inTable : window.table.results[idx]? = some r) :
    window.pointClicked idx =
      { window with current := some idx, detail := some r } := by
  have bound := (List.getElem?_eq_some_iff.mp inTable).1
  unfold pointClicked
  dsimp only
  rw [showResult_eq inTable]
  dsimp only
  rw [if_neg (by simp [views.alive])]
  exact setCurrentIndex_eq (exists_row bound) inTable fun _ => rfl

/-- A click finds a row. -/
theorem clicked {point : Point F} {idx : Nat}
    (clicked : window.charts.onScatterClicked point = some idx) :
    ∃ r, window.table.results[idx]? = some r := by
  obtain ⟨shown, ⟨later, whole⟩, same⟩ := views.chart
  rw [same] at clicked
  obtain ⟨r, atIndex, _⟩ := ChartsPanel.onScatterClicked_drawn clicked
  have within := (List.getElem?_eq_some_iff.mp atIndex).1
  refine ⟨r, ?_⟩
  rw [← whole, List.getElem?_append_left within, atIndex]

/-- The current row and its result may become other ones. -/
theorem setCurrent {source : Nat} {r : ScanResult F}
    (inTable : window.table.results[source]? = some r) :
    { window with current := some source, detail := some r }.Views where
  detail := inTable.symm
  inTable := by
    rintro _ ⟨⟩
    exact (List.getElem?_eq_some_iff.mp inTable).1
  alive := views.alive
  chart := views.chart

theorem setController (controller : ScanController.State F) (isOpen : Bool) :
    { window with controller := controller, dialogOpen := isOpen }.Views :=
  ⟨views.detail, views.inTable, views.alive, views.chart⟩

theorem receive (event : ScanController.Event F) :
    (window.receive event).Views := by
  cases event with
  | resultReady r =>
      refine ⟨?_, ?_, views.alive, ?_⟩
      · rw [MainWindow.receive]
        dsimp only
        rw [views.detail]
        cases current : window.current with
        | none => rfl
        | some source =>
            have within := views.inTable source current
            exact (List.getElem?_append_left within).symm
      · intro source current
        have within := views.inTable source current
        simp only [MainWindow.receive, Table.appendResult, List.length_append,
          List.length_singleton]
        omega
      · obtain ⟨shown, isPrefix, same⟩ := views.chart
        exact ⟨shown, isPrefix.trans (List.prefix_append _ _), same⟩
  | scanFinished =>
      exact ⟨views.detail, views.inTable, views.alive,
        window.table.results, List.prefix_refl _, rfl⟩
  | progressChanged done total => exact views
  | scanError message => exact views

end Views

section

variable {databases : ScanController.Databases F}
variable {toStdString : QString → Bytes} {makeAddress : Bytes → Option Address}

theorem Views.step {window next : MainWindow F} {action : Action F}
    (views : window.Views)
    (stepped : window.step databases toStdString makeAddress action =
      some next) : next.Views := by
  obtain ⟨_, moves⟩ := step_moves stepped
  cases moves with
  | threads _ _ _ _ => exact views.setController _ _
  | take _ _ => exact (views.setController _ _).receive _
  | demoScan _ => exact views.setController _ _
  | dialogScan _ _ => exact views.setController _ _
  | dialog isOpen => exact views.setController _ _
  | sort perm => exact ⟨views.detail, views.inTable, views.alive, views.chart⟩
  | select row =>
      cases found : window.table.rows[row]? with
      | none =>
          rw [setCurrentIndex, found]
          exact views
      | some source =>
          obtain ⟨r, inTable, same⟩ := views.select found
          rw [same]
          exact views.setCurrent inTable
  | click clicked =>
      obtain ⟨r, inTable⟩ := views.clicked clicked
      rw [views.click inTable]
      exact views.setCurrent inTable

end

end MainWindow

end ServicePortScanner.Gui
