import Mathlib.Algebra.Ring.Nat
import Mathlib.Data.List.Infix
import Mathlib.Data.List.Perm.Basic

namespace ServicePortScanner.Data.Steps

/-! Runs of a machine whose actions are enabled in some of its states only. -/

section

variable {State Action : Type} (step : State → Action → Option State)

def run (state : State) : List Action → Option State
  | [] => some state
  | action :: rest => (step state action).bind fun next => run next rest

/-- Every step of the run is taken from a state that allows it. -/
def Along (allowed : State → Action → Prop) (init : State)
    (actions : List Action) : Prop :=
  ∀ before action state, before ++ [action] <+: actions →
    run step init before = some state → allowed state action

/-- Every state the run passes through has the property. -/
def Always (property : State → Prop) (init : State) (actions : List Action) :
    Prop :=
  ∀ before state, before <+: actions → run step init before = some state →
    property state

/-- What the steps of a run show, in their order. -/
def seen {Shown : Type} (see : State → Action → Option Shown) (state : State) :
    List Action → List Shown
  | [] => []
  | action :: rest => (see state action).toList ++
      (step state action).elim [] fun next => seen see next rest

variable {step}

theorem seen_cons {Shown : Type} {see : State → Action → Option Shown}
    {state next : State} {action : Action} {rest : List Action}
    (stepped : step state action = some next) :
    seen step see state (action :: rest) =
      (see state action).toList ++ seen step see next rest := by
  rw [seen, stepped]
  rfl

theorem run_cons {state final : State} {action : Action} {rest : List Action} :
    run step state (action :: rest) = some final ↔
      ∃ next, step state action = some next ∧ run step next rest = some final :=
  Option.bind_eq_some_iff

theorem run_append {state : State} {before behind : List Action} :
    run step state (before ++ behind) =
      (run step state before).bind fun middle => run step middle behind := by
  induction before generalizing state with
  | nil => rfl
  | cons action rest induction =>
      simp only [List.cons_append, run]
      cases step state action with
      | none => rfl
      | some next => exact induction

theorem Along.head {allowed : State → Action → Prop} {init : State}
    {action : Action} {rest : List Action}
    (along : Along step allowed init (action :: rest)) : allowed init action :=
  along [] action init (List.prefix_append [action] rest) rfl

theorem Along.tail {allowed : State → Action → Prop} {init next : State}
    {action : Action} {rest : List Action}
    (along : Along step allowed init (action :: rest))
    (stepped : step init action = some next) : Along step allowed next rest := by
  intro before later state isPrefix ran
  apply along (action :: before) later state
  · exact List.cons_prefix_cons.mpr ⟨rfl, isPrefix⟩
  · exact run_cons.mpr ⟨next, stepped, ran⟩

theorem along_cons {allowed : State → Action → Prop} {init : State}
    {action : Action} {rest : List Action} :
    Along step allowed init (action :: rest) ↔
      allowed init action ∧
        ∀ next, step init action = some next →
          Along step allowed next rest := by
  constructor
  · intro along
    exact ⟨along.head, fun next stepped => along.tail stepped⟩
  · rintro ⟨first, later⟩ before final state isPrefix ran
    cases before with
    | nil =>
        cases ran
        obtain ⟨rfl, _⟩ := List.cons_prefix_cons.mp isPrefix
        exact first
    | cons head tail =>
        obtain ⟨rfl, inRest⟩ := List.cons_prefix_cons.mp isPrefix
        obtain ⟨next, stepped, ranTail⟩ := run_cons.mp ran
        exact later next stepped tail final state inRest ranTail

theorem along_nil {allowed : State → Action → Prop} {init : State} :
    Along step allowed init [] := by
  intro before action state isPrefix
  simp at isPrefix

theorem Along.cons {allowed : State → Action → Prop} {init next : State}
    {action : Action} {rest : List Action} (first : allowed init action)
    (stepped : step init action = some next)
    (along : Along step allowed next rest) :
    Along step allowed init (action :: rest) := by
  refine along_cons.mpr ⟨first, fun later steppedTo => ?_⟩
  rw [stepped] at steppedTo
  cases steppedTo
  exact along

instance Along.decidable {allowed : State → Action → Prop}
    [∀ state action, Decidable (allowed state action)] (init : State) :
    (actions : List Action) → Decidable (Along step allowed init actions)
  | [] => .isTrue along_nil
  | action :: rest =>
      match stepped : step init action with
      | none => decidable_of_iff (allowed init action) (by
          simp [along_cons, stepped])
      | some next =>
          have : Decidable (Along step allowed next rest) :=
            Along.decidable next rest
          decidable_of_iff (allowed init action ∧ Along step allowed next rest)
            (by simp [along_cons, stepped])

theorem Along.append {allowed : State → Action → Prop} {init middle : State}
    {before behind : List Action} (along : Along step allowed init before)
    (ran : run step init before = some middle)
    (alongBehind : Along step allowed middle behind) :
    Along step allowed init (before ++ behind) := by
  induction before generalizing init with
  | nil =>
      cases ran
      exact alongBehind
  | cons action rest induction =>
      obtain ⟨next, stepped, ranRest⟩ := run_cons.mp ran
      exact .cons along.head stepped (induction (along.tail stepped) ranRest)

/-- The condition has to be shown for one step only, where it is asked of no other
action. -/
theorem along_of_step {allowed : State → Action → Prop} {init : State}
    {front rest : List Action} {special : Action}
    (others : ∀ action ∈ front ++ rest, ∀ state, allowed state action)
    (here : ∀ state, run step init front = some state → allowed state special) :
    Along step allowed init (front ++ special :: rest) := by
  rintro before action state ⟨later, same⟩ ran
  rw [List.append_assoc, List.singleton_append,
    List.append_eq_append_iff] at same
  rcases same with ⟨between, rfl, same⟩ | ⟨between, rfl, same⟩
  · cases between with
    | nil =>
        cases same
        exact here state (by rwa [List.append_nil])
    | cons first between =>
        cases same
        exact others action (by simp) state
  · cases between with
    | nil =>
        cases same
        exact here state (by rwa [List.append_nil] at ran)
    | cons first between =>
        cases same
        exact others action (by simp) state

theorem always_nil {property : State → Prop} {init : State} :
    Always step property init [] ↔ property init := by
  constructor
  · intro always
    exact always [] init (List.prefix_refl []) rfl
  · intro holds before state isPrefix ran
    cases List.prefix_nil.mp isPrefix
    cases ran
    exact holds

theorem always_cons {property : State → Prop} {init : State} {action : Action}
    {rest : List Action} :
    Always step property init (action :: rest) ↔
      property init ∧
        ∀ next, step init action = some next →
          Always step property next rest := by
  constructor
  · intro always
    refine ⟨always [] init List.nil_prefix rfl, ?_⟩
    intro next stepped before state isPrefix ran
    apply always (action :: before) state
    · exact List.cons_prefix_cons.mpr ⟨rfl, isPrefix⟩
    · exact run_cons.mpr ⟨next, stepped, ran⟩
  · rintro ⟨first, later⟩ before state isPrefix ran
    cases before with
    | nil =>
        cases ran
        exact first
    | cons head tail =>
        obtain ⟨rfl, inRest⟩ := List.cons_prefix_cons.mp isPrefix
        obtain ⟨next, stepped, ranTail⟩ := run_cons.mp ran
        exact later next stepped tail state inRest ranTail

/-! What each allowed step preserves, a run preserves. -/

theorem run_preserves {invariant : State → Prop}
    {allowed : State → Action → Prop}
    (preserved : ∀ {state next : State} {action : Action}, invariant state →
      allowed state action → step state action = some next → invariant next)
    {init final : State} {actions : List Action} (holds : invariant init)
    (along : Along step allowed init actions)
    (ran : run step init actions = some final) : invariant final := by
  induction actions generalizing init with
  | nil =>
      cases ran
      exact holds
  | cons action rest induction =>
      obtain ⟨next, stepped, ranRest⟩ := run_cons.mp ran
      exact induction (preserved holds along.head stepped)
        (along.tail stepped) ranRest

/-- What an invariant of the allowed steps implies holds all along a run of
them. -/
theorem always_of_along {invariant property : State → Prop}
    {allowed : State → Action → Prop}
    (preserved : ∀ {state next : State} {action : Action}, invariant state →
      allowed state action → step state action = some next → invariant next)
    (implies : ∀ {state : State}, invariant state → property state)
    {init : State} {actions : List Action} (holds : invariant init)
    (along : Along step allowed init actions) :
    Always step property init actions := by
  intro before state isPrefix ran
  apply implies
  apply run_preserves preserved holds _ ran
  intro earlier action later isEarlier
  exact along earlier action later (isEarlier.trans isPrefix)

theorem run_invariant {invariant : State → Prop}
    (preserved : ∀ {state next : State} {action : Action}, invariant state →
      step state action = some next → invariant next)
    {init final : State} {actions : List Action} (holds : invariant init)
    (ran : run step init actions = some final) : invariant final := by
  have unrestricted : Along step (fun _ _ => True) init actions :=
    fun _ _ _ _ _ => trivial
  exact run_preserves (fun here _ stepped => preserved here stepped) holds
    unrestricted ran

/-- A property and a condition on steps that imply each other one step at a
time, over the states with an invariant, agree on whole runs. -/
theorem always_iff_along {invariant property : State → Prop}
    {allowed : State → Action → Prop}
    (preserved : ∀ {state next : State} {action : Action}, invariant state →
      step state action = some next → invariant next)
    (kept : ∀ {state next : State} {action : Action}, invariant state →
      property state → allowed state action → step state action = some next →
      property next)
    (forced : ∀ {state : State} {action : Action}, invariant state →
      property state →
      (∀ next, step state action = some next → property next) →
      allowed state action)
    {init : State} {actions : List Action} (holds : invariant init)
    (starts : property init) :
    Always step property init actions ↔ Along step allowed init actions := by
  induction actions generalizing init with
  | nil =>
      refine iff_of_true (always_nil.mpr starts) ?_
      intro before action state isPrefix
      simp at isPrefix
  | cons action rest induction =>
      rw [always_cons, along_cons]
      have later (next : State) (stepped : step init action = some next)
          (onward : property next) :=
        induction (preserved holds stepped) onward
      constructor
      · rintro ⟨_, always⟩
        have onward (next : State) (stepped : step init action = some next) :
            property next :=
          always next stepped [] next List.nil_prefix rfl
        refine ⟨forced holds starts onward, ?_⟩
        intro next stepped
        exact (later next stepped (onward next stepped)).mp
          (always next stepped)
      · rintro ⟨first, along⟩
        refine ⟨starts, ?_⟩
        intro next stepped
        have onward := kept holds starts first stepped
        exact (later next stepped onward).mpr (along next stepped)

/-- Where each counted action is paid for out of a stock that only an income
refills, the stock and the income bound how often it happens. -/
theorem along_count_le {counted : Action → Bool} {stock income : State → Nat}
    {invariant : State → Prop} {allowed : State → Action → Prop}
    (preserved : ∀ {state next : State} {action : Action}, invariant state →
      allowed state action → step state action = some next → invariant next)
    (paid : ∀ {state next : State} {action : Action}, invariant state →
      allowed state action → step state action = some next →
      (if counted action then 1 else 0) + stock next + income state ≤
        stock state + income next)
    {init final : State} {actions : List Action} (holds : invariant init)
    (along : Along step allowed init actions)
    (ran : run step init actions = some final) :
    actions.countP counted + stock final + income init ≤
      stock init + income final := by
  induction actions generalizing init with
  | nil =>
      cases ran
      simp
  | cons action rest induction =>
      obtain ⟨next, stepped, ranRest⟩ := run_cons.mp ran
      have now := paid holds along.head stepped
      have later := induction (preserved holds along.head stepped)
        (along.tail stepped) ranRest
      rw [List.countP_cons]
      omega

theorem run_count_le {counted : Action → Bool} {stock income : State → Nat}
    {invariant : State → Prop}
    (preserved : ∀ {state next : State} {action : Action}, invariant state →
      step state action = some next → invariant next)
    (paid : ∀ {state next : State} {action : Action}, invariant state →
      step state action = some next →
      (if counted action then 1 else 0) + stock next + income state ≤
        stock state + income next)
    {init final : State} {actions : List Action} (holds : invariant init)
    (ran : run step init actions = some final) :
    actions.countP counted + stock final + income init ≤
      stock init + income final := by
  have unrestricted : Along step (fun _ _ => True) init actions :=
    fun _ _ _ _ _ => trivial
  apply along_count_le (fun here _ stepped => preserved here stepped) _ holds
    unrestricted ran
  exact fun here _ stepped => paid here stepped

end

/-! Processes in a list, and how many of them are where. -/

section

variable {Process : Type} {processes : List Process} {index : Nat}
  {process : Process}

theorem countP_cons_toNat (p : Process → Bool) (head : Process)
    (rest : List Process) :
    (head :: rest).countP p = rest.countP p + (p head).toNat := by
  rw [List.countP_cons]
  cases p head with
  | false => rfl
  | true => rfl

theorem countP_eraseIdx (found : processes[index]? = some process)
    (p : Process → Bool) :
    processes.countP p =
      (processes.eraseIdx index).countP p + (p process).toNat := by
  obtain ⟨bound, rfl⟩ := List.getElem?_eq_some_iff.mp found
  rw [← (List.getElem_cons_eraseIdx_perm bound).countP_eq p,
    countP_cons_toNat]

/-- One process goes on to another place. -/
theorem countP_set (found : processes[index]? = some process)
    (next : Process) (p : Process → Bool) :
    (processes.set index next).countP p + (p process).toNat =
      processes.countP p + (p next).toNat := by
  obtain ⟨bound, _⟩ := List.getElem?_eq_some_iff.mp found
  rw [(List.set_perm_cons_eraseIdx bound next).countP_eq,
    countP_eraseIdx found, countP_cons_toNat]
  omega

/-- What one process is mapped to takes the place of what it was mapped to. -/
theorem filterMap_set {Image : Type} (found : processes[index]? = some process)
    (next : Process) (image? : Process → Option Image) :
    ((processes.set index next).filterMap image? ++ (image? process).toList).Perm
      (processes.filterMap image? ++ (image? next).toList) := by
  obtain ⟨bound, rfl⟩ := List.getElem?_eq_some_iff.mp found
  have split (head : Process) (rest : List Process) :
      (head :: rest).filterMap image? =
        (image? head).toList ++ rest.filterMap image? := by
    rw [List.filterMap_cons]
    cases image? head with
    | none => rfl
    | some image => rfl
  have after := (List.set_perm_cons_eraseIdx bound next).filterMap image?
  have before := (List.getElem_cons_eraseIdx_perm bound).filterMap image?
  rw [split] at after before
  refine (after.append_right _).trans (List.Perm.trans ?_ (before.append_right _))
  refine List.perm_append_comm.trans ?_
  rw [List.append_assoc]
  exact List.perm_append_comm.append_left _

end

end ServicePortScanner.Data.Steps
