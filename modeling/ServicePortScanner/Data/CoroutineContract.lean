import ServicePortScanner.Data.CoroutineRules

namespace ServicePortScanner.Data.Co

/-! Coroutines with a contract: as long as the answers are those they rely on,
so are their actions and results those they guarantee. -/

structure Contract (W : World) where
  relies : W.Answer → Prop
  guarantees : W.Action → Prop

variable {W : World} {σ τ α β : Type} {contract : Contract W}

/-- The environment has kept its side of the contract. -/
def Contract.Relied (contract : Contract W) (used : List (Signal W)) : Prop :=
  ∀ answer, .answer answer ∈ used → contract.relies answer

def Contract.Guaranteed (contract : Contract W) (post : α → Prop)
    (trace : List W.Action) (status : Status W α) : Prop :=
  (∀ action ∈ trace, contract.guarantees action) ∧
    ∀ value, status = .returned value → post value

def Keeps (contract : Contract W) (post : α → Prop) (body : Co W σ α) : Prop :=
  Satisfies body fun used trace status =>
    contract.Relied used → contract.Guaranteed post trace status

namespace Contract

theorem Relied.of_append {used later : List (Signal W)}
    (relied : contract.Relied (used ++ later)) :
    contract.Relied used ∧ contract.Relied later :=
  ⟨fun answer member => relied answer (List.mem_append_left later member),
    fun answer member => relied answer (List.mem_append_right used member)⟩

theorem Guaranteed.append {first : α → Prop} {post : β → Prop}
    {trace later : List W.Action} {status : Status W α} {status' : Status W β}
    (before : contract.Guaranteed first trace status)
    (behind : contract.Guaranteed post later status') :
    contract.Guaranteed post (trace ++ later) status' := by
  refine ⟨fun action member => ?_, behind.2⟩
  rcases List.mem_append.mp member with earlier | later
  · exact before.1 action earlier
  · exact behind.1 action later

/-- A run that does not return has only its actions to guarantee. -/
theorem Guaranteed.unreturned {first : α → Prop} {post : β → Prop}
    {trace : List W.Action} {status : Status W α} {status' : Status W β}
    (before : contract.Guaranteed first trace status)
    (unreturned : ∀ value, status' ≠ .returned value) :
    contract.Guaranteed post trace status' :=
  ⟨before.1, fun value same => (unreturned value same).elim⟩

end Contract

namespace Keeps

theorem pure {post : α → Prop} {value : α} (holds : post value) :
    Keeps contract post (Pure.pure value : Co W σ α) :=
  Satisfies.pure fun _ => ⟨nofun, fun _ same => Status.returned.inj same ▸ holds⟩

theorem emit {action : W.Action} (allowed : contract.guarantees action) :
    Keeps contract (fun _ => True) (Co.emit action : Co W σ Unit) :=
  Satisfies.emit fun _ =>
    ⟨fun _ member => List.mem_singleton.mp member ▸ allowed, fun _ _ => trivial⟩

theorem load : Keeps contract (fun _ => True) (Co.load : Co W σ σ) :=
  fun _ _ => ⟨[], rfl, fun _ => ⟨nofun, fun _ _ => trivial⟩⟩

theorem save (saved : σ) :
    Keeps contract (fun _ => True) (Co.save saved : Co W σ Unit) :=
  fun _ _ => ⟨[], rfl, fun _ => ⟨nofun, fun _ _ => trivial⟩⟩

theorem throw {post : α → Prop} (error : W.Error) :
    Keeps contract post (Co.throw error : Co W σ α) :=
  fun _ _ => ⟨[], rfl, fun _ => ⟨nofun, nofun⟩⟩

theorem await {operation : W.Operation} {accept : W.Answer → Option α}
    {post : α → Prop}
    (taken : ∀ answer value, accept answer = some value →
      contract.relies answer → post value) :
    Keeps contract post (Co.await operation accept : Co W σ α) := by
  refine Satisfies.await (fun _ => ⟨nofun, nofun⟩) ?_
  intro answer value accepted relied
  refine ⟨nofun, fun _ same => ?_⟩
  cases same
  exact taken answer value accepted (relied answer (List.mem_singleton_self _))

theorem await_any {operation : W.Operation} {accept : W.Answer → Option α} :
    Keeps contract (fun _ => True) (Co.await operation accept : Co W σ α) :=
  await fun _ _ _ _ => trivial

theorem mono {post weaker : α → Prop} {body : Co W σ α}
    (keeps : Keeps contract post body)
    (implies : ∀ value, post value → weaker value) :
    Keeps contract weaker body :=
  Satisfies.mono keeps fun _ _ _ holds relied =>
    ⟨(holds relied).1, fun value same => implies value ((holds relied).2 value same)⟩

theorem bind {body : Co W σ α} {next : α → Co W σ β} {first : α → Prop}
    {post : β → Prop} (head : Keeps contract first body)
    (tail : ∀ value, first value → Keeps contract post (next value)) :
    Keeps contract post (body >>= next) := by
  have conditional (value : α) : Satisfies (next value) fun used trace status =>
      first value → contract.Relied used →
        contract.Guaranteed post trace status := by
    by_cases holds : first value
    · exact Satisfies.mono (tail value holds) fun _ _ _ satisfied _ => satisfied
    · exact (Satisfies.trivial _).mono fun _ _ _ _ absurd => (holds absurd).elim
  refine Satisfies.bind head conditional ?_ ?_ ?_
  · intro used trace value used' trace' status before behind relied
    obtain ⟨earlier, later⟩ := relied.of_append
    have reached := before earlier
    exact reached.append (behind (reached.2 value rfl) later)
  · exact fun _ _ _ before relied => (before relied).unreturned nofun
  · exact fun _ _ _ before relied => (before relied).unreturned nofun

theorem ite {post : α → Prop} {condition : Prop} [Decidable condition]
    {body other : Co W σ α} (yes : Keeps contract post body)
    (no : Keeps contract post other) :
    Keeps contract post (if condition then body else other) := by
  split
  · exact yes
  · exact no

theorem withStore {init : τ} {body : Co W τ α} {post : α → Prop}
    (inside : Keeps contract post body) :
    Keeps contract (fun pair => post pair.1)
      (Co.withStore init body : Co W σ (α × τ)) := by
  refine Satisfies.withStore inside ?_ ?_ ?_
  · intro used trace value store holds relied
    refine ⟨(holds relied).1, fun _ same => ?_⟩
    cases same
    exact (holds relied).2 value rfl
  · exact fun _ _ _ holds relied => (holds relied).unreturned nofun
  · exact fun _ _ _ holds relied => (holds relied).unreturned nofun

theorem race {milliseconds : Nat} {body : Co W σ α} {post : α → Prop}
    (inside : Keeps contract post body) :
    Keeps contract (fun which => ∀ value ∈ which, post value)
      (Co.race milliseconds body) := by
  refine Satisfies.race inside ?_ ?_ ?_ ?_
  · intro used trace value holds relied
    refine ⟨(holds relied).1, fun _ same => ?_⟩
    cases same
    rintro _ ⟨⟩
    exact (holds relied).2 value rfl
  · exact fun _ _ _ holds relied => (holds relied).unreturned nofun
  · exact fun _ _ _ holds relied => (holds relied).unreturned nofun
  · intro used trace wait holds relied
    refine ⟨(holds relied.of_append.1).1, fun _ same => ?_⟩
    cases same
    nofun

theorem loop {body : Co W σ (Option α)} {progresses : Progresses body}
    {post : α → Prop}
    (inside : Keeps contract (fun turn => ∀ value ∈ turn, post value) body) :
    Keeps contract post (Co.loop body progresses) := by
  refine Satisfies.loop inside ?_ ?_ ?_ ?_
  · intro used trace used' trace' status turn behind relied
    obtain ⟨earlier, later⟩ := relied.of_append
    exact (turn earlier).append (behind later)
  · intro used trace value turn relied
    refine ⟨(turn relied).1, fun _ same => ?_⟩
    cases same
    exact (turn relied).2 (some value) rfl value rfl
  · exact fun _ _ _ turn relied => (turn relied).unreturned nofun
  · exact fun _ _ _ turn relied => (turn relied).unreturned nofun

/-- What a run on a script that can be relied on has done so far. -/
theorem of_relied {body : Co W σ α} {post : α → Prop}
    (keeps : Keeps contract post body) {script : List (Signal W)}
    (relied : contract.Relied script) (store : σ) :
    contract.Guaranteed post (body.run store script).trace
      (body.run store script).status := by
  obtain ⟨used, whole, holds⟩ := keeps store script
  rw [whole] at relied
  exact holds relied.of_append.1

end Keeps

end ServicePortScanner.Data.Co
