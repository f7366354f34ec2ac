import ServicePortScanner.Data.CoroutineTranscript

namespace ServicePortScanner.Data.Co

/-! Protocols: what a coroutine may ask for in which state, and the state behind
the signal that comes. -/

structure Protocol (W : World) (S : Type) where
  Permits : S → W.Operation → Prop
  next : S → W.Operation → Signal W → S

variable {W : World} {S σ τ α β : Type}

namespace Protocol

variable (protocol : Protocol W S)

def after (state : S) (exchanges : List (Exchange W)) : S :=
  exchanges.foldl
    (fun state exchange =>
      protocol.next state exchange.wait.operation exchange.signal)
    state

/-- Each operation of the transcript is one that may be asked for. -/
def Follows : S → List (Exchange W) → Prop
  | _, [] => True
  | state, exchange :: exchanges =>
      protocol.Permits state exchange.wait.operation ∧
        Follows (protocol.next state exchange.wait.operation exchange.signal)
          exchanges

variable {protocol} {state : S}

theorem after_append (front back : List (Exchange W)) :
    protocol.after state (front ++ back) =
      protocol.after (protocol.after state front) back :=
  List.foldl_append

theorem follows_append {front back : List (Exchange W)} :
    protocol.Follows state (front ++ back) ↔
      protocol.Follows state front ∧
        protocol.Follows (protocol.after state front) back := by
  induction front generalizing state with
  | nil => exact (true_and _).symm ▸ Iff.rfl
  | cons exchange front induction =>
      rw [List.cons_append, Follows, Follows, induction, and_assoc]
      rfl

/-- The state in front of an exchange permits it. -/
theorem Follows.permits {exchanges front back : List (Exchange W)}
    {exchange : Exchange W} (follows : protocol.Follows state exchanges)
    (split : exchanges = front ++ exchange :: back) :
    protocol.Permits (protocol.after state front) exchange.wait.operation := by
  rw [split, follows_append] at follows
  exact follows.2.1

/-- The transcript follows the protocol, and the run ends where `post` and
`during` say. -/
structure Reaches (protocol : Protocol W S) (state : S)
    (during : S → W.Operation → Prop) (post : α → S → Prop)
    (exchanges : List (Exchange W)) (status : Status W α) : Prop where
  follows : protocol.Follows state exchanges
  returned : ∀ value, status = .returned value →
    post value (protocol.after state exchanges)
  waiting : ∀ wait, status = .waiting wait →
    protocol.Permits (protocol.after state exchanges) wait.operation ∧
      during (protocol.after state exchanges) wait.operation

namespace Reaches

variable {during : S → W.Operation → Prop}

theorem of_returned {post : α → S → Prop} {exchanges : List (Exchange W)}
    {value : α} (follows : protocol.Follows state exchanges)
    (holds : post value (protocol.after state exchanges)) :
    protocol.Reaches state during post exchanges (.returned value) :=
  ⟨follows, fun _ same => Status.returned.inj same ▸ holds, nofun⟩

theorem append {first : α → S → Prop} {post : β → S → Prop}
    {front back : List (Exchange W)} {value : α} {status : Status W β}
    (head : protocol.Reaches state during first front (.returned value))
    (tail : protocol.Reaches (protocol.after state front) during post back
      status) :
    protocol.Reaches state during post (front ++ back) status := by
  refine ⟨follows_append.mpr ⟨head.follows, tail.follows⟩, ?_, ?_⟩
  · rw [after_append]
    exact tail.returned
  · rw [after_append]
    exact tail.waiting

theorem of_threw {first : α → S → Prop} {post : β → S → Prop}
    {exchanges : List (Exchange W)} {error : W.Error}
    (reaches : protocol.Reaches state during first exchanges
      (.threw error : Status W α)) :
    protocol.Reaches state during post exchanges (.threw error) :=
  ⟨reaches.follows, nofun, nofun⟩

theorem of_waiting {first : α → S → Prop} {post : β → S → Prop}
    {exchanges : List (Exchange W)} {wait wait' : Wait W}
    (reaches : protocol.Reaches state during first exchanges
      (.waiting wait : Status W α))
    (same : wait'.operation = wait.operation) :
    protocol.Reaches state during post exchanges (.waiting wait') := by
  refine ⟨reaches.follows, nofun, ?_⟩
  rintro _ ⟨⟩
  rw [same]
  exact reaches.waiting wait rfl

end Reaches

end Protocol

/-! Coroutines that keep to a protocol. -/

/-- From each state of `pre`, every run follows the protocol, waits only as in
`during`, and returns in states of `post`. -/
def Obeys (protocol : Protocol W S) (pre : S → Prop)
    (during : S → W.Operation → Prop) (post : α → S → Prop)
    (body : Co W σ α) : Prop :=
  Speaks body fun exchanges _ status =>
    ∀ state, pre state → protocol.Reaches state during post exchanges status

namespace Obeys

variable {protocol : Protocol W S} {pre : S → Prop}
variable {during : S → W.Operation → Prop}

theorem mono {pre' : S → Prop} {during' : S → W.Operation → Prop}
    {first post : α → S → Prop} {body : Co W σ α}
    (obeys : Obeys protocol pre during first body)
    (stronger : ∀ state, pre' state → pre state)
    (meanwhile : ∀ state operation,
      during state operation → during' state operation)
    (weaker : ∀ value state, first value state → post value state) :
    Obeys protocol pre' during' post body := by
  refine Speaks.mono obeys ?_
  intro exchanges trace status reaches state holds
  obtain ⟨follows, returned, waiting⟩ := reaches state (stronger state holds)
  refine ⟨follows, ?_, ?_⟩
  · exact fun value same => weaker _ _ (returned value same)
  · intro wait same
    obtain ⟨permitted, waited⟩ := waiting wait same
    exact ⟨permitted, meanwhile _ _ waited⟩

theorem pure {post : α → S → Prop} {value : α}
    (holds : ∀ state, pre state → post value state) :
    Obeys protocol pre during post (Pure.pure value : Co W σ α) :=
  Speaks.pure fun state started => .of_returned trivial (holds state started)

theorem emit {post : Unit → S → Prop} {action : W.Action}
    (holds : ∀ state, pre state → post () state) :
    Obeys protocol pre during post (Co.emit action : Co W σ Unit) :=
  Speaks.emit fun state started => .of_returned trivial (holds state started)

theorem load {post : σ → S → Prop}
    (holds : ∀ store state, pre state → post store state) :
    Obeys protocol pre during post (Co.load : Co W σ σ) :=
  Speaks.load fun store state started =>
    .of_returned trivial (holds store state started)

theorem save {post : Unit → S → Prop} {saved : σ}
    (holds : ∀ state, pre state → post () state) :
    Obeys protocol pre during post (Co.save saved : Co W σ Unit) :=
  Speaks.save fun state started => .of_returned trivial (holds state started)

theorem throw {post : α → S → Prop} {error : W.Error} :
    Obeys protocol pre during post (Co.throw error : Co W σ α) :=
  Speaks.throw fun _ _ => ⟨trivial, nofun, nofun⟩

theorem await {operation : W.Operation} {accept : W.Answer → Option α}
    {post : α → S → Prop}
    (permitted : ∀ state, pre state →
      protocol.Permits state operation ∧ during state operation)
    (taken : ∀ state answer value, pre state → accept answer = some value →
      post value (protocol.next state operation (.answer answer))) :
    Obeys protocol pre during post (Co.await operation accept : Co W σ α) := by
  refine Speaks.await ?_ ?_
  · intro state started
    refine ⟨trivial, nofun, ?_⟩
    rintro _ ⟨⟩
    exact permitted state started
  · intro answer value accepted state started
    exact .of_returned ⟨(permitted state started).1, trivial⟩
      (taken state answer value started accepted)

theorem bind {body : Co W σ α} {next : α → Co W σ β} {first : α → S → Prop}
    {post : β → S → Prop} (head : Obeys protocol pre during first body)
    (tail : ∀ value, Obeys protocol (first value) during post (next value)) :
    Obeys protocol pre during post (body >>= next) := by
  refine Speaks.bind head tail ?_ ?_ ?_
  · intro exchanges trace value exchanges' trace' status before behind state
      started
    have reached := before state started
    exact reached.append (behind _ (reached.returned value rfl))
  · exact fun _ _ _ before state started => (before state started).of_threw
  · exact fun _ _ _ before state started =>
      (before state started).of_waiting rfl

theorem ite {post : α → S → Prop} {condition : Prop} [Decidable condition]
    {body other : Co W σ α}
    (yes : condition → Obeys protocol pre during post body)
    (no : ¬ condition → Obeys protocol pre during post other) :
    Obeys protocol pre during post (if condition then body else other) := by
  split
  · next holds => exact yes holds
  · next fails => exact no fails

theorem withStore {init : τ} {body : Co W τ α} {post : α → S → Prop}
    (inside : Obeys protocol pre during post body) :
    Obeys protocol pre during (fun pair => post pair.1)
      (Co.withStore init body : Co W σ (α × τ)) := by
  refine Speaks.withStore inside ?_ ?_ ?_
  · intro exchanges trace value store reaches state started
    have reached := reaches state started
    exact .of_returned reached.follows (reached.returned value rfl)
  · exact fun _ _ _ reaches state started => (reaches state started).of_threw
  · exact fun _ _ _ reaches state started =>
      (reaches state started).of_waiting rfl

theorem loop {body : Co W σ (Option α)} {progresses : Progresses body}
    {post : α → S → Prop}
    (inside : Obeys protocol pre during
      (fun turn state => turn.elim (pre state) (post · state)) body) :
    Obeys protocol pre during post (Co.loop body progresses) := by
  refine Speaks.loop inside ?_ ?_ ?_ ?_
  · intro exchanges trace exchanges' trace' status turn behind state started
    have reached := turn state started
    exact reached.append (behind _ (reached.returned none rfl))
  · intro exchanges trace value turn state started
    have reached := turn state started
    exact .of_returned reached.follows (reached.returned (some value) rfl)
  · exact fun _ _ _ turn state started => (turn state started).of_threw
  · exact fun _ _ _ turn state started => (turn state started).of_waiting rfl

theorem follows_raced (protocol : Protocol W S) (milliseconds : Nat) (state : S)
    (exchanges : List (Exchange W)) :
    (protocol.Follows state (exchanges.map (.raced milliseconds)) ↔
        protocol.Follows state exchanges) ∧
      protocol.after state (exchanges.map (.raced milliseconds)) =
        protocol.after state exchanges := by
  induction exchanges generalizing state with
  | nil => exact ⟨Iff.rfl, rfl⟩
  | cons exchange exchanges induction =>
      obtain ⟨follows, same⟩ := induction (protocol.next state
        exchange.wait.operation exchange.signal)
      exact ⟨and_congr Iff.rfl follows, same⟩

theorem race {milliseconds : Nat} {body : Co W σ α} {post : Option α → S → Prop}
    (inside : Obeys protocol pre during (fun value => post (some value)) body)
    (expires : ∀ state operation, during state operation →
      post none (protocol.next state operation .timer)) :
    Obeys protocol pre during post (Co.race milliseconds body) := by
  have raced {state : S} {exchanges : List (Exchange W)} {status : Status W α}
      {result : α → S → Prop}
      (reaches : protocol.Reaches state during result exchanges status) :
      protocol.Reaches state during result
        (exchanges.map (.raced milliseconds)) status := by
    obtain ⟨follows, same⟩ :=
      follows_raced protocol milliseconds state exchanges
    refine ⟨follows.mpr reaches.follows, ?_, ?_⟩
    · rw [same]
      exact reaches.returned
    · rw [same]
      exact reaches.waiting
  refine Speaks.race inside ?_ ?_ ?_ ?_
  · intro exchanges trace value reaches state started
    have reached := raced (reaches state started)
    exact .of_returned reached.follows (reached.returned value rfl)
  · exact fun _ _ _ reaches state started =>
      (raced (reaches state started)).of_threw
  · exact fun _ _ _ reaches state started =>
      (raced (reaches state started)).of_waiting rfl
  · intro exchanges trace wait reaches state started
    have reached := raced (reaches state started)
    obtain ⟨permitted, waited⟩ := reached.waiting wait rfl
    refine .of_returned ?_ ?_
    · exact Protocol.follows_append.mpr ⟨reached.follows, permitted, trivial⟩
    · rw [Protocol.after_append]
      exact expires _ _ waited

end Obeys

end ServicePortScanner.Data.Co
