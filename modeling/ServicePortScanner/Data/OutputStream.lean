import Mathlib.Data.List.Basic

namespace ServicePortScanner.Data

/-! Output streams: a buffer in front of a device that takes a limited number of
items.  A stream that has failed drops what is inserted into it. -/

structure Device (α : Type) where
  failsAt : Nat
  written : List α
  fits : written.length ≤ failsAt
  deriving DecidableEq, Repr

/-- When a stream hands items on: of those it holds and those that are inserted,
how many go to the device at once. -/
structure Buffering where
  spill : Nat → Nat → Nat
  spill_le : ∀ held inserted, spill held inserted ≤ held + inserted

/-- A buffer of a fixed size, which is emptied when it would overflow. -/
def Buffering.ofSize (size : Nat) : Buffering where
  spill held inserted := if held + inserted < size then 0 else held + inserted
  spill_le held inserted := by
    split
    · exact Nat.zero_le _
    · exact Nat.le_refl _

structure OutputStream (α : Type) where
  device : Device α
  held : List α
  good : Bool
  deriving DecidableEq, Repr

namespace Device

variable {α : Type}

def blank (α : Type) (failsAt : Nat) : Device α :=
  ⟨failsAt, [], Nat.zero_le _⟩

/-- Everything up to the failure is written. -/
def put (device : Device α) (items : List α) : Bool × Device α :=
  (decide (device.written.length + items.length ≤ device.failsAt),
    ⟨device.failsAt, (device.written ++ items).take device.failsAt,
      List.length_take_le _ _⟩)

end Device

namespace OutputStream

variable {α : Type} {buffering : Buffering}

def openOn (device : Device α) : OutputStream α :=
  ⟨device, [], true⟩

def insert (buffering : Buffering) (stream : OutputStream α) (items : List α) :
    OutputStream α :=
  if stream.good then
    let pending := stream.held ++ items
    let spilled := buffering.spill stream.held.length items.length
    let put := stream.device.put (pending.take spilled)
    ⟨put.2, pending.drop spilled, put.1⟩
  else stream

def insertAll (buffering : Buffering) (stream : OutputStream α)
    (pieces : List (List α)) : OutputStream α :=
  pieces.foldl (insert buffering) stream

/-- The destructor flushes what is held, and ignores how that goes. -/
def close (stream : OutputStream α) : Device α :=
  (stream.device.put stream.held).2

/-- What has been inserted is written or held; once the stream has failed, the
device is full with the front of it. -/
structure Holds (failsAt : Nat) (content : List α) (stream : OutputStream α) :
    Prop where
  device : stream.device.failsAt = failsAt
  good : stream.good = true → stream.device.written ++ stream.held = content
  failed : stream.good = false →
    failsAt < content.length ∧ stream.device.written = content.take failsAt

theorem holds_openOn (failsAt : Nat) :
    (openOn (Device.blank α failsAt)).Holds failsAt [] where
  device := rfl
  good _ := rfl
  failed absurd := by cases absurd

theorem Holds.insert {failsAt : Nat} {content : List α} {stream : OutputStream α}
    (holds : stream.Holds failsAt content) (items : List α) :
    (stream.insert buffering items).Holds failsAt (content ++ items) := by
  unfold OutputStream.insert
  split
  · next good =>
      have kept := holds.good good
      have fits := stream.device.fits
      rw [holds.device] at fits
      dsimp only
      generalize buffering.spill stream.held.length items.length = spilled
      have whole : stream.device.written ++ (stream.held ++ items).take spilled ++
          (stream.held ++ items).drop spilled = content ++ items := by
        rw [List.append_assoc, List.take_append_drop, ← List.append_assoc, kept]
      refine ⟨holds.device, ?_, ?_⟩
      · intro accepted
        have room := of_decide_eq_true accepted
        rw [← List.length_append] at room
        exact (congrArg (· ++ _) (List.take_of_length_le room)).trans whole
      · intro refused
        have full := of_decide_eq_false refused
        rw [← List.length_append, holds.device, Nat.not_le] at full
        constructor
        · rw [← whole, List.length_append]
          omega
        · rw [← whole, List.take_append_of_le_length (Nat.le_of_lt full)]
          exact congrArg (List.take · _) holds.device
  · next bad =>
      obtain ⟨short, front⟩ := holds.failed (Bool.eq_false_iff.mpr bad)
      refine ⟨holds.device, fun good => absurd good bad, fun _ => ⟨?_, ?_⟩⟩
      · rw [List.length_append]
        omega
      · rw [List.take_append_of_le_length (Nat.le_of_lt short), front]

theorem Holds.insertAll {failsAt : Nat} {content : List α}
    {stream : OutputStream α} (holds : stream.Holds failsAt content)
    (pieces : List (List α)) :
    (stream.insertAll buffering pieces).Holds failsAt
      (content ++ pieces.flatten) := by
  induction pieces generalizing content stream with
  | nil =>
      rw [List.flatten_nil, List.append_nil]
      exact holds
  | cons piece rest induction =>
      rw [List.flatten_cons, ← List.append_assoc]
      exact induction (holds.insert piece)

/-- A closed stream leaves what the device takes of the content, and no more. -/
theorem Holds.close_written {failsAt : Nat} {content : List α}
    {stream : OutputStream α} (holds : stream.Holds failsAt content) :
    stream.close.written = content.take failsAt := by
  have written : stream.close.written =
      (stream.device.written ++ stream.held).take failsAt :=
    congrArg (List.take · _) holds.device
  cases state : stream.good with
  | true => rw [written, holds.good state]
  | false =>
      obtain ⟨short, front⟩ := holds.failed state
      have full : stream.device.written.length = failsAt := by
        rw [front, List.length_take_of_le (Nat.le_of_lt short)]
      rw [written, List.take_left' full, front]

/-- A single insertion fails exactly where the part of it that is handed on
reaches the failure. -/
theorem insert_good_iff (buffering : Buffering) (failsAt : Nat) (items : List α) :
    ((openOn (Device.blank α failsAt)).insert buffering items).good = true ↔
      buffering.spill 0 items.length ≤ failsAt := by
  have within := buffering.spill_le 0 items.length
  rw [insert, if_pos (show (openOn (Device.blank α failsAt)).good = true from rfl)]
  simp only [openOn, Device.blank, Device.put, List.nil_append, List.length_nil,
    decide_eq_true_eq, List.length_take]
  omega

end OutputStream

end ServicePortScanner.Data
