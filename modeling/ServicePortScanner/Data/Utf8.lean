import ServicePortScanner.Data.Bytes

namespace ServicePortScanner.Data.Utf8

/-! Well-formed UTF-8 as a machine over bytes, and what can be taken out of or
put into such text at ASCII bytes. -/

/-- Lead bytes that narrow the range of the next byte. -/
inductive Lead where
  | e0
  | ed
  | f0
  | f4
  deriving DecidableEq, Repr

inductive State where
  | boundary
  /-- inside a character: one continuation byte, then `more` of them -/
  | tail (more : Nat)
  | narrowed (lead : Lead)
  deriving DecidableEq, Repr

def within (low high b : UInt8) (next : State) : Option State :=
  if low ≤ b ∧ b ≤ high then some next else none

def afterTail : Nat → State
  | 0 => .boundary
  | more + 1 => .tail more

def lead (b : UInt8) : Option State :=
  if b < 0x80 then some .boundary
  else if b < 0xc2 then none
  else if b < 0xe0 then some (.tail 0)
  else if b = 0xe0 then some (.narrowed .e0)
  else if b = 0xed then some (.narrowed .ed)
  else if b < 0xf0 then some (.tail 1)
  else if b = 0xf0 then some (.narrowed .f0)
  else if b < 0xf4 then some (.tail 2)
  else if b = 0xf4 then some (.narrowed .f4)
  else none

def step (state : State) (b : UInt8) : Option State :=
  match state with
  | .boundary => lead b
  | .tail more => within 0x80 0xbf b (afterTail more)
  | .narrowed .e0 => within 0xa0 0xbf b (.tail 0)
  | .narrowed .ed => within 0x80 0x9f b (.tail 0)
  | .narrowed .f0 => within 0x90 0xbf b (.tail 1)
  | .narrowed .f4 => within 0x80 0x8f b (.tail 1)

def run (state : State) : Bytes → Option State
  | [] => some state
  | b :: rest =>
      match step state b with
      | some next => run next rest
      | none => none

def Valid (text : Bytes) : Prop :=
  run .boundary text = some .boundary

instance (text : Bytes) : Decidable (Valid text) :=
  inferInstanceAs (Decidable (_ = _))

theorem run_append (state : State) (first second : Bytes) :
    run state (first ++ second) =
      (run state first).bind fun next => run next second := by
  induction first generalizing state with
  | nil => rfl
  | cons b first induction =>
      simp only [List.cons_append, run]
      cases step state b with
      | none => rfl
      | some next => exact induction next

/-! ASCII bytes stand between characters only. -/

def IsAscii (b : UInt8) : Prop := b < 0x80

instance (b : UInt8) : Decidable (IsAscii b) :=
  inferInstanceAs (Decidable (_ < _))

theorem step_boundary_ascii {b : UInt8} (ascii : IsAscii b) :
    step .boundary b = some .boundary := by
  have small : b < 0x80 := ascii
  simp [step, lead, small]

theorem within_ascii {low high b : UInt8} (ascii : IsAscii b)
    (above : 0x80 ≤ low) (next : State) : within low high b next = none := by
  have below : ¬ low ≤ b := by
    simp only [IsAscii, UInt8.lt_iff_toNat_lt, UInt8.le_iff_toNat_le] at *
    omega
  simp [within, below]

theorem step_inside_ascii {state : State} {b : UInt8} (ascii : IsAscii b)
    (inside : state ≠ .boundary) : step state b = none := by
  cases state with
  | boundary => exact absurd rfl inside
  | tail more => exact within_ascii ascii (by decide) _
  | narrowed lead => cases lead <;> exact within_ascii ascii (by decide) _

theorem run_boundary_ascii {text : Bytes} (ascii : ∀ b ∈ text, IsAscii b)
    (rest : Bytes) : run .boundary (text ++ rest) = run .boundary rest := by
  induction text with
  | nil => rfl
  | cons b text induction =>
      simp only [List.cons_append, run,
        step_boundary_ascii (ascii b List.mem_cons_self)]
      exact induction fun other member =>
        ascii other (List.mem_cons_of_mem b member)

theorem valid_ascii_append {text : Bytes} (ascii : ∀ b ∈ text, IsAscii b)
    (rest : Bytes) : Valid (text ++ rest) ↔ Valid rest := by
  rw [Valid, run_boundary_ascii ascii, Valid]

theorem run_append_ascii (text : Bytes) {b : UInt8} (ascii : IsAscii b)
    (rest : Bytes) :
    run .boundary (text ++ b :: rest) =
      if Valid text then run .boundary rest else none := by
  rw [run_append]
  cases reached : run .boundary text with
  | none => rw [if_neg (by simp [Valid, reached]), Option.bind_none]
  | some state =>
      by_cases boundary : state = .boundary
      · subst state
        have valid : Valid text := reached
        rw [if_pos valid]
        simp [run, step_boundary_ascii ascii]
      · rw [if_neg (by simp [Valid, reached, boundary])]
        simp [run, step_inside_ascii ascii boundary]

theorem valid_append_ascii (text : Bytes) {b : UInt8} (ascii : IsAscii b)
    (rest : Bytes) :
    Valid (text ++ b :: rest) ↔ Valid text ∧ Valid rest := by
  rw [Valid, run_append_ascii text ascii]
  by_cases valid : Valid text
  · rw [if_pos valid]
    exact (and_iff_right valid).symm
  · rw [if_neg valid]
    exact iff_of_false nofun fun both => valid both.1

theorem run_flatMap {replace : UInt8 → Bytes}
    (ascii : ∀ b, IsAscii b → replace b ≠ [] ∧ ∀ c ∈ replace b, IsAscii c)
    (other : ∀ b, ¬ IsAscii b → replace b = [b]) (state : State)
    (text : Bytes) : run state (text.flatMap replace) = run state text := by
  induction text generalizing state with
  | nil => rfl
  | cons b text induction =>
      rw [List.flatMap_cons]
      by_cases small : IsAscii b
      · obtain ⟨nonempty, all⟩ := ascii b small
        by_cases boundary : state = .boundary
        · subst state
          rw [run_boundary_ascii all, induction]
          simp [run, step_boundary_ascii small]
        · obtain ⟨c, others, replaced⟩ := List.exists_cons_of_ne_nil nonempty
          have first : IsAscii c := all c (by simp [replaced])
          simp [replaced, run, step_inside_ascii small boundary,
            step_inside_ascii first boundary]
      · rw [other b small, List.singleton_append]
        simp only [run, induction]

theorem valid_flatMap_iff {replace : UInt8 → Bytes}
    (ascii : ∀ b, IsAscii b → replace b ≠ [] ∧ ∀ c ∈ replace b, IsAscii c)
    (other : ∀ b, ¬ IsAscii b → replace b = [b]) {text : Bytes} :
    Valid (text.flatMap replace) ↔ Valid text := by
  rw [Valid, Valid, run_flatMap ascii other]

theorem valid_of_ascii {text : Bytes} (ascii : ∀ b ∈ text, IsAscii b) :
    Valid text := by
  have whole := run_boundary_ascii ascii []
  rw [List.append_nil] at whole
  exact whole

example : Valid (bytes "배너 ✓") ∧ ¬ Valid [0x4a, 0xff] := by decide

end ServicePortScanner.Data.Utf8
