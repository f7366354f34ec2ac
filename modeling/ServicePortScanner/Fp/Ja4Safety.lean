import Mathlib.Data.List.Chain
import ServicePortScanner.Fp.Ja4Server

namespace ServicePortScanner.Fp

open ServicePortScanner.Data

/-! The parser on hostile bytes.  A read outside the buffer and a length that
would go below zero are faults of the model, so a parse without a fault has had
neither; what is left to show is how the loop moves. -/

section

variable (buffer : Bytes) (p extTotal : Nat)

/-- The turns of the loop from an offset on: the offsets at which they start,
and what the loop leaves behind. -/
inductive ExtensionRun : Nat → Ja4SInput → List Nat → Ja4SInput → Prop
  | leave {off : Nat} {input : Ja4SInput} :
      extensionTurn buffer p extTotal off input = .ok none →
      ExtensionRun off input [off] input
  | turn {off off' : Nat} {input input' result : Ja4SInput}
      {offsets : List Nat} :
      extensionTurn buffer p extTotal off input = .ok (some (off', input')) →
      ExtensionRun off' input' offsets result →
      ExtensionRun off input (off :: offsets) result

end

section

variable {buffer : Bytes} {p extTotal : Nat}

/-- The loop has a last turn, the turns move on by four bytes at least, and none
starts behind the block. -/
theorem exists_extensionRun (off : Nat) (input : Ja4SInput)
    (inside : p + extTotal ≤ buffer.length) (start : off ≤ extTotal) :
    ∃ offsets result, ExtensionRun buffer p extTotal off input offsets result ∧
      offsets.head? = some off ∧
      offsets.IsChain (fun earlier later => earlier + 4 ≤ later) ∧
      (∀ offset ∈ offsets, offset ≤ extTotal) ∧
      extensionLoop buffer p extTotal off input = .ok result := by
  rw [extensionLoop_eq]
  rcases extensionTurn_spec off input inside with
    left | ⟨off', input', went, grows, bounded⟩
  · refine ⟨[off], input, .leave left, rfl, List.isChain_singleton off, ?_, ?_⟩
    · rw [List.forall_mem_singleton]
      exact start
    · rw [left]
      rfl
  · obtain ⟨offsets, result, run, head, chain, below, loop⟩ :=
      exists_extensionRun off' input' inside bounded
    refine ⟨off :: offsets, result, .turn went run, rfl, ?_, ?_, ?_⟩
    · rw [List.isChain_cons]
      refine ⟨?_, chain⟩
      intro next isHead
      rw [head] at isHead
      cases isHead
      exact grows
    · rw [List.forall_mem_cons]
      exact ⟨start, below⟩
    · rw [went]
      exact loop
termination_by extTotal - off

end

/-- The loop of a parse: it is entered in front of a block inside the buffer,
and every turn of it starts within that block. -/
structure LoopInside (data : Bytes) (input : Ja4SInput) (extTotal : Nat)
    (cursor : Cursor) : Prop where
  remaining : cursor.pos + cursor.len = data.length
  block : extTotal ≤ cursor.len
  turns : ∃ offsets result,
    ExtensionRun data cursor.pos extTotal 0 input offsets result ∧
    offsets.IsChain (fun earlier later => earlier + 4 ≤ later) ∧
    (∀ offset ∈ offsets, offset ≤ extTotal) ∧
    parseServerHello data = .ok result

/-- Whatever the buffer holds, the parser reads inside it, takes no length below
zero, and leaves its loop. -/
theorem parseServerHello_inside (data : Bytes) :
    (∃ input, parseServerHello data = .ok input) ∧
    (data.length < 40 ∨ takeFixedPart data ⟨0, data.length⟩ = .ok none ∨
      ∃ input extTotal cursor,
        takeFixedPart data ⟨0, data.length⟩ =
          .ok (some ((input, extTotal), cursor)) ∧
        LoopInside data input extTotal.toNat cursor) := by
  refine ⟨parseServerHello_total data, ?_⟩
  by_cases short : data.length < 40
  · exact .inl short
  · refine .inr ?_
    rcases takeFixedPart_safe data ⟨0, data.length⟩ (Nat.zero_add _) with
      gaveUp | ⟨⟨input, extTotal⟩, cursor, read, inside, room⟩
    · exact .inl gaveUp
    · have fits : cursor.pos + extTotal.toNat ≤ data.length := by
        unfold Reader.Inside at inside
        dsimp only at room
        omega
      obtain ⟨offsets, result, run, _, chain, below, loop⟩ :=
        exists_extensionRun 0 input fits (Nat.zero_le _)
      refine .inr ⟨input, extTotal, cursor, read, inside, room, offsets, result,
        run, chain, below, ?_⟩
      rw [parseServerHello, if_neg short, read]
      exact loop

end ServicePortScanner.Fp
