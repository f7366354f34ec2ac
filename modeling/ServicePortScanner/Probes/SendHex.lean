import ServicePortScanner.Data.Hex
import ServicePortScanner.Probes.ProbeDatabase

namespace ServicePortScanner.Probes

open ServicePortScanner.Data

/-! `decode_hex` with its output parameter, and what it accepts. -/

/-- The loop, where `out` has been written so far. -/
def decodeLoop (out : Bytes) : Bytes → Bool × Bytes
  | hi :: lo :: rest =>
      match nibble hi, nibble lo with
      | some hi, some lo => decodeLoop (out ++ [hi <<< 4 ||| lo]) rest
      | _, _ => (false, out)
  | _ => (true, out)

def decodeHexInto (hex out : Bytes) : Bool × Bytes :=
  if hex.length % 2 ≠ 0 then (false, out) else decodeLoop [] hex

theorem decodeLoop_eq (out hex : Bytes) :
    (decodeLoop out hex).1 = (decodePairs hex).isSome ∧
      ∀ decoded ∈ decodePairs hex, (decodeLoop out hex).2 = out ++ decoded := by
  induction hex using decodePairs.induct generalizing out with
  | case1 hi lo rest hi' lo' low high induction =>
      rw [decodeLoop, decodePairs, high, low]
      obtain ⟨flag, written⟩ := induction (out ++ [hi' <<< 4 ||| lo'])
      refine ⟨by simpa using flag, ?_⟩
      intro decoded member
      obtain ⟨more, inRest, same⟩ := Option.map_eq_some_iff.mp member
      subst same
      simpa using written more inRest
  | case2 hi lo rest fails =>
      rw [decodeLoop, decodePairs]
      cases high : nibble hi with
      | none => exact ⟨rfl, nofun⟩
      | some hi' =>
          cases low : nibble lo with
          | none => exact ⟨rfl, nofun⟩
          | some lo' => exact (fails hi' lo' high low).elim
  | case3 hex short =>
      rw [decodeLoop, decodePairs]
      · simp
      · exact short
      · exact short

/-! Digits. -/

theorem nibble_digit {v : UInt8} (small : v < 16) :
    nibble (Hex.digit v) = some v ∧
      nibble (Hex.upper (Hex.digit v)) = some v := by
  by_cases decimal : v < 10
  · grind [nibble, Hex.digit, Hex.upper]
  · grind [nibble, Hex.digit, Hex.upper]

theorem nibble_spec {c v : UInt8} (found : nibble c = some v) :
    v < 16 ∧ Hex.lower c = Hex.digit v := by
  grind [nibble, Hex.digit, Hex.lower]

theorem nibble_eq_some_iff {c v : UInt8} :
    nibble c = some v ↔ v < 16 ∧ Hex.lower c = Hex.digit v := by
  constructor
  · exact nibble_spec
  · intro spelled
    obtain ⟨small, same⟩ := spelled
    rcases (Hex.lower_eq_digit_iff small).mp same with rfl | rfl
    · exact (nibble_digit small).1
    · exact (nibble_digit small).2

theorem nibble_eq_none_iff {c : UInt8} :
    nibble c = none ↔ ¬ Hex.IsDigit c := by
  grind [nibble, Hex.IsDigit]

/-! Whole texts. -/

/-- A text decodes to what it spells. -/
theorem decodePairs_of_spells {hex out : Bytes}
    (spelled : hex.map Hex.lower = Hex.encode out) :
    decodePairs hex = some out := by
  induction out generalizing hex with
  | nil =>
      rw [Hex.encode_nil, List.map_eq_nil_iff] at spelled
      subst spelled
      rfl
  | cons b out induction =>
      rw [Hex.encode_cons] at spelled
      obtain ⟨hi, others, rfl, first, spelled⟩ :=
        List.map_eq_cons_iff.mp spelled
      obtain ⟨lo, rest, rfl, second, spelled⟩ := List.map_eq_cons_iff.mp spelled
      have high := nibble_eq_some_iff.mpr ⟨Hex.high_lt b, first⟩
      have low := nibble_eq_some_iff.mpr ⟨Hex.low_lt b, second⟩
      rw [decodePairs, high, low]
      dsimp only
      rw [induction spelled, Hex.join_high_low]
      rfl

theorem spells_of_decodePairs {hex out : Bytes}
    (even : hex.length % 2 = 0) (decoded : decodePairs hex = some out) :
    hex.map Hex.lower = Hex.encode out := by
  induction hex using decodePairs.induct generalizing out with
  | case1 hi lo rest hi' lo' low high induction =>
      rw [decodePairs, high, low] at decoded
      obtain ⟨more, inRest, same⟩ := Option.map_eq_some_iff.mp decoded
      subst same
      have evenRest : rest.length % 2 = 0 := by
        simp only [List.length_cons] at even
        omega
      obtain ⟨highSmall, first⟩ := nibble_spec high
      obtain ⟨lowSmall, second⟩ := nibble_spec low
      rw [List.map_cons, List.map_cons, Hex.encode_cons,
        induction evenRest inRest, first, second,
        Hex.high_join highSmall lowSmall, Hex.low_join highSmall lowSmall]
  | case2 hi lo rest fails =>
      rw [decodePairs] at decoded
      cases high : nibble hi with
      | none =>
          rw [high] at decoded
          cases decoded
      | some hi' =>
          cases low : nibble lo with
          | none =>
              rw [high, low] at decoded
              cases decoded
          | some lo' => exact (fails hi' lo' high low).elim
  | case3 hex short =>
      cases hex with
      | nil =>
          cases decoded
          rfl
      | cons c rest =>
          cases rest with
          | nil => cases even
          | cons d rest => exact (short c d rest rfl).elim

theorem decodeHex_eq_some_iff {hex out : Bytes} :
    decodeHex hex = some out ↔ hex.map Hex.lower = Hex.encode out := by
  unfold decodeHex
  by_cases even : hex.length % 2 = 0
  · rw [if_neg (not_not.mpr even)]
    exact ⟨spells_of_decodePairs even, decodePairs_of_spells⟩
  · rw [if_pos even]
    refine iff_of_false nofun ?_
    intro spelled
    have lengths := congrArg List.length spelled
    rw [List.length_map, Hex.length_encode] at lengths
    omega

theorem isDigit_of_decodeHex {hex out : Bytes}
    (decoded : decodeHex hex = some out) : ∀ c ∈ hex, Hex.IsDigit c := by
  intro c member
  have spelled := decodeHex_eq_some_iff.mp decoded
  have inText : Hex.lower c ∈ Hex.encode out :=
    spelled ▸ List.mem_map_of_mem member
  obtain ⟨v, small, same⟩ := Hex.mem_encode inText
  have found := nibble_eq_some_iff.mpr ⟨small, same⟩
  by_contra other
  rw [nibble_eq_none_iff.mpr other] at found
  cases found

theorem decodeHex_eq_none {hex : Bytes}
    (malformed : hex.length % 2 ≠ 0 ∨ ∃ c ∈ hex, ¬ Hex.IsDigit c) :
    decodeHex hex = none := by
  rcases malformed with odd | ⟨c, member, other⟩
  · rw [decodeHex, if_pos odd]
  · cases decoded : decodeHex hex with
    | none => rfl
    | some out => exact (other (isDigit_of_decodeHex decoded c member)).elim

theorem decodeHexInto_eq (hex out : Bytes) :
    (decodeHexInto hex out).1 = (decodeHex hex).isSome ∧
      ∀ decoded ∈ decodeHex hex, (decodeHexInto hex out).2 = decoded := by
  unfold decodeHexInto decodeHex
  split
  · exact ⟨rfl, nofun⟩
  · exact decodeLoop_eq [] hex

theorem decodeHexInto_of_spells {hex text : Bytes}
    (spells : Hex.Spells hex text) (out : Bytes) :
    decodeHexInto hex out = (true, text) := by
  have decoded : decodeHex hex = some text :=
    decodeHex_eq_some_iff.mpr (Hex.spells_iff.mp spells)
  obtain ⟨flag, written⟩ := decodeHexInto_eq hex out
  rw [decoded] at flag
  exact Prod.ext flag (written text decoded)

section

variable {F : Type}

theorem parseProbe_eq_none {compiles : Bytes → Bool} {entry : JsonNode F}
    (unsendable : parsePayload entry = none) :
    parseProbe compiles entry = none := by
  unfold parseProbe
  rw [unsendable]
  split <;> rfl

/-- A hex text decodes to the bytes it spells, in either case; any other text is
rejected, and with it an entry that has nothing else to send; and what has been
decoded is encoded as the text in lower case. -/
theorem decodeHex_inverts :
    (∀ hex text out, Hex.Spells hex text →
      decodeHexInto hex out = (true, text)) ∧
    (∀ hex, hex.length % 2 ≠ 0 ∨ (∃ c ∈ hex, ¬ Hex.IsDigit c) →
      (∀ out, (decodeHexInto hex out).1 = false) ∧
      ∀ (compiles : Bytes → Bool) (entry : JsonNode F),
        entry.findString? (bytes "send") = none →
        entry.findString? (bytes "send_hex") = some hex →
        parseProbe compiles entry = none) ∧
    (∀ hex out, (decodeHexInto hex out).1 = true →
      Hex.Spells hex (decodeHexInto hex out).2 ∧
        Hex.encode (decodeHexInto hex out).2 = hex.map Hex.lower) := by
  refine ⟨?_, ?_, ?_⟩
  · intro hex text out spells
    exact decodeHexInto_of_spells spells out
  · intro hex malformed
    have rejected := decodeHex_eq_none malformed
    constructor
    · intro out
      rw [(decodeHexInto_eq hex out).1, rejected]
      rfl
    · intro compiles entry noSend sendHex
      apply parseProbe_eq_none
      rw [parsePayload, noSend, sendHex]
      exact rejected
  · intro hex out accepted
    obtain ⟨flag, written⟩ := decodeHexInto_eq hex out
    rw [accepted] at flag
    obtain ⟨text, decoded⟩ := Option.isSome_iff_exists.mp flag.symm
    have spelled := decodeHex_eq_some_iff.mp decoded
    rw [written text decoded]
    exact ⟨Hex.spells_iff.mpr spelled, spelled.symm⟩

end

theorem decodeHex_inverts_mixed :
    decodeHexInto (bytes "00Ff8a") (bytes "old") =
      (true, [0x00, 0xff, 0x8a]) :=
  (@decodeHex_inverts ℕ).1 _ _ _ (Hex.spells_iff.mpr (by decide))

example : decodeHex (bytes "0000000804d2162f") =
    some postgresqlRule.sendPayload := by
  decide +kernel

end ServicePortScanner.Probes
