import ServicePortScanner.Fp.Ja4Server

namespace ServicePortScanner.Fp

open ServicePortScanner.Data

/-! Bodies that are no ServerHello: where the parser rejects them, and where it
keeps what it has read. -/

/-- Whole records fill the extension block; any bytes may follow it. -/
def WellFormed (data : Bytes) : Prop :=
  ∃ (hello : ServerHello) (trailing : Bytes), data = hello.encode ++ trailing

/-- A body whose extension block breaks off within a record. -/
structure BrokenHello where
  frame : HelloFrame
  records : List Extension
  leftover : Bytes
  block : frame.block = encodeExtensions records ++ leftover
  noRecord : HasNoRecord leftover
  leftover_ne : leftover ≠ []

/-- In front of the break stands nothing that the parser keeps. -/
def BrokenHello.Blank (hello : BrokenHello) : Prop :=
  hello.frame.legacyVersion = 0 ∧ hello.frame.cipherId = 0 ∧
    ∀ record ∈ hello.records, isGrease record.type = true

/-! What the parser accepts in front of the block is a fixed part. -/

theorem takeFields_consumes :
    Reader.Consumes takeFields fun taken _ =>
      ∃ hello : HelloFields, taken = hello.encode := by
  have parts := Reader.takeU16_consumes.bind fun legacyVersion : UInt16 =>
    (Reader.skip_consumes 32).bind fun _ =>
      Reader.takeU8_consumes.bind fun sidLen =>
        (Reader.skip_consumes sidLen.toNat).bind fun _ =>
          Reader.takeU16_consumes.bind fun cipherId : UInt16 =>
            Reader.takeU8_consumes.bind fun _ =>
              Reader.Consumes.pure (legacyVersion, cipherId)
  apply Reader.Consumes.mono parts
  rintro _ fields ⟨version, _, _, rfl, rfl, _, random, _, rfl, randomLength,
    sidLen, _, _, rfl, rfl, _, sessionId, _, rfl, sidLength, cipher, _, _, rfl,
    rfl, compression, _, _, rfl, rfl, rfl, _⟩
  have bound := sidLen.toNat_lt
  have length : UInt8.ofNat sessionId.length = sidLen := by
    rw [sidLength, UInt8.ofNat_toNat]
  refine ⟨⟨version, random, sessionId, cipher, compression, randomLength,
    by omega⟩, ?_⟩
  simp [HelloFields.encode, length]

theorem takeFixedPart_consumes :
    Reader.Consumes takeFixedPart fun taken result =>
      ∃ hello : HelloFields, taken = hello.encode ++ putU16 result.2 := by
  have tail (fields : UInt16 × UInt16) :
      Reader.Consumes (takeBlockLength fields) fun taken result =>
        taken = putU16 result.2 := by
    have guarded (extTotal : UInt16) : Reader.Consumes
        (do
          if (← Reader.remaining) < extTotal.toNat then Reader.giveUp
          else
            return ({ legacyVersion := fields.1, cipherId := fields.2 },
              extTotal) : Reader (Ja4SInput × UInt16))
        fun taken result => taken = [] ∧ result.2 = extTotal := by
      intro buffer rest cursor cursor' result located success
      simp only [Bind.bind, Reader.bind, Reader.remaining] at success
      split at success
      · cases success
      · cases success
        exact ⟨[], rest, rfl, located, rfl, rfl⟩
    apply (Reader.takeU16_consumes.bind guarded).mono
    rintro _ result ⟨_, _, _, rfl, rfl, rfl, rfl⟩
    exact List.append_nil _
  rw [takeFixedPart_eq]
  apply (takeFields_consumes.bind tail).mono
  rintro _ result ⟨_, _, _, rfl, ⟨hello, rfl⟩, rfl⟩
  exact ⟨hello, rfl⟩

theorem at_start (data : Bytes) : Cursor.At data ⟨0, data.length⟩ data :=
  ⟨rfl, rfl⟩

theorem takeFixedPart_framed {data : Bytes} {result : Ja4SInput × UInt16}
    {cursor : Cursor}
    (success : takeFixedPart data ⟨0, data.length⟩ =
      .ok (some (result, cursor))) :
    ∃ (frame : HelloFrame) (trailing : Bytes),
      data = frame.encode ++ trailing := by
  obtain ⟨_, rest, split, located, hello, rfl⟩ :=
    takeFixedPart_consumes data data _ cursor result (at_start data) success
  have room : result.2.toNat ≤ rest.length := by
    rw [← located.length]
    rcases takeFixedPart_safe data ⟨0, data.length⟩ (Nat.zero_add _) with
      gaveUp | ⟨result', cursor', read, _, room⟩
    · rw [gaveUp] at success
      cases success
    · rw [read] at success
      cases success
      exact room
  have length := List.length_take_of_le room
  have bound := result.2.toNat_lt
  refine ⟨⟨hello, rest.take result.2.toNat, by omega⟩,
    rest.drop result.2.toNat, ?_⟩
  change data = hello.encode ++
    putU16 (UInt16.ofNat (rest.take result.2.toNat).length) ++
      rest.take result.2.toNat ++ rest.drop result.2.toNat
  rw [length, UInt16.ofNat_toNat, List.append_assoc, List.take_append_drop]
  exact split

/-- A body without a fixed part and a block of the length it states is rejected
as a whole. -/
theorem framed_or_rejected (data : Bytes) :
    (∃ (frame : HelloFrame) (trailing : Bytes),
      data = frame.encode ++ trailing) ∨
    parseServerHello data = .ok {} := by
  unfold parseServerHello
  split
  · exact .inr rfl
  · rcases takeFixedPart_safe data ⟨0, data.length⟩ (Nat.zero_add _) with
      gaveUp | ⟨result, cursor, read, _, _⟩
    · rw [gaveUp]
      exact .inr rfl
    · exact .inl (takeFixedPart_framed read)

/-- Two frames of one body have the same block. -/
theorem frame_block_unique {frame other : HelloFrame}
    {trailing trailing' : Bytes}
    (same : frame.encode ++ trailing = other.encode ++ trailing') :
    frame.block = other.block := by
  obtain ⟨cursor, read, located⟩ :=
    takeFixedPart_frame frame _ trailing _ (frame.atStart trailing)
  obtain ⟨cursor', read', located'⟩ :=
    takeFixedPart_frame other _ trailing' _ (other.atStart trailing')
  rw [← same, read] at read'
  simp only [Except.ok.injEq, Option.some.injEq, Prod.mk.injEq] at read'
  obtain ⟨⟨_, sameLength⟩, rfl⟩ := read'
  have lengths := congrArg UInt16.toNat sameLength
  rw [frame.block_length_toNat, other.block_length_toNat] at lengths
  have blocks := located.suffix
  rw [same, located'.suffix] at blocks
  exact (List.append_inj_left blocks lengths.symm).symm

/-! Whole records of a block, and what they leave. -/

theorem exists_records (block : Bytes) :
    ∃ records leftover, block = encodeExtensions records ++ leftover ∧
      HasNoRecord leftover := by
  by_cases long : 4 ≤ block.length
  · obtain ⟨first, second, hi, lo, body, rfl⟩ := exists_header block long
    by_cases whole : (u16 hi lo).toNat ≤ body.length
    · obtain ⟨records, leftover, split, noRecord⟩ :=
        exists_records (body.drop (u16 hi lo).toNat)
      refine ⟨⟨u16 first second, body.take (u16 hi lo).toNat⟩ :: records,
        leftover, ?_, noRecord⟩
      have cut := body.take_append_drop (u16 hi lo).toNat
      rw [split] at cut
      simp only [encodeExtensions, List.flatMap_cons, Extension.encode,
        putU16_u16, List.length_take_of_le whole, UInt16.ofNat_toNat]
      simpa [encodeExtensions] using cut.symm
    · exact ⟨[], _, rfl, Nat.lt_of_not_le whole⟩
  · refine ⟨[], block, rfl, ?_⟩
    unfold HasNoRecord
    split
    · simp only [List.length_cons] at long
      omega
    · trivial
termination_by block.length

theorem HasNoRecord.ne_encode {leftover rest : Bytes} {extension : Extension}
    (noRecord : HasNoRecord leftover)
    (small : extension.body.length ≤ 65535) :
    leftover ≠ extension.encode ++ rest := by
  rintro rfl
  have length :
      (UInt16.ofNat extension.body.length).toNat = extension.body.length := by
    rw [UInt16.toNat_ofNat', Nat.mod_eq_of_lt (by omega)]
  change (extension.body ++ rest).length < (u16 _ _).toNat at noRecord
  rw [u16_putU16, length, List.length_append] at noRecord
  omega

theorem encode_append_inj {extension other : Extension} {rest rest' : Bytes}
    (small : extension.body.length ≤ 65535)
    (small' : other.body.length ≤ 65535)
    (same : extension.encode ++ rest = other.encode ++ rest') :
    rest = rest' := by
  simp only [Extension.encode, List.append_assoc] at same
  have afterType := List.append_inj_right same rfl
  have lengths := List.append_inj_left afterType rfl
  have afterLength := List.append_inj_right afterType rfl
  have sameLength : extension.body.length = other.body.length := by
    have equal := congrArg UInt16.toNat (putU16_inj lengths)
    rw [UInt16.toNat_ofNat', UInt16.toNat_ofNat', Nat.mod_eq_of_lt (by omega),
      Nat.mod_eq_of_lt (by omega)] at equal
    exact equal
  exact List.append_inj_right afterLength sameLength

/-- Records that fill a block leave nothing over, however it is cut. -/
theorem leftover_eq_nil {extensions records : List Extension}
    {leftover : Bytes}
    (small : (encodeExtensions extensions).length ≤ 65535)
    (noRecord : HasNoRecord leftover)
    (same : encodeExtensions extensions =
      encodeExtensions records ++ leftover) :
    leftover = [] := by
  induction records generalizing extensions with
  | nil =>
      cases extensions with
      | nil => exact same.symm
      | cons extension extensions =>
          rw [length_encodeExtensions_cons] at small
          exact absurd same.symm (noRecord.ne_encode (by omega))
  | cons record records induction =>
      cases extensions with
      | nil =>
          have lengths := congrArg List.length same
          rw [List.length_append, length_encodeExtensions_cons] at lengths
          change 0 = _ at lengths
          omega
      | cons extension extensions =>
          have lengths := congrArg List.length same
          rw [List.length_append, length_encodeExtensions_cons,
            length_encodeExtensions_cons] at lengths
          rw [length_encodeExtensions_cons] at small
          simp only [encodeExtensions, List.flatMap_cons,
            List.append_assoc] at same
          have rest : encodeExtensions extensions =
              encodeExtensions records ++ leftover :=
            encode_append_inj (by omega) (by omega) same
          exact induction (by omega) rest

theorem wellFormed_of_records (frame : HelloFrame) (trailing : Bytes)
    {records : List Extension} (block : frame.block = encodeExtensions records) :
    WellFormed (frame.encode ++ trailing) := by
  have bound := frame.block_length
  rw [block] at bound
  let hello : ServerHello :=
    ⟨frame.legacyVersion, frame.random, frame.sessionId, frame.cipherId,
      frame.compression, records, frame.random_length, frame.sessionId_length,
      bound⟩
  refine ⟨hello, trailing, ?_⟩
  rw [← hello.encode_frame]
  simp only [HelloFrame.encode, HelloFrame.fixedPart, block]
  rfl

theorem BrokenHello.not_wellFormed (hello : BrokenHello) (trailing : Bytes) :
    ¬ WellFormed (hello.frame.encode ++ trailing) := by
  rintro ⟨whole, trailing', same⟩
  rw [← whole.encode_frame] at same
  have block := frame_block_unique same
  rw [hello.block] at block
  exact hello.leftover_ne
    (leftover_eq_nil whole.extensions_length hello.noRecord block.symm)

/-! What the parser makes of a body that breaks off. -/

def BrokenHello.parsed (hello : BrokenHello) : Ja4SInput :=
  hello.records.foldl (fun acc record => record.addTo acc)
    { legacyVersion := hello.frame.legacyVersion
      cipherId := hello.frame.cipherId }

theorem selectedVersion?_grease {record : Extension}
    (grease : isGrease record.type = true) :
    record.selectedVersion? = none := by
  unfold Extension.selectedVersion?
  split
  · rw [if_neg]
    intro isVersions
    rw [isVersions] at grease
    exact absurd grease (by decide)
  · rfl

/-- The parser's result is the empty one only where there was nothing to keep. -/
theorem BrokenHello.parsed_eq_empty_iff (hello : BrokenHello) :
    hello.parsed = {} ↔ hello.Blank := by
  unfold BrokenHello.parsed BrokenHello.Blank
  rw [untouched_foldl, extensionTypes_foldl, negotiatedVersion_foldl]
  constructor
  · intro empty
    rw [Ja4SInput.mk.injEq] at empty
    obtain ⟨_, version, _, cipher, types, _⟩ := empty
    refine ⟨version, cipher, ?_⟩
    simpa using types
  · rintro ⟨version, cipher, grease⟩
    have types : (hello.records.map Extension.type).filter
        (fun type => !isGrease type) = [] := by
      simpa using grease
    have versions : hello.records.filterMap Extension.selectedVersion? = [] := by
      rw [List.filterMap_eq_nil_iff]
      intro record member
      exact selectedVersion?_grease (grease record member)
    rw [types, versions, version, cipher]
    rfl

/-- A malformed body is rejected as a whole exactly where it does not break off
within a record behind something that the parser keeps. -/
theorem malformed_rejected_iff (data : Bytes) :
    (¬ WellFormed data → parseServerHello data = .ok {}) ↔
      ∀ (hello : BrokenHello) (trailing : Bytes),
        data = hello.frame.encode ++ trailing → hello.Blank := by
  constructor
  · rintro rejected hello trailing rfl
    have empty := rejected (hello.not_wellFormed trailing)
    rw [parseServerHello_records hello.frame trailing hello.block
      hello.noRecord, Except.ok.injEq] at empty
    exact hello.parsed_eq_empty_iff.mp empty
  · intro blank malformed
    rcases framed_or_rejected data with ⟨frame, trailing, rfl⟩ | rejected
    · obtain ⟨records, leftover, block, noRecord⟩ :=
        exists_records frame.block
      have broken : leftover ≠ [] := by
        rintro rfl
        rw [List.append_nil] at block
        exact malformed (wellFormed_of_records frame trailing block)
      let hello : BrokenHello :=
        ⟨frame, records, leftover, block, noRecord, broken⟩
      rw [parseServerHello_records frame trailing block noRecord,
        Except.ok.injEq]
      exact hello.parsed_eq_empty_iff.mpr (blank hello trailing rfl)
    · exact rejected

/-- The block holds a record of renegotiation info and three bytes of the next
record. -/
def truncatedHello : BrokenHello where
  frame :=
    { legacyVersion := 0x0303
      random := List.replicate 32 0xab
      sessionId := []
      cipherId := 0xc02f
      compression := 0
      random_length := List.length_replicate
      sessionId_length := Nat.zero_le _
      block := [0xff, 0x01, 0x00, 0x01, 0x00, 0x00, 0x17, 0x00]
      block_length := by decide }
  records := [⟨0xff01, [0x00]⟩]
  leftover := [0x00, 0x17, 0x00]
  block := by decide
  noRecord := trivial
  leftover_ne := List.cons_ne_nil _ _

theorem truncatedHello_kept :
    ¬ ∀ data, ¬ WellFormed data → parseServerHello data = .ok {} := by
  intro rejected
  have empty := rejected _ (truncatedHello.not_wellFormed [])
  rw [parseServerHello_records _ _ truncatedHello.block
    truncatedHello.noRecord, Except.ok.injEq] at empty
  obtain ⟨version, _⟩ := truncatedHello.parsed_eq_empty_iff.mp empty
  exact absurd version (by decide)

/-! Bodies without an extension block. -/

/-- A body that ends behind the compression byte is rejected, whatever it says. -/
theorem parseServerHello_fields (hello : HelloFields) :
    parseServerHello hello.encode = .ok {} := by
  unfold parseServerHello
  split
  · rfl
  · have givesUp : Reader.GivesUp takeFixedPart hello.encode
        (hello.encode ++ []) := by
      rw [takeFixedPart_eq]
      apply (takeFields_encode hello hello.encode []).givesUp
      exact Reader.GivesUp.bind _ (Reader.takeU16_givesUp Nat.two_pos)
    rw [List.append_nil] at givesUp
    rw [givesUp _ (at_start hello.encode)]

end ServicePortScanner.Fp
