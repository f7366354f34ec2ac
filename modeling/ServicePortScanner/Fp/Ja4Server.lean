import Mathlib.Data.List.Basic
import ServicePortScanner.Data.ByteReader

namespace ServicePortScanner.Fp

open ServicePortScanner.Data

/-! JA4S: the ServerHello body parser and the fingerprint built from it. -/

structure Ja4SInput where
  overQuic : Bool := false
  legacyVersion : UInt16 := 0
  negotiatedVersion : UInt16 := 0
  cipherId : UInt16 := 0
  extensionTypes : List UInt16 := []
  alpn : Bytes := []
  deriving DecidableEq, Repr

def versionTag (v : UInt16) : Bytes :=
  match v with
  | 0x0304 => bytes "13"
  | 0x0303 => bytes "12"
  | 0x0302 => bytes "11"
  | 0x0301 => bytes "10"
  | 0x0300 => bytes "s3"
  | _ => bytes "00"

/-- First and last byte of the negotiated protocol, `0X` for a single one. -/
def alpnTag (a : Bytes) : Bytes :=
  match a with
  | [] => bytes "00"
  | [only] => bytes "0" ++ [only]
  | front :: second :: rest =>
      [front] ++ [(second :: rest).getLast (List.cons_ne_nil second rest)]

def isGrease (v : UInt16) : Bool :=
  let hi := (v >>> 8).toUInt8
  let lo := (v &&& 0xff).toUInt8
  hi == lo && (lo &&& 0x0f) == 0x0a

/-- `snprintf` with `%02zu`, capped at 99. -/
def twoDigits (n : Nat) : Bytes :=
  let capped := min n 99
  if capped < 10 then bytes "0" ++ decimal capped else decimal capped

def hexDigit (n : Nat) : UInt8 :=
  (Nat.digitChar n).toUInt8

/-- `snprintf` with `%04x`. -/
def fourHex (v : UInt16) : Bytes :=
  [hexDigit (v.toNat / 4096), hexDigit (v.toNat / 256 % 16),
    hexDigit (v.toNat / 16 % 16), hexDigit (v.toNat % 16)]

/-- The fixed part in front of the extension block, and that block's length. -/
def takeFixedPart : Reader (Ja4SInput × UInt16) := do
  let legacyVersion ← Reader.takeU16
  Reader.skip 32
  let sidLen ← Reader.takeU8
  Reader.skip sidLen.toNat
  let cipherId ← Reader.takeU16
  let _compression ← Reader.takeU8
  let extTotal ← Reader.takeU16
  if (← Reader.remaining) < extTotal.toNat then Reader.giveUp
  else
    return ({ legacyVersion := legacyVersion, cipherId := cipherId }, extTotal)

/-- What one extension record adds to the input. -/
def recordExtension (buffer : Bytes) (bodyAt : Nat) (et el : UInt16)
    (input : Ja4SInput) : Except Fault Ja4SInput := do
  let input :=
    if isGrease et then input
    else { input with extensionTypes := input.extensionTypes ++ [et] }
  -- supported_versions in a ServerHello has a two-byte body
  if et == 0x002b && el == 2 then
    let version ← readU16 buffer bodyAt
    return { input with negotiatedVersion := version }
  else
    return input

/-- The `while (off + 4 <= ext_total)` loop over the block that starts at `p`. -/
def extensionLoop (buffer : Bytes) (p extTotal off : Nat) (input : Ja4SInput) :
    Except Fault Ja4SInput :=
  if off + 4 ≤ extTotal then do
    let et ← readU16 buffer (p + off)
    let el ← readU16 buffer (p + off + 2)
    if off + 4 + el.toNat > extTotal then
      return input
    let input ← recordExtension buffer (p + off + 4) et el input
    extensionLoop buffer p extTotal (off + 4 + el.toNat) input
  else
    return input
termination_by extTotal - off

/-- `parse_server_hello` on a buffer of `data.length` bytes; a null pointer is
the empty buffer.  `return {}` is the default input. -/
def parseServerHello (data : Bytes) : Except Fault Ja4SInput :=
  if data.length < 40 then
    .ok {}
  else
    match takeFixedPart data ⟨0, data.length⟩ with
    | .error fault => .error fault
    | .ok none => .ok {}
    | .ok (some ((input, extTotal), cursor)) =>
        extensionLoop data cursor.pos extTotal.toNat 0 input

/-! The fixed part once more, cut where the extension block begins. -/

def takeFields : Reader (UInt16 × UInt16) := do
  let legacyVersion ← Reader.takeU16
  Reader.skip 32
  let sidLen ← Reader.takeU8
  Reader.skip sidLen.toNat
  let cipherId ← Reader.takeU16
  let _compression ← Reader.takeU8
  return (legacyVersion, cipherId)

def takeBlockLength (fields : UInt16 × UInt16) :
    Reader (Ja4SInput × UInt16) := do
  let extTotal ← Reader.takeU16
  if (← Reader.remaining) < extTotal.toNat then Reader.giveUp
  else
    return ({ legacyVersion := fields.1, cipherId := fields.2 }, extTotal)

theorem takeFixedPart_eq : takeFixedPart = takeFields >>= takeBlockLength := by
  unfold takeFixedPart takeFields
  simp only [Reader.bind_assoc, Reader.pure_bind]
  rfl

section Fingerprint

variable (sha256Hex : Bytes → Bytes)

def joinTypes (types : List UInt16) : Bytes :=
  List.intercalate (bytes ",") (types.map fourHex)

def computeJa4s (input : Ja4SInput) : Bytes :=
  let v := if input.negotiatedVersion != 0 then input.negotiatedVersion
    else input.legacyVersion
  let proto := if input.overQuic then bytes "q" else bytes "t"
  let extJoined := joinTypes input.extensionTypes
  let extHash := if extJoined.isEmpty then bytes "000000000000"
    else (sha256Hex extJoined).take 12
  proto ++ versionTag v ++ twoDigits input.extensionTypes.length ++
    alpnTag input.alpn ++ bytes "_" ++ fourHex input.cipherId ++ bytes "_" ++
    extHash

/-- The version that a fingerprint over TCP shows. -/
def Ja4SInput.shownVersion (input : Ja4SInput) : UInt16 :=
  if input.negotiatedVersion != 0 then input.negotiatedVersion
  else input.legacyVersion

theorem computeJa4s_version (input : Ja4SInput)
    (overTcp : input.overQuic = false) :
    bytes "t" ++ versionTag input.shownVersion <+:
      computeJa4s sha256Hex input := by
  unfold computeJa4s Ja4SInput.shownVersion
  simp only [overTcp, List.append_assoc]
  apply (List.prefix_append_right_inj _).mpr
  exact List.prefix_append _ _

end Fingerprint

/-! No byte outside the buffer is read, whatever the buffer holds. -/

theorem takeFixedPart_safe (buffer : Bytes) :
    Reader.Safe takeFixedPart buffer fun result cursor =>
      result.2.toNat ≤ cursor.len := by
  unfold takeFixedPart
  refine (Reader.takeU16_safe buffer).bind fun legacyVersion => ?_
  refine (Reader.skip_safe buffer 32).bind fun _ => ?_
  refine (Reader.takeU8_safe buffer).bind fun sidLen => ?_
  refine (Reader.skip_safe buffer sidLen.toNat).bind fun _ => ?_
  refine (Reader.takeU16_safe buffer).bind fun cipherId => ?_
  refine (Reader.takeU8_safe buffer).bind fun _ => ?_
  refine (Reader.takeU16_safe buffer).bind fun extTotal => ?_
  intro cursor inside
  by_cases room : cursor.len < extTotal.toNat
  · exact .inl (by
      simp [Bind.bind, Reader.bind, Reader.remaining, room, Reader.giveUp])
  · refine .inr ⟨({ legacyVersion := legacyVersion, cipherId := cipherId },
      extTotal), cursor, ?_, inside, Nat.le_of_not_lt room⟩
    simp only [Bind.bind, Reader.bind, Reader.remaining]
    rw [if_neg room]
    rfl

theorem recordExtension_total {buffer : Bytes} {bodyAt : Nat} {et el : UInt16}
    (input : Ja4SInput) (inside : bodyAt + el.toNat ≤ buffer.length) :
    ∃ result, recordExtension buffer bodyAt et el input = .ok result := by
  unfold recordExtension
  dsimp only
  by_cases versions : (et == 0x002b && el == 2) = true
  · rw [if_pos versions]
    rw [Bool.and_eq_true, beq_iff_eq, beq_iff_eq] at versions
    rw [versions.2] at inside
    have two : (2 : UInt16).toNat = 2 := rfl
    have inBody : bodyAt + 1 < buffer.length := by omega
    obtain ⟨version, read⟩ := readU16_inside inBody
    rw [read]
    exact ⟨_, rfl⟩
  · rw [if_neg versions]
    exact ⟨_, rfl⟩

/-- One turn of the loop: where the next one starts, or none where the loop is
left. -/
def extensionTurn (buffer : Bytes) (p extTotal off : Nat) (input : Ja4SInput) :
    Except Fault (Option (Nat × Ja4SInput)) :=
  if off + 4 ≤ extTotal then do
    let et ← readU16 buffer (p + off)
    let el ← readU16 buffer (p + off + 2)
    if off + 4 + el.toNat > extTotal then
      return none
    let input ← recordExtension buffer (p + off + 4) et el input
    return some (off + 4 + el.toNat, input)
  else
    return none

section

variable {buffer : Bytes} {p extTotal : Nat}

/-- The loop is its turns, one after the other. -/
theorem extensionLoop_eq (off : Nat) (input : Ja4SInput) :
    extensionLoop buffer p extTotal off input =
      (extensionTurn buffer p extTotal off input).bind fun next =>
        next.elim (.ok input) fun next =>
          extensionLoop buffer p extTotal next.1 next.2 := by
  rw [extensionLoop, extensionTurn]
  split
  · cases readU16 buffer (p + off) with
    | error fault => rfl
    | ok et =>
        cases readU16 buffer (p + off + 2) with
        | error fault => rfl
        | ok el =>
            simp only [Bind.bind, Except.bind]
            split
            · rfl
            · cases recordExtension buffer (p + off + 4) et el input with
              | error fault => rfl
              | ok input' => rfl
  · rfl

/-- A turn inside the buffer has no fault; it goes on at least four bytes later
and not behind the block. -/
theorem extensionTurn_spec (off : Nat) (input : Ja4SInput)
    (inside : p + extTotal ≤ buffer.length) :
    extensionTurn buffer p extTotal off input = .ok none ∨
    ∃ off' input',
      extensionTurn buffer p extTotal off input = .ok (some (off', input')) ∧
      off + 4 ≤ off' ∧ off' ≤ extTotal := by
  unfold extensionTurn
  split
  · next header =>
      have typeInside : p + off + 1 < buffer.length := by omega
      have lengthInside : p + off + 2 + 1 < buffer.length := by omega
      obtain ⟨et, readType⟩ := readU16_inside typeInside
      obtain ⟨el, readLength⟩ := readU16_inside lengthInside
      simp only [readType, readLength, Bind.bind, Except.bind]
      split
      · exact .inl rfl
      · next whole =>
          have bodyInside : p + off + 4 + el.toNat ≤ buffer.length := by omega
          have record : ∃ input', recordExtension buffer (p + off + 4) et el
              input = .ok input' := recordExtension_total input bodyInside
          obtain ⟨input', recorded⟩ := record
          rw [recorded]
          exact .inr ⟨off + 4 + el.toNat, input', rfl, Nat.le_add_right _ _,
            Nat.le_of_not_lt whole⟩
  · exact .inl rfl

theorem extensionLoop_total (off : Nat) (input : Ja4SInput)
    (inside : p + extTotal ≤ buffer.length) :
    ∃ result, extensionLoop buffer p extTotal off input = .ok result := by
  rw [extensionLoop_eq]
  rcases extensionTurn_spec off input inside with
    left | ⟨off', input', went, grows, bounded⟩
  · rw [left]
    exact ⟨input, rfl⟩
  · rw [went]
    exact extensionLoop_total off' input' inside
termination_by extTotal - off

end

/-- The parser reads inside its buffer only. -/
theorem parseServerHello_total (data : Bytes) :
    ∃ input, parseServerHello data = .ok input := by
  unfold parseServerHello
  split
  · exact ⟨_, rfl⟩
  · rcases takeFixedPart_safe data ⟨0, data.length⟩ (Nat.zero_add _) with
      gaveUp | ⟨⟨input, extTotal⟩, cursor, read, inside, room⟩
    · exact ⟨_, by rw [gaveUp]⟩
    · rw [read]
      unfold Reader.Inside at inside
      exact extensionLoop_total 0 input (by dsimp only at room; omega)

/-! The ServerHello message on the wire. -/

structure Extension where
  type : UInt16
  body : Bytes
  deriving DecidableEq, Repr

namespace Extension

def encode (extension : Extension) : Bytes :=
  putU16 extension.type ++
    (putU16 (UInt16.ofNat extension.body.length) ++ extension.body)

/-- The version a supported_versions extension with a two-byte body selects. -/
def selectedVersion? (extension : Extension) : Option UInt16 :=
  match extension.body with
  | [hi, lo] => if extension.type = 0x002b then some (u16 hi lo) else none
  | _ => none

end Extension

def encodeExtensions (extensions : List Extension) : Bytes :=
  extensions.flatMap Extension.encode

/-- A ServerHello body whose parts have the lengths their wire fields allow. -/
structure ServerHello where
  legacyVersion : UInt16
  random : Bytes
  sessionId : Bytes
  cipherId : UInt16
  compression : UInt8
  extensions : List Extension
  random_length : random.length = 32
  sessionId_length : sessionId.length ≤ 255
  extensions_length : (encodeExtensions extensions).length ≤ 65535

namespace ServerHello

def fixedPart (hello : ServerHello) : Bytes :=
  putU16 hello.legacyVersion ++ (hello.random ++
    ([UInt8.ofNat hello.sessionId.length] ++ (hello.sessionId ++
      (putU16 hello.cipherId ++ ([hello.compression] ++
        putU16 (UInt16.ofNat (encodeExtensions hello.extensions).length))))))

def encode (hello : ServerHello) : Bytes :=
  hello.fixedPart ++ encodeExtensions hello.extensions

def selectedVersion (extensions : List Extension) : UInt16 :=
  (extensions.filterMap Extension.selectedVersion?).getLast?.getD 0

end ServerHello

/-- What stands in front of the extension block of a body, without the length
of that block. -/
structure HelloFields where
  legacyVersion : UInt16
  random : Bytes
  sessionId : Bytes
  cipherId : UInt16
  compression : UInt8
  random_length : random.length = 32
  sessionId_length : sessionId.length ≤ 255

def HelloFields.encode (hello : HelloFields) : Bytes :=
  putU16 hello.legacyVersion ++ (hello.random ++
    ([UInt8.ofNat hello.sessionId.length] ++ (hello.sessionId ++
      (putU16 hello.cipherId ++ [hello.compression]))))

/-- A body with an extension block of any content. -/
structure HelloFrame extends HelloFields where
  block : Bytes
  block_length : block.length ≤ 65535

def HelloFrame.fixedPart (frame : HelloFrame) : Bytes :=
  frame.toHelloFields.encode ++ putU16 (UInt16.ofNat frame.block.length)

def HelloFrame.encode (frame : HelloFrame) : Bytes :=
  frame.fixedPart ++ frame.block

def ServerHello.frame (hello : ServerHello) : HelloFrame where
  legacyVersion := hello.legacyVersion
  random := hello.random
  sessionId := hello.sessionId
  cipherId := hello.cipherId
  compression := hello.compression
  random_length := hello.random_length
  sessionId_length := hello.sessionId_length
  block := encodeExtensions hello.extensions
  block_length := hello.extensions_length

theorem ServerHello.fixedPart_frame (hello : ServerHello) :
    hello.frame.fixedPart = hello.fixedPart := by
  simp [HelloFrame.fixedPart, HelloFields.encode, ServerHello.frame,
    ServerHello.fixedPart]

theorem ServerHello.encode_frame (hello : ServerHello) :
    hello.frame.encode = hello.encode := by
  rw [HelloFrame.encode, ServerHello.encode, hello.fixedPart_frame]
  rfl

/-- The sixteen reserved extension types 0x0A0A, 0x1A1A, ..., 0xFAFA. -/
def greaseTypes : List UInt16 :=
  (List.range 16).map fun k => UInt16.ofNat ((16 * k + 10) * 257)

theorem isGrease_iff_toNat (v : UInt16) :
    isGrease v = true ↔
      v.toNat / 256 = v.toNat % 256 ∧ v.toNat % 16 = 10 := by
  have bound := v.toNat_lt
  have hi : (v >>> 8).toUInt8.toNat = v.toNat / 256 := by
    simp only [UInt16.toNat_toUInt8, UInt16.toNat_shiftRight]
    change v.toNat >>> 8 % 256 = _
    rw [Nat.shiftRight_eq_div_pow]
    omega
  have lo : (v &&& 0xff).toUInt8.toNat = v.toNat % 256 := by
    simp only [UInt16.toNat_toUInt8, UInt16.toNat_and]
    change (v.toNat &&& (2 ^ 8 - 1)) % 256 = _
    rw [Nat.and_two_pow_sub_one_eq_mod]
    omega
  have nibble : ((v &&& 0xff).toUInt8 &&& 0x0f).toNat = v.toNat % 16 := by
    rw [UInt8.toNat_and, lo]
    change v.toNat % 256 &&& (2 ^ 4 - 1) = _
    rw [Nat.and_two_pow_sub_one_eq_mod]
    omega
  simp only [isGrease, Bool.and_eq_true, beq_iff_eq, ← UInt8.toNat_inj, hi, lo,
    nibble]
  rfl

/-- The parser's bit test selects exactly the reserved types. -/
theorem isGrease_iff_mem (v : UInt16) :
    isGrease v = true ↔ v ∈ greaseTypes := by
  rw [isGrease_iff_toNat]
  simp only [greaseTypes, List.mem_map, List.mem_range]
  constructor
  · rintro ⟨repeated, nibble⟩
    have bound := v.toNat_lt
    refine ⟨v.toNat % 256 / 16, by omega, ?_⟩
    apply UInt16.toNat_inj.mp
    rw [UInt16.toNat_ofNat']
    omega
  · rintro ⟨k, small, rfl⟩
    rw [UInt16.toNat_ofNat', Nat.mod_eq_of_lt (by omega)]
    omega

/-! The parser on the wire form of a message. -/

theorem length_encodeExtensions_cons (extension : Extension)
    (rest : List Extension) :
    (encodeExtensions (extension :: rest)).length =
      4 + extension.body.length + (encodeExtensions rest).length := by
  simp [encodeExtensions, Extension.encode]
  omega

/-- What one loop iteration adds to the input for a whole extension. -/
def Extension.addTo (extension : Extension) (input : Ja4SInput) : Ja4SInput :=
  { input with
    extensionTypes := input.extensionTypes ++
      if isGrease extension.type then [] else [extension.type]
    negotiatedVersion :=
      extension.selectedVersion?.getD input.negotiatedVersion }

theorem recordExtension_eq {buffer rest : Bytes} {bodyAt : Nat}
    {extension : Extension} {input : Ja4SInput}
    (small : extension.body.length ≤ 65535)
    (suffix : buffer.drop bodyAt = extension.body ++ rest) :
    recordExtension buffer bodyAt extension.type
        (UInt16.ofNat extension.body.length) input =
      .ok (extension.addTo input) := by
  have types : (if isGrease extension.type then input
      else { input with
        extensionTypes := input.extensionTypes ++ [extension.type] }) =
      { input with
        extensionTypes := input.extensionTypes ++
          if isGrease extension.type then [] else [extension.type] } := by
    split <;> simp
  have lengthTwo : UInt16.ofNat extension.body.length = 2 ↔
      extension.body.length = 2 := by
    rw [← UInt16.toNat_inj, UInt16.toNat_ofNat', Nat.mod_eq_of_lt (by omega)]
    rfl
  unfold recordExtension
  simp only [types]
  by_cases selected :
      extension.type = 0x002b ∧ extension.body.length = 2
  · obtain ⟨isVersions, two⟩ := selected
    obtain ⟨hi, lo, body⟩ := List.length_eq_two.mp two
    rw [body] at suffix
    have read : readU16 buffer bodyAt = .ok (u16 hi lo) := by
      have first := Reader.readByte_of_drop suffix
      have second := Reader.readByte_of_drop (Reader.drop_succ_of_drop suffix)
      simp [readU16, first, second, Bind.bind, Except.bind, Pure.pure,
        Except.pure]
    simp [Extension.addTo, Extension.selectedVersion?, isVersions, body, read,
      Bind.bind, Except.bind, Pure.pure, Except.pure]
  · have guard : (extension.type == 0x002b &&
        UInt16.ofNat extension.body.length == 2) = false := by
      simpa [lengthTwo] using selected
    have none : extension.selectedVersion? = none := by
      unfold Extension.selectedVersion?
      split
      · next hi lo body =>
          rw [if_neg]
          intro isVersions
          exact selected ⟨isVersions, by rw [body]; rfl⟩
      · rfl
    simp [guard, Extension.addTo, none, Pure.pure, Except.pure]

/-- No whole record stands at the front. -/
def HasNoRecord : Bytes → Prop
  | _ :: _ :: hi :: lo :: body => body.length < (u16 hi lo).toNat
  | _ => True

theorem exists_header (block : Bytes) (long : 4 ≤ block.length) :
    ∃ first second hi lo body,
      block = first :: second :: hi :: lo :: body := by
  obtain ⟨first, block, rfl⟩ :=
    List.exists_cons_of_length_pos (Nat.lt_of_lt_of_le (by decide) long)
  obtain ⟨second, block, rfl⟩ := List.exists_cons_of_length_pos
    (Nat.lt_of_lt_of_le (by decide) (Nat.le_of_succ_le_succ long))
  rw [List.length_cons, List.length_cons] at long
  obtain ⟨hi, block, rfl⟩ :=
    List.exists_cons_of_length_pos (l := block) (by omega)
  rw [List.length_cons] at long
  obtain ⟨lo, block, rfl⟩ :=
    List.exists_cons_of_length_pos (l := block) (by omega)
  exact ⟨first, second, hi, lo, block, rfl⟩

theorem extensionLoop_noRecord {buffer leftover rest : Bytes}
    {p off extTotal : Nat} (input : Ja4SInput)
    (noRecord : HasNoRecord leftover)
    (suffix : buffer.drop (p + off) = leftover ++ rest)
    (total : off + leftover.length = extTotal) :
    extensionLoop buffer p extTotal off input = .ok input := by
  rw [extensionLoop]
  split
  · next header =>
      obtain ⟨first, second, hi, lo, body, rfl⟩ :=
        exists_header leftover (by omega)
      have type : readU16 buffer (p + off) = .ok (u16 first second) := by
        apply readU16_of_drop
        rw [suffix, putU16_u16]
        rfl
      have afterType := congrArg (List.drop 2) suffix
      rw [List.drop_drop] at afterType
      have length : readU16 buffer (p + off + 2) = .ok (u16 hi lo) := by
        apply readU16_of_drop
        rw [afterType, putU16_u16]
        rfl
      have beyond : off + 4 + (u16 hi lo).toNat > extTotal := by
        simp only [HasNoRecord, List.length_cons] at noRecord total
        omega
      simp only [type, length, Bind.bind, Except.bind]
      rw [if_pos beyond]
      rfl
  · rfl

/-- The loop at an offset in front of a run of whole extensions adds each of
them in turn and stops behind the last. -/
theorem extensionLoop_records {buffer leftover rest : Bytes}
    {p off extTotal : Nat} (input : Ja4SInput) (extensions : List Extension)
    (noRecord : HasNoRecord leftover)
    (small : (encodeExtensions extensions).length ≤ 65535)
    (suffix : buffer.drop (p + off) =
      encodeExtensions extensions ++ (leftover ++ rest))
    (total : off + (encodeExtensions extensions ++ leftover).length =
      extTotal) :
    extensionLoop buffer p extTotal off input =
      .ok (extensions.foldl (fun acc extension => extension.addTo acc) input) := by
  induction extensions generalizing off input with
  | nil => exact extensionLoop_noRecord input noRecord suffix total
  | cons extension extensions induction =>
      rw [List.length_append, length_encodeExtensions_cons] at total
      rw [length_encodeExtensions_cons] at small
      have split : encodeExtensions (extension :: extensions) ++
            (leftover ++ rest) =
          putU16 extension.type ++
            (putU16 (UInt16.ofNat extension.body.length) ++
              (extension.body ++
                (encodeExtensions extensions ++ (leftover ++ rest)))) := by
        simp [encodeExtensions, Extension.encode]
      rw [split] at suffix
      have afterType := congrArg (List.drop 2) suffix
      rw [List.drop_drop, List.drop_left' (length_putU16 _)] at afterType
      have afterLength := congrArg (List.drop 2) afterType
      rw [List.drop_drop, List.drop_left' (length_putU16 _)] at afterLength
      have afterBody := congrArg (List.drop extension.body.length) afterLength
      rw [List.drop_drop, List.drop_left] at afterBody
      have bodyLength :
          (UInt16.ofNat extension.body.length).toNat = extension.body.length := by
        rw [UInt16.toNat_ofNat', Nat.mod_eq_of_lt (by omega)]
      rw [extensionLoop, if_pos (by omega)]
      simp only [readU16_of_drop suffix, readU16_of_drop afterType, bodyLength,
        Bind.bind, Except.bind]
      rw [if_neg (by omega), recordExtension_eq (by omega) afterLength]
      have next : p + off + 2 + 2 + extension.body.length =
          p + (off + 4 + extension.body.length) := by omega
      rw [next] at afterBody
      refine induction _ (by omega) afterBody ?_
      rw [List.length_append]
      omega

/-! What the extensions of a message contribute altogether. -/

theorem extensionTypes_foldl (extensions : List Extension) (input : Ja4SInput) :
    (extensions.foldl (fun acc extension => extension.addTo acc)
        input).extensionTypes =
      input.extensionTypes ++
        (extensions.map Extension.type).filter fun type => !isGrease type := by
  induction extensions generalizing input with
  | nil => simp
  | cons extension extensions induction =>
      rw [List.foldl_cons, induction]
      by_cases grease : isGrease extension.type <;>
        simp [Extension.addTo, grease]

theorem negotiatedVersion_foldl (extensions : List Extension)
    (input : Ja4SInput) :
    (extensions.foldl (fun acc extension => extension.addTo acc)
        input).negotiatedVersion =
      (extensions.filterMap Extension.selectedVersion?).getLast?.getD
        input.negotiatedVersion := by
  induction extensions generalizing input with
  | nil => rfl
  | cons extension extensions induction =>
      rw [List.foldl_cons, induction]
      cases selected : extension.selectedVersion? with
      | none => simp [Extension.addTo, selected]
      | some version =>
          simp [Extension.addTo, selected, List.getLast?_cons]

theorem untouched_foldl (extensions : List Extension) (input : Ja4SInput) :
    extensions.foldl (fun acc extension => extension.addTo acc) input =
      { input with
        extensionTypes := (extensions.foldl
          (fun acc extension => extension.addTo acc) input).extensionTypes
        negotiatedVersion := (extensions.foldl
          (fun acc extension => extension.addTo acc) input).negotiatedVersion } := by
  induction extensions generalizing input with
  | nil => rfl
  | cons extension extensions induction =>
      rw [List.foldl_cons]
      exact induction (extension.addTo input)

/-! The fixed part of a message, and the whole parser. -/

theorem HelloFrame.block_length_toNat (frame : HelloFrame) :
    (UInt16.ofNat frame.block.length).toNat = frame.block.length := by
  have bound := frame.block_length
  rw [UInt16.toNat_ofNat', Nat.mod_eq_of_lt (by omega)]

theorem HelloFields.sessionId_length_toNat (hello : HelloFields) :
    (UInt8.ofNat hello.sessionId.length).toNat = hello.sessionId.length := by
  have bound := hello.sessionId_length
  rw [UInt8.toNat_ofNat', Nat.mod_eq_of_lt (by omega)]

theorem takeFields_encode (hello : HelloFields) (buffer rest : Bytes) :
    Reader.Yields takeFields buffer hello.encode rest
      (hello.legacyVersion, hello.cipherId) := by
  rw [HelloFields.encode, ← List.append_nil [hello.compression]]
  unfold takeFields
  apply Reader.Yields.bind (Reader.takeU16_yields _ _ _)
  apply Reader.Yields.bind
  · have skipped := Reader.skip_yields buffer hello.random
    rw [hello.random_length] at skipped
    exact skipped _
  apply Reader.Yields.bind (Reader.takeU8_yields _ _ _)
  apply Reader.Yields.bind
  · rw [hello.sessionId_length_toNat]
    exact Reader.skip_yields _ _ _
  apply Reader.Yields.bind (Reader.takeU16_yields _ _ _)
  apply Reader.Yields.bind (Reader.takeU8_yields _ _ _)
  exact Reader.Yields.pure _ _ _

theorem takeFixedPart_frame (frame : HelloFrame) (buffer trailing : Bytes) :
    Reader.Yields takeFixedPart buffer frame.fixedPart
      (frame.block ++ trailing)
      ({ legacyVersion := frame.legacyVersion, cipherId := frame.cipherId },
        UInt16.ofNat frame.block.length) := by
  rw [takeFixedPart_eq, HelloFrame.fixedPart,
    ← List.append_nil (putU16 (UInt16.ofNat _))]
  apply Reader.Yields.bind (takeFields_encode _ _ _)
  apply Reader.Yields.bind (Reader.takeU16_yields _ _ _)
  -- the block length passes the check against what is left
  intro cursor located
  refine ⟨cursor, ?_, located⟩
  have room : ¬ cursor.len < (UInt16.ofNat frame.block.length).toNat := by
    rw [frame.block_length_toNat, located.length]
    simp
  simp only [Bind.bind, Reader.bind, Reader.remaining]
  rw [if_neg room]
  rfl

theorem HelloFrame.length_encode (frame : HelloFrame) :
    frame.encode.length = 40 + frame.sessionId.length + frame.block.length := by
  simp only [HelloFrame.encode, HelloFrame.fixedPart, HelloFields.encode,
    List.length_append, length_putU16, frame.random_length,
    List.length_singleton]
  omega

theorem HelloFrame.atStart (frame : HelloFrame) (trailing : Bytes) :
    Cursor.At (frame.encode ++ trailing)
      ⟨0, (frame.encode ++ trailing).length⟩
      (frame.fixedPart ++ (frame.block ++ trailing)) where
  suffix := List.append_assoc _ _ _
  length := by simp [HelloFrame.encode]

/-- On a framed body the parser comes to its loop, in front of the block. -/
theorem parseServerHello_frame (frame : HelloFrame) (trailing : Bytes) :
    ∃ p, (frame.encode ++ trailing).drop p = frame.block ++ trailing ∧
      parseServerHello (frame.encode ++ trailing) =
        extensionLoop (frame.encode ++ trailing) p frame.block.length 0
          { legacyVersion := frame.legacyVersion
            cipherId := frame.cipherId } := by
  have long : ¬ (frame.encode ++ trailing).length < 40 := by
    rw [List.length_append, frame.length_encode]
    omega
  obtain ⟨cursor, fixedPart, located⟩ :=
    takeFixedPart_frame frame _ trailing _ (frame.atStart trailing)
  refine ⟨cursor.pos, located.suffix, ?_⟩
  rw [parseServerHello, if_neg long, fixedPart]
  simp only [frame.block_length_toNat]

/-- On a framed body the parser takes the whole records of the block and stops
at what is left of it. -/
theorem parseServerHello_records (frame : HelloFrame) (trailing : Bytes)
    {extensions : List Extension} {leftover : Bytes}
    (block : frame.block = encodeExtensions extensions ++ leftover)
    (noRecord : HasNoRecord leftover) :
    parseServerHello (frame.encode ++ trailing) =
      .ok (extensions.foldl (fun acc extension => extension.addTo acc)
        { legacyVersion := frame.legacyVersion, cipherId := frame.cipherId }) := by
  obtain ⟨p, suffix, parsed⟩ := parseServerHello_frame frame trailing
  have bound := frame.block_length
  rw [block, List.length_append] at bound
  rw [block, List.append_assoc] at suffix
  rw [parsed, block]
  exact extensionLoop_records _ extensions noRecord (by omega) suffix
    (Nat.zero_add _)

/-- Parsing the wire form of a ServerHello body, whatever follows it, gives back
its versions, its cipher and its extension types without the reserved ones. -/
theorem parseServerHello_encode (hello : ServerHello) (trailing : Bytes) :
    parseServerHello (hello.encode ++ trailing) = .ok
      { overQuic := false
        legacyVersion := hello.legacyVersion
        negotiatedVersion := ServerHello.selectedVersion hello.extensions
        cipherId := hello.cipherId
        extensionTypes := (hello.extensions.map Extension.type).filter
          fun type => type ∉ greaseTypes
        alpn := [] } := by
  have parsed := parseServerHello_records hello.frame trailing
    (List.append_nil _).symm trivial
  rw [hello.encode_frame] at parsed
  have types : (fun type : UInt16 => !isGrease type) =
      fun type => decide (type ∉ greaseTypes) := by
    funext type
    rw [Bool.eq_iff_iff]
    simp [← isGrease_iff_mem]
  rw [parsed, untouched_foldl, extensionTypes_foldl, negotiatedVersion_foldl,
    types]
  rfl

end ServicePortScanner.Fp
