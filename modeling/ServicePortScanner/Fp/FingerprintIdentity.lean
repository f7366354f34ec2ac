import ServicePortScanner.Data.Joined
import ServicePortScanner.Fp.Ja4Server
import ServicePortScanner.Fp.Ja4X509

namespace ServicePortScanner.Fp

open ServicePortScanner.Data

/-! What a fingerprint tells about the input that it was computed from. -/

def IsLowerHex (b : UInt8) : Prop :=
  IsDigit b ∨ 0x61 ≤ b ∧ b ≤ 0x66

instance (b : UInt8) : Decidable (IsLowerHex b) :=
  inferInstanceAs (Decidable (_ ∨ _))

def hexDigitValue (b : UInt8) : Nat :=
  if IsDigit b then b.toNat - 48 else b.toNat - 87

def hexValue (text : Bytes) : Nat :=
  text.foldl (fun n b => n * 16 + hexDigitValue b) 0

/-- What is assumed of `sha256_hex`. -/
structure HexDigest (sha256Hex : Bytes → Bytes) : Prop where
  length : ∀ text, (sha256Hex text).length = 64
  lowerHex : ∀ text, ∀ b ∈ sha256Hex text, IsLowerHex b

/-! The parts of a fixed width. -/

theorem hexDigit_spec : ∀ n < 16,
    IsLowerHex (hexDigit n) ∧ hexDigitValue (hexDigit n) = n := by
  decide

theorem length_fourHex (v : UInt16) : (fourHex v).length = 4 := rfl

theorem isLowerHex_of_mem_fourHex {v : UInt16} {b : UInt8}
    (member : b ∈ fourHex v) : IsLowerHex b := by
  have bound := v.toNat_lt
  simp only [fourHex, List.mem_cons, List.not_mem_nil, or_false] at member
  rcases member with rfl | rfl | rfl | rfl
  · exact (hexDigit_spec _ (by omega)).1
  · exact (hexDigit_spec _ (by omega)).1
  · exact (hexDigit_spec _ (by omega)).1
  · exact (hexDigit_spec _ (by omega)).1

theorem hexValue_fourHex (v : UInt16) : hexValue (fourHex v) = v.toNat := by
  have bound := v.toNat_lt
  simp only [hexValue, fourHex, List.foldl_cons, List.foldl_nil]
  rw [(hexDigit_spec (v.toNat / 4096) (by omega)).2,
    (hexDigit_spec (v.toNat / 256 % 16) (by omega)).2,
    (hexDigit_spec (v.toNat / 16 % 16) (by omega)).2,
    (hexDigit_spec (v.toNat % 16) (by omega)).2]
  omega

theorem fourHex_inj {v w : UInt16} (same : fourHex v = fourHex w) : v = w := by
  apply UInt16.toNat_inj.mp
  rw [← hexValue_fourHex v, same, hexValue_fourHex]

theorem length_versionTag (v : UInt16) : (versionTag v).length = 2 := by
  unfold versionTag
  split <;> rfl

theorem length_alpnTag (a : Bytes) : (alpnTag a).length = 2 := by
  unfold alpnTag
  split <;> rfl

theorem length_decimal_of_two_digits {n : Nat} (large : 10 ≤ n) (small : n < 100) :
    (decimal n).length = 2 := by
  rw [decimal_of_le large, decimal_of_lt (by omega)]
  rfl

/-- The two digits of a count. -/
theorem twoDigits_spec (n : Nat) :
    (twoDigits n).length = 2 ∧ (∀ b ∈ twoDigits n, IsDigit b) ∧
      decimalValue (twoDigits n) = min n 99 := by
  unfold twoDigits
  dsimp only
  split
  next small =>
    refine ⟨?_, ?_, ?_⟩
    · rw [decimal_of_lt small]
      rfl
    · intro b member
      rcases List.mem_append.mp member with zero | digit
      · rw [List.mem_singleton.mp zero]
        decide
      · exact isDigit_of_mem_decimal digit
    · exact decimalValue_decimal (min n 99)
  next large =>
    exact ⟨length_decimal_of_two_digits (by omega) (by omega),
      fun b member => isDigit_of_mem_decimal member, decimalValue_decimal _⟩

/-! The hashed part. -/

section

variable {sha256Hex : Bytes → Bytes}

/-- The part of a fingerprint that stands for a joined text. -/
def codeOf (sha256Hex : Bytes → Bytes) (joined : Bytes) : Bytes :=
  if joined = [] then bytes "000000000000" else (sha256Hex joined).take 12

/-- Two texts that the hashed part cannot tell apart: different ones with the
same twelve characters, or none and one that is hashed to zeros. -/
def Confusable (sha256Hex : Bytes → Bytes) (first second : Bytes) : Prop :=
  (first ≠ [] ∧ second ≠ [] ∧ first ≠ second ∧
      (sha256Hex first).take 12 = (sha256Hex second).take 12) ∨
    (first ≠ [] ∧ second = [] ∧
      (sha256Hex first).take 12 = bytes "000000000000") ∨
    (first = [] ∧ second ≠ [] ∧
      (sha256Hex second).take 12 = bytes "000000000000")

theorem zeros_spec :
    (bytes "000000000000").length = 12 ∧
      ∀ b ∈ bytes "000000000000", IsLowerHex b :=
  ⟨rfl, by decide⟩

theorem HexDigest.take_spec (digest : HexDigest sha256Hex) (text : Bytes) :
    ((sha256Hex text).take 12).length = 12 ∧
      ∀ b ∈ (sha256Hex text).take 12, IsLowerHex b := by
  constructor
  · rw [List.length_take, digest.length]
    rfl
  · intro b member
    exact digest.lowerHex text b (List.mem_of_mem_take member)

theorem codeOf_spec (digest : HexDigest sha256Hex) (joined : Bytes) :
    (codeOf sha256Hex joined).length = 12 ∧
      ∀ b ∈ codeOf sha256Hex joined, IsLowerHex b := by
  unfold codeOf
  split
  · exact zeros_spec
  · exact digest.take_spec joined

theorem codeOf_binding {first second : Bytes}
    (same : codeOf sha256Hex first = codeOf sha256Hex second) :
    first = second ∨ Confusable sha256Hex first second := by
  unfold codeOf at same
  by_cases equal : first = second
  · exact .inl equal
  apply Or.inr
  by_cases firstEmpty : first = []
  · by_cases secondEmpty : second = []
    · exact absurd (firstEmpty.trans secondEmpty.symm) equal
    · rw [if_pos firstEmpty, if_neg secondEmpty] at same
      exact .inr (.inr ⟨firstEmpty, secondEmpty, same.symm⟩)
  · by_cases secondEmpty : second = []
    · rw [if_neg firstEmpty, if_pos secondEmpty] at same
      exact .inr (.inl ⟨firstEmpty, secondEmpty, same⟩)
    · rw [if_neg firstEmpty, if_neg secondEmpty] at same
      exact .inl ⟨firstEmpty, secondEmpty, equal, same⟩

end

/-! JA4S. -/

theorem separable_fourHex (v : UInt16) : Separable 0x2c (fourHex v) where
  nonempty := List.cons_ne_nil _ _
  avoids := by
    intro member
    exact absurd (isLowerHex_of_mem_fourHex member) (by decide)

theorem separable_of_mem_map {types : List UInt16} {text : Bytes}
    (member : text ∈ types.map fourHex) : Separable 0x2c text := by
  obtain ⟨v, _, rfl⟩ := List.mem_map.mp member
  exact separable_fourHex v

/-- The joined types are what the loop of `compute_ja4s` builds. -/
theorem joinTypes_eq_joinTexts (types : List UInt16) :
    joinTypes types = joinTexts (bytes ",") (types.map fourHex) := by
  rw [joinTexts_eq_intercalate fun text member =>
    (separable_of_mem_map member).nonempty]
  rfl

theorem joinTypes_inj {first second : List UInt16}
    (same : joinTypes first = joinTypes second) : first = second :=
  List.map_injective_iff.mpr (fun _ _ => fourHex_inj)
    (intercalate_inj (fun _ => separable_of_mem_map)
      (fun _ => separable_of_mem_map) same)

def protocolTag (overQuic : Bool) : Bytes :=
  if overQuic then bytes "q" else bytes "t"

theorem protocolTag_inj {first second : Bool}
    (same : protocolTag first = protocolTag second) : first = second := by
  revert first second
  decide

section

variable {sha256Hex : Bytes → Bytes}

theorem computeJa4s_eq (input : Ja4SInput) :
    computeJa4s sha256Hex input =
      protocolTag input.overQuic ++ versionTag input.shownVersion ++
        twoDigits input.extensionTypes.length ++ alpnTag input.alpn ++
        bytes "_" ++ fourHex input.cipherId ++ bytes "_" ++
        codeOf sha256Hex (joinTypes input.extensionTypes) := by
  unfold computeJa4s protocolTag Ja4SInput.shownVersion codeOf
  simp only [List.isEmpty_iff]

/-- The layout of a JA4S fingerprint: 25 bytes, each part at its place. -/
structure Ja4sShape (input : Ja4SInput) (text code : Bytes) : Prop where
  layout : text =
    protocolTag input.overQuic ++ versionTag input.shownVersion ++
      twoDigits input.extensionTypes.length ++ alpnTag input.alpn ++
      bytes "_" ++ fourHex input.cipherId ++ bytes "_" ++ code
  length : text.length = 25
  version : (versionTag input.shownVersion).length = 2
  count : (twoDigits input.extensionTypes.length).length = 2 ∧
    (∀ b ∈ twoDigits input.extensionTypes.length, IsDigit b) ∧
    decimalValue (twoDigits input.extensionTypes.length) =
      min input.extensionTypes.length 99
  alpn : (alpnTag input.alpn).length = 2
  cipher : (fourHex input.cipherId).length = 4 ∧
    (∀ b ∈ fourHex input.cipherId, IsLowerHex b) ∧
    hexValue (fourHex input.cipherId) = input.cipherId.toNat
  code : code.length = 12 ∧ ∀ b ∈ code, IsLowerHex b

theorem computeJa4s_shape (digest : HexDigest sha256Hex) (input : Ja4SInput) :
    Ja4sShape input (computeJa4s sha256Hex input)
      (codeOf sha256Hex (joinTypes input.extensionTypes)) where
  layout := computeJa4s_eq input
  length := by
    have protocol : (protocolTag input.overQuic).length = 1 := by
      cases input.overQuic with
      | false => rfl
      | true => rfl
    have count := (twoDigits_spec input.extensionTypes.length).1
    have code := (codeOf_spec digest (joinTypes input.extensionTypes)).1
    have underscore : (bytes "_").length = 1 := rfl
    rw [computeJa4s_eq]
    simp only [List.length_append, protocol, length_versionTag, count,
      length_alpnTag, underscore, length_fourHex, code]
  version := length_versionTag _
  count := twoDigits_spec _
  alpn := length_alpnTag _
  cipher := ⟨rfl, fun _ => isLowerHex_of_mem_fourHex, hexValue_fourHex _⟩
  code := codeOf_spec digest _

/-- The parts are cut off from the right, where every width is known. -/
theorem computeJa4s_binding (digest : HexDigest sha256Hex)
    {first second : Ja4SInput}
    (same : computeJa4s sha256Hex first = computeJa4s sha256Hex second) :
    first.overQuic = second.overQuic ∧
      versionTag first.shownVersion = versionTag second.shownVersion ∧
      alpnTag first.alpn = alpnTag second.alpn ∧
      first.cipherId = second.cipherId ∧
      (first.extensionTypes = second.extensionTypes ∨
        Confusable sha256Hex (joinTypes first.extensionTypes)
          (joinTypes second.extensionTypes)) := by
  have codes (joined : Bytes) := (codeOf_spec digest joined).1
  have counts (n : Nat) := (twoDigits_spec n).1
  rw [computeJa4s_eq, computeJa4s_eq] at same
  obtain ⟨same, code⟩ := List.append_inj' same ((codes _).trans (codes _).symm)
  obtain ⟨same, _⟩ := List.append_inj' same rfl
  obtain ⟨same, cipher⟩ := List.append_inj' same rfl
  obtain ⟨same, _⟩ := List.append_inj' same rfl
  obtain ⟨same, alpn⟩ := List.append_inj' same
    ((length_alpnTag _).trans (length_alpnTag _).symm)
  obtain ⟨same, _⟩ := List.append_inj' same ((counts _).trans (counts _).symm)
  obtain ⟨protocol, version⟩ := List.append_inj' same
    ((length_versionTag _).trans (length_versionTag _).symm)
  refine ⟨protocolTag_inj protocol, version, alpn, fourHex_inj cipher, ?_⟩
  exact (codeOf_binding code).imp_left joinTypes_inj

end

/-! JA4X. -/

section

variable {sha256Hex : Bytes → Bytes}

def joinOids (oids : List Bytes) : Bytes :=
  joinTexts (bytes ",") oids

theorem hashOrDefault_eq (digest : HexDigest sha256Hex) (oids : List Bytes) :
    hashOrDefault sha256Hex oids =
      if oids = [] then bytes "000000000000"
      else (sha256Hex (joinOids oids)).take 12 := by
  have hashed : sha256Hex (joinOids oids) ≠ [] := by
    apply List.ne_nil_of_length_pos
    rw [digest.length]
    decide
  have notEmpty : (sha256Hex (joinOids oids)).isEmpty = false :=
    List.isEmpty_eq_false_iff.mpr hashed
  unfold hashOrDefault
  change (if oids.isEmpty then _ else
    if (sha256Hex (joinOids oids)).isEmpty then _
    else (sha256Hex (joinOids oids)).take 12) = _
  rw [notEmpty, if_neg Bool.false_ne_true]
  simp only [List.isEmpty_iff]

theorem hashOrDefault_spec (digest : HexDigest sha256Hex) (oids : List Bytes) :
    (hashOrDefault sha256Hex oids).length = 12 ∧
      ∀ b ∈ hashOrDefault sha256Hex oids, IsLowerHex b := by
  rw [hashOrDefault_eq digest]
  split
  · exact zeros_spec
  · exact digest.take_spec (joinOids oids)

theorem joinOids_eq {oids : List Bytes}
    (separable : ∀ oid ∈ oids, Separable 0x2c oid) :
    joinOids oids = [0x2c].intercalate oids :=
  joinTexts_eq_intercalate fun oid member => (separable oid member).nonempty

/-- For readable OIDs, the joined text is empty only where no OID is given. -/
theorem hashOrDefault_eq_codeOf (digest : HexDigest sha256Hex)
    {oids : List Bytes} (separable : ∀ oid ∈ oids, Separable 0x2c oid) :
    hashOrDefault sha256Hex oids = codeOf sha256Hex (joinOids oids) := by
  have empty : joinOids oids = [] ↔ oids = [] := by
    rw [joinOids_eq separable]
    exact intercalate_eq_nil_iff separable
  rw [hashOrDefault_eq digest, codeOf]
  simp only [empty]

theorem joinOids_inj {first second : List Bytes}
    (firstSeparable : ∀ oid ∈ first, Separable 0x2c oid)
    (secondSeparable : ∀ oid ∈ second, Separable 0x2c oid)
    (same : joinOids first = joinOids second) : first = second := by
  rw [joinOids_eq firstSeparable, joinOids_eq secondSeparable] at same
  exact intercalate_inj firstSeparable secondSeparable same

/-- The OIDs are texts without a comma, and none is empty. -/
structure Ja4XInput.Readable (input : Ja4XInput) : Prop where
  issuer : ∀ oid ∈ input.issuerOids, Separable 0x2c oid
  subject : ∀ oid ∈ input.subjectOids, Separable 0x2c oid
  ext : ∀ oid ∈ input.extOids, Separable 0x2c oid

theorem hashOrDefault_binding (digest : HexDigest sha256Hex)
    {first second : List Bytes}
    (firstSeparable : ∀ oid ∈ first, Separable 0x2c oid)
    (secondSeparable : ∀ oid ∈ second, Separable 0x2c oid)
    (same : hashOrDefault sha256Hex first = hashOrDefault sha256Hex second) :
    first = second ∨ Confusable sha256Hex (joinOids first) (joinOids second) := by
  rw [hashOrDefault_eq_codeOf digest firstSeparable,
    hashOrDefault_eq_codeOf digest secondSeparable] at same
  exact (codeOf_binding same).imp_left
    (joinOids_inj firstSeparable secondSeparable)

structure Ja4xShape (text issuer subject ext : Bytes) : Prop where
  layout : text = issuer ++ bytes "_" ++ subject ++ bytes "_" ++ ext
  issuer : issuer.length = 12
  subject : subject.length = 12
  ext : ext.length = 12

theorem computeJa4x_shape (digest : HexDigest sha256Hex) (input : Ja4XInput) :
    Ja4xShape (computeJa4x sha256Hex input)
      (hashOrDefault sha256Hex input.issuerOids)
      (hashOrDefault sha256Hex input.subjectOids)
      (hashOrDefault sha256Hex input.extOids) where
  layout := rfl
  issuer := (hashOrDefault_spec digest _).1
  subject := (hashOrDefault_spec digest _).1
  ext := (hashOrDefault_spec digest _).1

theorem computeJa4x_binding (digest : HexDigest sha256Hex)
    {first second : Ja4XInput} (firstReadable : first.Readable)
    (secondReadable : second.Readable)
    (same : computeJa4x sha256Hex first = computeJa4x sha256Hex second) :
    (first.issuerOids = second.issuerOids ∨
        Confusable sha256Hex (joinOids first.issuerOids)
          (joinOids second.issuerOids)) ∧
      (first.subjectOids = second.subjectOids ∨
        Confusable sha256Hex (joinOids first.subjectOids)
          (joinOids second.subjectOids)) ∧
      (first.extOids = second.extOids ∨
        Confusable sha256Hex (joinOids first.extOids)
          (joinOids second.extOids)) := by
  have width (oids : List Bytes) := (hashOrDefault_spec digest oids).1
  unfold computeJa4x at same
  obtain ⟨same, ext⟩ := List.append_inj' same ((width _).trans (width _).symm)
  obtain ⟨same, _⟩ := List.append_inj' same rfl
  obtain ⟨same, subject⟩ := List.append_inj' same
    ((width _).trans (width _).symm)
  obtain ⟨issuer, _⟩ := List.append_inj' same rfl
  exact ⟨hashOrDefault_binding digest firstReadable.issuer secondReadable.issuer
      issuer,
    hashOrDefault_binding digest firstReadable.subject secondReadable.subject
      subject,
    hashOrDefault_binding digest firstReadable.ext secondReadable.ext ext⟩

end

/-- Fingerprints have a fixed shape, and equal ones come from inputs that show
the same unless the digest confuses two of the texts. -/
theorem fingerprints_identify {sha256Hex : Bytes → Bytes}
    (digest : HexDigest sha256Hex) :
    (∀ input, ∃ code,
        Ja4sShape input (computeJa4s sha256Hex input) code) ∧
      (∀ input, ∃ issuer subject ext,
        Ja4xShape (computeJa4x sha256Hex input) issuer subject ext) ∧
      (∀ first second : Ja4SInput,
        computeJa4s sha256Hex first = computeJa4s sha256Hex second →
        first.overQuic = second.overQuic ∧
          versionTag first.shownVersion = versionTag second.shownVersion ∧
          alpnTag first.alpn = alpnTag second.alpn ∧
          first.cipherId = second.cipherId ∧
          (first.extensionTypes = second.extensionTypes ∨
            Confusable sha256Hex (joinTypes first.extensionTypes)
              (joinTypes second.extensionTypes))) ∧
      (∀ first second : Ja4XInput, first.Readable → second.Readable →
        computeJa4x sha256Hex first = computeJa4x sha256Hex second →
        (first.issuerOids = second.issuerOids ∨
            Confusable sha256Hex (joinOids first.issuerOids)
              (joinOids second.issuerOids)) ∧
          (first.subjectOids = second.subjectOids ∨
            Confusable sha256Hex (joinOids first.subjectOids)
              (joinOids second.subjectOids)) ∧
          (first.extOids = second.extOids ∨
            Confusable sha256Hex (joinOids first.extOids)
              (joinOids second.extOids))) := by
  refine ⟨?_, ?_, ?_, ?_⟩
  · intro input
    exact ⟨_, computeJa4s_shape digest input⟩
  · intro input
    exact ⟨_, _, _, computeJa4x_shape digest input⟩
  · intro first second same
    exact computeJa4s_binding digest same
  · intro first second firstReadable secondReadable same
    exact computeJa4x_binding digest firstReadable secondReadable same

/-! Inputs that differ and have the same fingerprint, with the SHA-256 digests of
the texts that are hashed. -/

def tls13Hello : Ja4SInput where
  legacyVersion := 0x0303
  negotiatedVersion := 0x0304
  cipherId := 0x1301
  extensionTypes := [0x002b, 0x0033]
  alpn := bytes "h2"

/-- The same version, given in the other field. -/
def legacyHello : Ja4SInput :=
  { tls13Hello with legacyVersion := 0x0304, negotiatedVersion := 0 }

def vendorCertificate (vendorOid : Bytes) : Ja4XInput where
  issuerOids := [bytes "2.5.4.6", bytes "2.5.4.10", bytes "2.5.4.3"]
  subjectOids := [bytes "2.5.4.3"]
  extOids := [vendorOid]

/-- The last two digests begin with the same twelve characters. -/
def sampleDigests : List (Bytes × Bytes) := [
  (bytes "002b,0033", bytes
    "a56c5b9932503638d54ea173af678bc2ba5983093b3fb81052273a6df547c454"),
  (bytes "2.5.4.6,2.5.4.10,2.5.4.3", bytes
    "2e16925cec5b75b12772231b11dee44cd99ed056481dc5dda6a99c52c49966d9"),
  (bytes "2.5.4.3", bytes
    "3525cf66b29e787a73117b0178ea2bf9f3318e45897d653cd3139b88c4033fa8"),
  (bytes "1.3.6.1.4.1.8027971", bytes
    "5b1cc56de19018710b8497c83bb62e6ba0361d0b283f82eb557aafa6c227c9b6"),
  (bytes "1.3.6.1.4.1.19678304", bytes
    "5b1cc56de190ae0d01e3bd718bbbf8ba98f9d3ee33ad267459fbb5d693f590cb")]

def sampleDigest (text : Bytes) : Bytes :=
  match sampleDigests.find? (fun sample => sample.1 == text) with
  | some sample => sample.2
  | none => List.replicate 64 0x30

theorem sampleDigests_spec : ∀ sample ∈ sampleDigests,
    sample.2.length = 64 ∧ ∀ b ∈ sample.2, IsLowerHex b := by
  decide

theorem sampleDigest_spec (text : Bytes) :
    (sampleDigest text).length = 64 ∧ ∀ b ∈ sampleDigest text, IsLowerHex b := by
  unfold sampleDigest
  split
  next sample found =>
    exact sampleDigests_spec sample (List.mem_of_find?_eq_some found)
  next =>
    refine ⟨List.length_replicate, fun b member => ?_⟩
    rw [List.eq_of_mem_replicate member]
    decide

theorem hexDigest_sampleDigest : HexDigest sampleDigest where
  length := fun text => (sampleDigest_spec text).1
  lowerHex := fun text => (sampleDigest_spec text).2

theorem vendorCertificate_readable {vendorOid : Bytes}
    (separable : Separable 0x2c vendorOid) :
    (vendorCertificate vendorOid).Readable where
  issuer := by
    intro oid member
    simp only [vendorCertificate, List.mem_cons, List.not_mem_nil, or_false]
      at member
    rcases member with rfl | rfl | rfl <;> exact ⟨by decide, by decide⟩
  subject := by
    intro oid member
    rw [List.mem_singleton.mp member]
    exact ⟨by decide, by decide⟩
  ext := by
    intro oid member
    rw [List.mem_singleton.mp member]
    exact separable

theorem fingerprints_identify_samples :
    computeJa4s sampleDigest tls13Hello = bytes "t1302h2_1301_a56c5b993250" ∧
      (∃ code,
        Ja4sShape tls13Hello (computeJa4s sampleDigest tls13Hello) code) ∧
      (computeJa4s sampleDigest legacyHello =
          computeJa4s sampleDigest tls13Hello ∧
        (legacyHello.extensionTypes = tls13Hello.extensionTypes ∨
          Confusable sampleDigest (joinTypes legacyHello.extensionTypes)
            (joinTypes tls13Hello.extensionTypes))) ∧
      let first := vendorCertificate (bytes "1.3.6.1.4.1.8027971")
      let second := vendorCertificate (bytes "1.3.6.1.4.1.19678304")
      computeJa4x sampleDigest first =
          bytes "2e16925cec5b_3525cf66b29e_5b1cc56de190" ∧
        computeJa4x sampleDigest second = computeJa4x sampleDigest first ∧
        Confusable sampleDigest (joinOids first.extOids)
          (joinOids second.extOids) := by
  obtain ⟨ja4sShape, _, ja4sBinding, ja4xBinding⟩ :=
    fingerprints_identify hexDigest_sampleDigest
  refine ⟨by decide, ja4sShape tls13Hello, ?_, ?_⟩
  · have same : computeJa4s sampleDigest legacyHello =
        computeJa4s sampleDigest tls13Hello := by decide
    obtain ⟨_, _, _, _, types⟩ := ja4sBinding legacyHello tls13Hello same
    exact ⟨same, types⟩
  · intro first second
    have same : computeJa4x sampleDigest first =
        computeJa4x sampleDigest second := by decide
    obtain ⟨_, _, extOids⟩ := ja4xBinding first second
      (vendorCertificate_readable ⟨by decide, by decide⟩)
      (vendorCertificate_readable ⟨by decide, by decide⟩) same
    refine ⟨by decide, same.symm, extOids.resolve_left ?_⟩
    decide

end ServicePortScanner.Fp
