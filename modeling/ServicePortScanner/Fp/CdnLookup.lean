import ServicePortScanner.Data.Cidr
import ServicePortScanner.Data.JsonNode

namespace ServicePortScanner.Fp

open ServicePortScanner.Data

/-! Providers of content delivery networks, by the blocks of their addresses. -/

/-- The loop over the digits of one octet: its value, the count of its digits
and the text behind them. -/
def octetLoop (octet : UInt32) (digits : Nat) :
    Bytes → Option (UInt32 × Nat × Bytes)
  | [] => some (octet, digits, [])
  | c :: rest =>
      if 0x30 ≤ c ∧ c ≤ 0x39 then
        let octet := octet * 10 + (c - 0x30).toUInt32
        let digits := digits + 1
        if digits > 3 ∨ octet > 255 then none
        else octetLoop octet digits rest
      else some (octet, digits, c :: rest)

/-- The `while (i < s.size() && parts < 4)` loop on the text from `i` on, and the
check behind it. -/
def partLoop (v : UInt32) (parts : Nat) (s : Bytes) : Option UInt32 :=
  if s ≠ [] ∧ parts < 4 then
    match octetLoop 0 0 s with
    | none => none
    | some (octet, digits, rest) =>
        if digits = 0 then none
        else
          let v := v <<< 8 ||| octet
          if parts + 1 < 4 then
            match rest with
            | 0x2e :: rest => partLoop v (parts + 1) rest
            | _ => none
          else partLoop v (parts + 1) rest
  else if parts ≠ 4 ∨ s ≠ [] then none
  else some v
termination_by 4 - parts

def parseIpv4 (s : Bytes) : Option UInt32 :=
  partLoop 0 0 s

/-- The loop over the digits of a prefix length. -/
def prefixLoop : Nat → Bytes → Option Nat
  | length, [] => some length
  | length, c :: rest =>
      if c < 0x30 ∨ 0x39 < c then none
      else prefixLoop (length * 10 + (c - 0x30).toNat) rest

def prefixMask (length : Nat) : UInt32 :=
  if length = 0 then 0 else 0xffffffff <<< UInt32.ofNat (32 - length)

/-- The base without its host bits, and the mask. -/
def parseCidr (s : Bytes) : Option (UInt32 × UInt32) :=
  match s.findIdx? (· = 0x2f) with
  | none => none
  | some slash =>
      match parseIpv4 (s.take slash) with
      | none => none
      | some base =>
          let prefixStr := s.drop (slash + 1)
          if prefixStr.isEmpty ∨ prefixStr.length > 2 then none
          else
            match prefixLoop 0 prefixStr with
            | none => none
            | some length =>
                if length > 32 then none
                else
                  let mask := prefixMask length
                  some (base &&& mask, mask)

structure Range where
  base : UInt32 := 0
  mask : UInt32 := 0
  provider : Bytes
  deriving DecidableEq, Repr

structure CdnDatabase where
  ranges : List Range := []
  deriving DecidableEq, Repr

variable {F : Type}

/-- One turn of the loop over `ranges`. -/
def parseRange (rj : JsonNode F) : Option Range :=
  match rj.findString? (bytes "cidr"), rj.findString? (bytes "provider") with
  | some cidr, some provider =>
      match parseCidr cidr with
      | some (base, mask) =>
          some { base := base, mask := mask, provider := provider }
      | none => none
  | _, _ => none

namespace CdnDatabase

/-- Only a parse error is caught. -/
def parse (parseJson : JsonParser F) (text : Bytes) :
    Except JsonError CdnDatabase :=
  match parseJson text with
  | .error .parseError => .ok {}
  | .error error => .error error
  | .ok j =>
      match j.findArray? (bytes "ranges") with
      | some entries => .ok { ranges := entries.filterMap parseRange }
      | none => .ok {}

def lookup (db : CdnDatabase) (ipv4 : Bytes) : Bytes :=
  match parseIpv4 ipv4 with
  | none => []
  | some addr =>
      match db.ranges.find? fun r => addr &&& r.mask = r.base with
      | some r => r.provider
      | none => []

end CdnDatabase

/-! Dotted quads. -/

/-- One to three decimal digits of a number of at most 255. -/
structure IsOctet (text : Bytes) : Prop where
  nonempty : text ≠ []
  short : text.length ≤ 3
  digits : ∀ b ∈ text, IsDigit b
  small : decimalValue text ≤ 255

/-- Four octets with dots between them, most significant first. -/
def DottedQuad (s : Bytes) (address : UInt32) : Prop :=
  ∃ a b c d, IsOctet a ∧ IsOctet b ∧ IsOctet c ∧ IsOctet d ∧
    s = a ++ 0x2e :: (b ++ 0x2e :: (c ++ 0x2e :: d)) ∧
    address.toNat = decimalValue a * 2 ^ 24 + decimalValue b * 2 ^ 16 +
      decimalValue c * 2 ^ 8 + decimalValue d

/-! The scanner of one octet stops behind the run of digits. -/

theorem exists_digitRun (s : Bytes) :
    ∃ text rest, s = text ++ rest ∧ (∀ b ∈ text, IsDigit b) ∧
      ∀ b ∈ rest.head?, ¬ IsDigit b := by
  induction s with
  | nil => exact ⟨[], [], rfl, by simp, by simp⟩
  | cons b s induction =>
      by_cases digit : IsDigit b
      · obtain ⟨text, rest, rfl, run, stop⟩ := induction
        exact ⟨b :: text, rest, rfl, List.forall_mem_cons.mpr ⟨digit, run⟩,
          stop⟩
      · refine ⟨[], b :: s, rfl, by simp, ?_⟩
        intro other head
        cases head
        exact digit

theorem toNat_pushDigit {octet : UInt32} {c : UInt8} (small : octet.toNat ≤ 255)
    (digit : IsDigit c) :
    (octet * 10 + (c - 0x30).toUInt32).toNat =
      octet.toNat * 10 + digitValue c := by
  have lower : 48 ≤ c.toNat := UInt8.le_iff_toNat_le.mp digit.1
  have upper : c.toNat ≤ 57 := UInt8.le_iff_toNat_le.mp digit.2
  have value : (c - 0x30).toNat = c.toNat - 48 :=
    UInt8.toNat_sub_of_le c 0x30 digit.1
  rw [UInt32.toNat_add, UInt32.toNat_mul, UInt8.toNat_toUInt32, value]
  change (octet.toNat * 10 % 4294967296 + (c.toNat - 48)) % 4294967296 = _
  unfold digitValue
  omega

/-- The loop takes the run of digits, if its length and its value allow. -/
theorem octetLoop_eq {octet : UInt32} {digits : Nat} (text rest : Bytes)
    (small : octet.toNat ≤ 255) (short : digits ≤ 3)
    (run : ∀ b ∈ text, IsDigit b) (stop : ∀ b ∈ rest.head?, ¬ IsDigit b) :
    octetLoop octet digits (text ++ rest) =
      if digits + text.length ≤ 3 ∧ appendDigits octet.toNat text ≤ 255 then
        some (UInt32.ofNat (appendDigits octet.toNat text),
          digits + text.length, rest)
      else none := by
  induction text generalizing octet digits with
  | nil =>
      rw [if_pos ⟨short, small⟩]
      cases rest with
      | nil => simp [octetLoop, appendDigits]
      | cons b rest =>
          have noDigit : ¬ (0x30 ≤ b ∧ b ≤ 0x39) := stop b rfl
          simp [octetLoop, appendDigits, noDigit]
  | cons b text induction =>
      obtain ⟨digit, run⟩ := List.forall_mem_cons.mp run
      have pushed := toNat_pushDigit small digit
      have isDigit : 0x30 ≤ b ∧ b ≤ 0x39 := digit
      have tooLarge : (octet * 10 + (b - 0x30).toUInt32 > 255) ↔
          octet.toNat * 10 + digitValue b > 255 := by
        rw [← pushed]
        exact UInt32.lt_iff_toNat_lt
      have grows := le_appendDigits (octet.toNat * 10 + digitValue b) text
      rw [List.cons_append, octetLoop, if_pos isDigit]
      simp only [tooLarge]
      split
      · next bad =>
          rw [if_neg]
          intro fits
          rw [List.length_cons] at fits
          change _ ∧ appendDigits (octet.toNat * 10 + digitValue b) text ≤ 255
            at fits
          omega
      · next good =>
          have lengths :
              digits + (b :: text).length = digits + 1 + text.length := by
            rw [List.length_cons]
            omega
          rw [induction (by omega) (by omega) run, pushed, lengths]
          rfl

/-- What a text gives to the loop over the parts at its front. -/
theorem octetLoop_front {s rest : Bytes} {octet : UInt32} {digits : Nat} :
    octetLoop 0 0 s = some (octet, digits, rest) ∧ digits ≠ 0 ↔
      ∃ text, IsOctet text ∧ s = text ++ rest ∧
        (∀ b ∈ rest.head?, ¬ IsDigit b) ∧ digits = text.length ∧
        octet = UInt32.ofNat (decimalValue text) := by
  constructor
  · rintro ⟨taken, some⟩
    obtain ⟨text, rest', rfl, run, stop⟩ := exists_digitRun s
    rw [octetLoop_eq text rest' (Nat.zero_le _) (Nat.zero_le _) run stop]
      at taken
    split at taken
    · next fits =>
        cases taken
        rw [Nat.zero_add] at some fits
        exact ⟨text, ⟨List.ne_nil_of_length_pos (Nat.pos_of_ne_zero some),
          fits.1, run, fits.2⟩, rfl, stop, Nat.zero_add _, rfl⟩
    · cases taken
  · rintro ⟨text, octet, rfl, stop, rfl, rfl⟩
    refine ⟨?_, fun empty => octet.nonempty (List.length_eq_zero_iff.mp empty)⟩
    rw [octetLoop_eq text rest (Nat.zero_le _) (Nat.zero_le _) octet.digits
      stop, Nat.zero_add, if_pos ⟨octet.short, octet.small⟩]
    rfl

/-- The address with one more octet behind it. -/
def pushOctet (v : UInt32) (text : Bytes) : UInt32 :=
  v <<< 8 ||| UInt32.ofNat (decimalValue text)

theorem toNat_pushOctet {v : UInt32} {text : Bytes} (front : v.toNat < 2 ^ 24)
    (isOctet : IsOctet text) :
    (pushOctet v text).toNat = v.toNat * 2 ^ 8 + decimalValue text := by
  have small := isOctet.small
  have value : (UInt32.ofNat (decimalValue text)).toNat = decimalValue text := by
    rw [UInt32.toNat_ofNat', Nat.mod_eq_of_lt (by omega)]
  have disjoint : v.toNat <<< 8 ||| decimalValue text =
      v.toNat <<< 8 + decimalValue text :=
    (Nat.shiftLeft_add_eq_or_of_lt (by omega) _).symm
  rw [pushOctet, UInt32.toNat_or, UInt32.toNat_shiftLeft, value,
    ← Nat.shiftLeft_eq, ← disjoint]
  congr 1
  apply Nat.mod_eq_of_lt
  change v.toNat <<< 8 < 2 ^ 32
  rw [Nat.shiftLeft_eq]
  omega

theorem dot_stops (rest : Bytes) : ∀ b ∈ (0x2e :: rest).head?, ¬ IsDigit b := by
  intro b head
  cases head
  decide

/-- A turn that is not the last takes an octet and a dot. -/
theorem partLoop_more {v addr : UInt32} {parts : Nat} (more : parts < 3)
    (s : Bytes) :
    partLoop v parts s = some addr ↔ ∃ text rest, IsOctet text ∧
      s = text ++ 0x2e :: rest ∧
      partLoop (pushOctet v text) (parts + 1) rest = some addr := by
  constructor
  · intro taken
    rw [partLoop] at taken
    split at taken
    · split at taken
      · cases taken
      · next octet digits rest front =>
          split at taken
          · cases taken
          · next some =>
              obtain ⟨text, isOctet, rfl, _, _, rfl⟩ :=
                octetLoop_front.mp ⟨front, some⟩
              rw [if_pos (by omega)] at taken
              split at taken
              · exact ⟨text, _, isOctet, rfl, taken⟩
              · cases taken
    · rw [if_pos (.inl (by omega))] at taken
      cases taken
  · rintro ⟨text, rest, isOctet, rfl, later⟩
    obtain ⟨front, some⟩ := octetLoop_front.mpr
      ⟨text, isOctet, rfl, dot_stops rest, rfl, rfl⟩
    have nonempty : text ++ 0x2e :: rest ≠ [] := by simp
    rw [partLoop, if_pos ⟨nonempty, by omega⟩, front]
    dsimp only
    rw [if_neg some, if_pos (by omega)]
    exact later

/-- The last turn takes an octet that ends the text. -/
theorem partLoop_last {v addr : UInt32} (s : Bytes) :
    partLoop v 3 s = some addr ↔
      IsOctet s ∧ addr = pushOctet v s := by
  have done (v : UInt32) (rest : Bytes) :
      partLoop v 4 rest = if rest ≠ [] then none else some v := by
    rw [partLoop]
    simp
  constructor
  · intro taken
    rw [partLoop] at taken
    split at taken
    · split at taken
      · cases taken
      · next octet digits rest front =>
          split at taken
          · cases taken
          · next some =>
              obtain ⟨text, isOctet, rfl, _, _, rfl⟩ :=
                octetLoop_front.mp ⟨front, some⟩
              rw [if_neg (by omega), done] at taken
              split at taken
              · cases taken
              · next empty =>
                  cases taken
                  rw [not_not.mp empty, List.append_nil]
                  exact ⟨isOctet, rfl⟩
    · rw [if_pos (.inl (by omega))] at taken
      cases taken
  · rintro ⟨isOctet, rfl⟩
    obtain ⟨front, some⟩ := octetLoop_front.mpr
      ⟨s, isOctet, (List.append_nil s).symm, by simp, rfl, rfl⟩
    rw [partLoop, if_pos ⟨isOctet.nonempty, by omega⟩, front]
    dsimp only
    rw [if_neg some, if_neg (by omega), done, if_neg (by simp)]
    rfl

/-- The value of four octets, as the shifts of the loop put it together. -/
theorem toNat_quad {a b c d : Bytes} (first : IsOctet a) (second : IsOctet b)
    (third : IsOctet c) (last : IsOctet d) :
    (pushOctet (pushOctet (pushOctet (pushOctet 0 a) b) c) d).toNat =
      decimalValue a * 2 ^ 24 + decimalValue b * 2 ^ 16 +
        decimalValue c * 2 ^ 8 + decimalValue d := by
  have smallA := first.small
  have smallB := second.small
  have smallC := third.small
  have one : (pushOctet 0 a).toNat = 0 * 2 ^ 8 + decimalValue a :=
    toNat_pushOctet (Nat.two_pow_pos 24) first
  have two := toNat_pushOctet (v := pushOctet 0 a) (by omega) second
  have three :=
    toNat_pushOctet (v := pushOctet (pushOctet 0 a) b) (by omega) third
  rw [toNat_pushOctet (by omega) last]
  omega

theorem parseIpv4_eq_some_iff (s : Bytes) (address : UInt32) :
    parseIpv4 s = some address ↔ DottedQuad s address := by
  unfold parseIpv4 DottedQuad
  constructor
  · intro parsed
    obtain ⟨a, rest₁, first, rfl, parsed₁⟩ :=
      (partLoop_more (by omega) s).mp parsed
    obtain ⟨b, rest₂, second, rfl, parsed₂⟩ :=
      (partLoop_more (by omega) rest₁).mp parsed₁
    obtain ⟨c, d, third, rfl, parsed₃⟩ :=
      (partLoop_more (by omega) rest₂).mp parsed₂
    obtain ⟨last, rfl⟩ := (partLoop_last d).mp parsed₃
    exact ⟨a, b, c, d, first, second, third, last, rfl,
      toNat_quad first second third last⟩
  · rintro ⟨a, b, c, d, first, second, third, last, rfl, value⟩
    have same : address =
        pushOctet (pushOctet (pushOctet (pushOctet 0 a) b) c) d := by
      apply UInt32.toNat_inj.mp
      rw [value, toNat_quad first second third last]
    apply (partLoop_more (by omega) _).mpr
    refine ⟨a, _, first, rfl, (partLoop_more (by omega) _).mpr ?_⟩
    refine ⟨b, _, second, rfl, (partLoop_more (by omega) _).mpr ?_⟩
    exact ⟨c, d, third, rfl, (partLoop_last d).mpr ⟨last, same⟩⟩

/-! Blocks of addresses in a text. -/

/-- A dotted quad, a slash and a prefix length of one or two digits. -/
def CidrText (s : Bytes) (base : UInt32) (length : Nat) : Prop :=
  ∃ front back, s = front ++ 0x2f :: back ∧ DottedQuad front base ∧
    back ≠ [] ∧ back.length ≤ 2 ∧ (∀ b ∈ back, IsDigit b) ∧
    decimalValue back = length ∧ length ≤ 32

theorem prefixLoop_eq_some_iff (n length : Nat) (s : Bytes) :
    prefixLoop n s = some length ↔
      (∀ b ∈ s, IsDigit b) ∧ appendDigits n s = length := by
  induction s generalizing n with
  | nil => simp [prefixLoop, appendDigits]
  | cons c s induction =>
      have digit_iff : ¬ (c < 0x30 ∨ 0x39 < c) ↔ IsDigit c := by
        rw [not_or, UInt8.not_lt, UInt8.not_lt]
        rfl
      rw [prefixLoop, List.forall_mem_cons]
      split
      · next bad =>
          have noDigit : ¬ IsDigit c := fun digit => digit_iff.mpr digit bad
          simp [noDigit]
      · next good =>
          have digit := digit_iff.mp good
          rw [induction, digitValue_eq digit]
          simp [digit, appendDigits]

theorem slash_notMem {s : Bytes} {address : UInt32}
    (quad : DottedQuad s address) : 0x2f ∉ s := by
  obtain ⟨a, b, c, d, first, second, third, last, rfl, _⟩ := quad
  have absent {text : Bytes} (octet : IsOctet text) : 0x2f ∉ text := by
    intro member
    exact absurd (octet.digits 0x2f member) (by decide)
  simp [absent first, absent second, absent third, absent last]

theorem parseCidr_eq_some_iff (s : Bytes) (base mask : UInt32) :
    parseCidr s = some (base, mask) ↔ ∃ address length,
      CidrText s address length ∧ mask = prefixMask length ∧
        base = address &&& prefixMask length := by
  unfold parseCidr CidrText
  constructor
  · intro parsed
    split at parsed
    · cases parsed
    · next slash found =>
        split at parsed
        · cases parsed
        · next address front =>
            simp only at parsed
            split at parsed
            · cases parsed
            · next shape =>
                split at parsed
                · cases parsed
                · next length digits =>
                    split at parsed
                    · cases parsed
                    · next small =>
                        cases parsed
                        rw [not_or, List.isEmpty_iff] at shape
                        rw [prefixLoop_eq_some_iff] at digits
                        rw [parseIpv4_eq_some_iff] at front
                        exact ⟨address, length, ⟨_, _,
                          (eq_append_cons_of_findIdx? found).1, front, shape.1,
                          Nat.le_of_not_lt shape.2, digits.1, digits.2,
                          Nat.le_of_not_lt small⟩, rfl, rfl⟩
  · rintro ⟨address, length, ⟨front, back, rfl, quad, nonempty, short, digits,
      value, small⟩, rfl, rfl⟩
    have split :
        (front ++ 0x2f :: back).findIdx? (· = 0x2f) = some front.length :=
      findIdx?_append_cons (slash_notMem quad)
    have drop : (front ++ 0x2f :: back).drop (front.length + 1) = back := by
      simp
    have shape : ¬ (back.isEmpty = true ∨ back.length > 2) := by
      rw [not_or, List.isEmpty_iff]
      exact ⟨nonempty, Nat.not_lt_of_le short⟩
    have read := (prefixLoop_eq_some_iff 0 length back).mpr ⟨digits, value⟩
    have parsed := (parseIpv4_eq_some_iff front address).mpr quad
    simp only [split, List.take_left', parsed, drop, if_neg shape, read,
      if_neg (Nat.not_lt_of_le small)]

/-! The blocks of a database. -/

/-- What an entry says: a base, perhaps with host bits, a prefix length and a
provider. -/
structure Network where
  base : UInt32
  length : Nat
  length_le : length ≤ 32
  provider : Bytes

namespace Network

def range (network : Network) : Range where
  base := network.base &&& prefixMask network.length
  mask := prefixMask network.length
  provider := network.provider

/-- The address and the base are the same in front of the host bits, of which a
prefix of length zero leaves nothing else. -/
def Contains (network : Network) (address : UInt32) : Prop :=
  address.toNat / 2 ^ (32 - network.length) =
    network.base.toNat / 2 ^ (32 - network.length)

instance (network : Network) : DecidablePred network.Contains :=
  fun _ => inferInstanceAs (Decidable (_ = _))

theorem toBitVec_prefixMask {length : Nat} (le : length ≤ 32) :
    (prefixMask length).toBitVec = Cidr.mask 32 length := by
  have all : ∀ n : Fin 33, (prefixMask n.val).toBitVec = Cidr.mask 32 n.val := by
    decide
  exact all ⟨length, Nat.lt_succ_of_le le⟩

/-- The comparison of the lookup loop is arithmetic containment. -/
theorem matches_range_iff (network : Network) (address : UInt32) :
    address &&& network.range.mask = network.range.base ↔
      network.Contains address := by
  have block := Cidr.contains_iff_mask
    (Cidr.ofMasked network.base.toBitVec network.length network.length_le)
    address.toBitVec
  rw [Cidr.contains_ofMasked] at block
  rw [← UInt32.toBitVec_inj, UInt32.toBitVec_and]
  unfold range
  rw [UInt32.toBitVec_and, toBitVec_prefixMask network.length_le]
  exact block.symm

end Network

/-- The entry has a string provider and a string with such a block. -/
def Kept (entry : JsonNode F) (network : Network) : Prop :=
  (∃ cidr, entry.findString? (bytes "cidr") = some cidr ∧
    CidrText cidr network.base network.length) ∧
  entry.findString? (bytes "provider") = some network.provider

theorem parseRange_eq_some_iff (entry : JsonNode F) (range : Range) :
    parseRange entry = some range ↔
      ∃ network, Kept entry network ∧ range = network.range := by
  unfold parseRange Kept
  constructor
  · intro parsed
    split at parsed
    · next cidr provider text named =>
        split at parsed
        · next base mask block =>
            cases parsed
            obtain ⟨address, length, shape, rfl, rfl⟩ :=
              (parseCidr_eq_some_iff cidr base mask).mp block
            have le : length ≤ 32 := by
              obtain ⟨_, _, _, _, _, _, _, _, le⟩ := shape
              exact le
            exact ⟨⟨address, length, le, provider⟩,
              ⟨⟨cidr, text, shape⟩, named⟩, rfl⟩
        · cases parsed
    · cases parsed
  · rintro ⟨network, ⟨⟨cidr, text, shape⟩, named⟩, rfl⟩
    have block := (parseCidr_eq_some_iff cidr _ _).mpr
      ⟨network.base, network.length, shape, rfl, rfl⟩
    simp only [text, named, block]
    rfl

/-- The networks of the kept entries, in the order of the entries. -/
inductive Keeps : List (JsonNode F) → List Network → Prop
  | nil : Keeps [] []
  | keep {entry : JsonNode F} {entries : List (JsonNode F)}
      {network : Network} {networks : List Network} :
      Kept entry network → Keeps entries networks →
      Keeps (entry :: entries) (network :: networks)
  | skip {entry : JsonNode F} {entries : List (JsonNode F)}
      {networks : List Network} :
      (∀ network, ¬ Kept entry network) → Keeps entries networks →
      Keeps (entry :: entries) networks

theorem exists_keeps (entries : List (JsonNode F)) :
    ∃ networks, Keeps entries networks ∧
      entries.filterMap parseRange = networks.map Network.range := by
  induction entries with
  | nil => exact ⟨[], .nil, rfl⟩
  | cons entry entries induction =>
      obtain ⟨networks, keeps, ranges⟩ := induction
      cases parsed : parseRange entry with
      | none =>
          refine ⟨networks, .skip ?_ keeps, ?_⟩
          · intro network kept
            rw [(parseRange_eq_some_iff entry _).mpr ⟨network, kept, rfl⟩]
              at parsed
            cases parsed
          · rw [List.filterMap_cons_none parsed, ranges]
      | some range =>
          obtain ⟨network, kept, rfl⟩ :=
            (parseRange_eq_some_iff entry range).mp parsed
          refine ⟨network :: networks, .keep kept keeps, ?_⟩
          rw [List.filterMap_cons_some parsed, ranges, List.map_cons]

/-- The provider of the first network that contains the address. -/
def firstProvider (networks : List Network) (address : UInt32) : Bytes :=
  match networks.find? fun network => network.Contains address with
  | some network => network.provider
  | none => []

theorem CdnDatabase.lookup_eq_firstProvider {db : CdnDatabase}
    {networks : List Network} {s : Bytes} {address : UInt32}
    (ranges : db.ranges = networks.map Network.range)
    (parsed : parseIpv4 s = some address) :
    db.lookup s = firstProvider networks address := by
  unfold CdnDatabase.lookup firstProvider
  have same : (fun r : Range => decide (address &&& r.mask = r.base)) ∘
      Network.range = fun network => decide (network.Contains address) := by
    funext network
    rw [Function.comp_apply, decide_eq_decide]
    exact network.matches_range_iff address
  rw [parsed, ranges]
  simp only [List.find?_map, same]
  cases networks.find? fun network => decide (network.Contains address) with
  | none => rfl
  | some network => rfl

/-- A parsed database keeps the entries with a block and a provider, in order,
and a lookup answers with the first of them that contains the address. -/
theorem CdnDatabase.lookup_parse {parseJson : JsonParser F} {text : Bytes}
    {j : JsonNode F} {entries : List (JsonNode F)}
    (read : parseJson text = .ok j)
    (ranges : j.findArray? (bytes "ranges") = some entries) :
    ∃ db networks, CdnDatabase.parse parseJson text = .ok db ∧
      Keeps entries networks ∧ db.ranges = networks.map Network.range ∧
      (∀ s address, DottedQuad s address →
        db.lookup s = firstProvider networks address) ∧
      ∀ s, (∀ address, ¬ DottedQuad s address) → db.lookup s = [] := by
  obtain ⟨networks, keeps, kept⟩ := exists_keeps entries
  refine ⟨{ ranges := entries.filterMap parseRange }, networks, ?_, keeps, kept,
    ?_, ?_⟩
  · simp only [CdnDatabase.parse, read, ranges]
  · intro s address quad
    apply CdnDatabase.lookup_eq_firstProvider kept
    exact (parseIpv4_eq_some_iff s address).mpr quad
  · intro s noQuad
    have failed : parseIpv4 s = none := by
      rw [Option.eq_none_iff_forall_ne_some]
      intro address parsed
      exact noQuad address ((parseIpv4_eq_some_iff s address).mp parsed)
    rw [CdnDatabase.lookup, failed]

/-- One range with host bits in its base. -/
def rangesText : Bytes :=
  bytes "\x7b\"ranges\":[\x7b\"cidr\":\"104.16.3.7/13\",\"provider\":\"cloudflare\"\x7d]\x7d"

def rangesEntry : JsonNode Float :=
  .object [(bytes "cidr", .string (bytes "104.16.3.7/13")),
    (bytes "provider", .string (bytes "cloudflare"))]

def parseRanges : JsonParser Float := fun text =>
  if text = rangesText then
    .ok (.object [(bytes "ranges", .array [rangesEntry])])
  else .error .parseError

theorem lookup_parseRanges :
    ∃ db networks, CdnDatabase.parse parseRanges rangesText = .ok db ∧
      Keeps [rangesEntry] networks ∧
      db.ranges = networks.map Network.range ∧
      (∀ s address, DottedQuad s address →
        db.lookup s = firstProvider networks address) ∧
      ∀ s, (∀ address, ¬ DottedQuad s address) → db.lookup s = [] :=
  CdnDatabase.lookup_parse (if_pos rfl) rfl

end ServicePortScanner.Fp
