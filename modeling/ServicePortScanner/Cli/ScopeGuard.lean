import ServicePortScanner.Data.Bytes
import ServicePortScanner.Data.Cidr

namespace ServicePortScanner.Cli

open ServicePortScanner.Data

/-! Which targets may be scanned. -/

inductive Address where
  | v4 (address : BitVec 32)
  | v6 (address : BitVec 128)
  deriving DecidableEq, Repr

/-- The byte of an address that `to_bytes` gives at an index. -/
def toBytes {w : Nat} (address : BitVec w) (index : Nat) : BitVec 8 :=
  address.extractLsb' (w - 8 * (index + 1)) 8

/-! The blocks with a name, as the library documents its predicates. -/

namespace AddressV4

def loopback : Cidr 32 :=
  ⟨0x7f000000, 8, by decide, by decide⟩

def isLoopback (a : BitVec 32) : Bool :=
  decide (loopback.Contains a)

def isUnspecified (a : BitVec 32) : Bool :=
  a == 0

end AddressV4

namespace AddressV6

def linkLocal : Cidr 128 :=
  ⟨0xfe800000000000000000000000000000, 10, by decide, by decide⟩

def siteLocal : Cidr 128 :=
  ⟨0xfec00000000000000000000000000000, 10, by decide, by decide⟩

def isLoopback (a : BitVec 128) : Bool :=
  a == 1

def isUnspecified (a : BitVec 128) : Bool :=
  a == 0

def isLinkLocal (a : BitVec 128) : Bool :=
  decide (linkLocal.Contains a)

def isSiteLocal (a : BitVec 128) : Bool :=
  decide (siteLocal.Contains a)

end AddressV6

inductive ScopeDecision where
  | allowed
  | deniedExternalNeedsConsent
  | deniedInvalidAddress
  deriving DecidableEq, Repr

structure ScopeOptions where
  explicitConsent : Bool := false
  deriving DecidableEq, Repr

def isPrivateV4 (a : BitVec 32) : Bool :=
  if AddressV4.isLoopback a || AddressV4.isUnspecified a then true
  else if toBytes a 0 == 10 then true
  else if toBytes a 0 == 192 && toBytes a 1 == 168 then true
  else if toBytes a 0 == 172 && decide (16 ≤ toBytes a 1) &&
      decide (toBytes a 1 ≤ 31) then true
  else if toBytes a 0 == 169 && toBytes a 1 == 254 then true
  else false

def isPrivateV6 (a : BitVec 128) : Bool :=
  if AddressV6.isLoopback a || AddressV6.isUnspecified a then true
  else if AddressV6.isLinkLocal a || AddressV6.isSiteLocal a then true
  else (toBytes a 0 &&& 0xfe) == 0xfc

/-- `makeAddress` is the parser of the library; `none` is its error code. -/
def checkScope (makeAddress : Bytes → Option Address) (targetIp : Bytes)
    (opts : ScopeOptions) : ScopeDecision :=
  match makeAddress targetIp with
  | none => .deniedInvalidAddress
  | some addr =>
      let internal :=
        match addr with
        | .v4 a => isPrivateV4 a
        | .v6 a => isPrivateV6 a
      if internal then .allowed
      else if opts.explicitConsent then .allowed
      else .deniedExternalNeedsConsent

def describe : ScopeDecision → Bytes
  | .allowed => bytes "allowed"
  | .deniedExternalNeedsConsent =>
      bytes "external IP — pass --i-know-what-im-doing to proceed"
  | .deniedInvalidAddress => bytes "invalid address"

/-! The policy. -/

/-- A set of addresses, by the blocks of each family. -/
structure Ranges where
  v4 : List (Cidr 32)
  v6 : List (Cidr 128)

namespace Ranges

def Contain (ranges : Ranges) : Address → Prop
  | .v4 a => ∃ block ∈ ranges.v4, block.Contains a
  | .v6 a => ∃ block ∈ ranges.v6, block.Contains a

instance (ranges : Ranges) : DecidablePred ranges.Contain := fun address => by
  cases address <;> simp only [Contain] <;> infer_instance

def append (ranges others : Ranges) : Ranges :=
  ⟨ranges.v4 ++ others.v4, ranges.v6 ++ others.v6⟩

end Ranges

def uniqueLocal : Cidr 128 :=
  ⟨0xfc000000000000000000000000000000, 7, by decide, by decide⟩

/-- The targets that are allowed without an option. -/
def allowedTargets : Ranges where
  v4 :=
    [AddressV4.loopback,
      ⟨0x0a000000, 8, by decide, by decide⟩,
      ⟨0xac100000, 12, by decide, by decide⟩,
      ⟨0xc0a80000, 16, by decide, by decide⟩,
      ⟨0xa9fe0000, 16, by decide, by decide⟩]
  v6 :=
    [⟨1, 128, by decide, by decide⟩, AddressV6.linkLocal, uniqueLocal]

/-- What the guard lets through besides: 0.0.0.0, ::, and fec0::/10. -/
def alsoAllowed : Ranges where
  v4 := [⟨0, 32, by decide, by decide⟩]
  v6 := [⟨0, 128, by decide, by decide⟩, AddressV6.siteLocal]

theorem toNat_toBytes {w : Nat} (address : BitVec w) (index : Nat) :
    (toBytes address index).toNat =
      address.toNat / 2 ^ (w - 8 * (index + 1)) % 2 ^ 8 := by
  rw [toBytes, BitVec.extractLsb'_toNat, Nat.shiftRight_eq_div_pow]

theorem isPrivateV4_iff (a : BitVec 32) :
    isPrivateV4 a = true ↔
      (allowedTargets.append alsoAllowed).Contain (.v4 a) := by
  have first := toNat_toBytes a 0
  have second := toNat_toBytes a 1
  simp [isPrivateV4, AddressV4.isLoopback, AddressV4.isUnspecified,
    ← BitVec.toNat_inj, BitVec.le_def, Ranges.Contain, Ranges.append,
    allowedTargets, alsoAllowed, Cidr.Contains, Cidr.size,
    AddressV4.loopback] at first second ⊢
  have bound := a.isLt
  omega

theorem isUniqueLocal_iff (a : BitVec 128) :
    (toBytes a 0 &&& 0xfe) == 0xfc ↔ uniqueLocal.Contains a := by
  have front := uniqueLocal.contains_front (by decide : 7 ≤ 8) (by decide) a
  rw [← front, Cidr.contains_iff_mask, beq_iff_eq]
  exact Iff.rfl

theorem isPrivateV6_iff (a : BitVec 128) :
    isPrivateV6 a = true ↔
      (allowedTargets.append alsoAllowed).Contain (.v6 a) := by
  have blocks : (allowedTargets.append alsoAllowed).Contain (.v6 a) ↔
      a = 1 ∨ AddressV6.linkLocal.Contains a ∨ uniqueLocal.Contains a ∨
        a = 0 ∨ AddressV6.siteLocal.Contains a := by
    simp [Ranges.Contain, Ranges.append, allowedTargets, alsoAllowed,
      Cidr.contains_iff_eq]
  have tests : isPrivateV6 a = true ↔ (a = 1 ∨ a = 0) ∨
      (AddressV6.linkLocal.Contains a ∨ AddressV6.siteLocal.Contains a) ∨
        (toBytes a 0 &&& 0xfe) == 0xfc := by
    simp [isPrivateV6, AddressV6.isLoopback, AddressV6.isUnspecified,
      AddressV6.isLinkLocal, AddressV6.isSiteLocal]
  rw [blocks, tests, isUniqueLocal_iff]
  constructor
  · rintro ((one | zero) | (link | site) | unique)
    · exact .inl one
    · exact .inr (.inr (.inr (.inl zero)))
    · exact .inr (.inl link)
    · exact .inr (.inr (.inr (.inr site)))
    · exact .inr (.inr (.inl unique))
  · rintro (one | link | unique | zero | site)
    · exact .inl (.inl one)
    · exact .inr (.inl (.inl link))
    · exact .inr (.inr unique)
    · exact .inl (.inr zero)
    · exact .inr (.inl (.inr site))

/-- The text is an address of the policy's ranges, 0.0.0.0, :: or of fec0::/10, or
the user has consented. -/
def InScope (makeAddress : Bytes → Option Address) (consent : Prop)
    (target : Bytes) : Prop :=
  ∃ address, makeAddress target = some address ∧
    (consent ∨ (allowedTargets.append alsoAllowed).Contain address)

theorem inScope_of_allowed {makeAddress : Bytes → Option Address}
    {target : Bytes} {opts : ScopeOptions}
    (allowed : checkScope makeAddress target opts = .allowed) :
    InScope makeAddress (opts.explicitConsent = true) target := by
  unfold checkScope at allowed
  split at allowed
  · cases allowed
  · next address valid =>
      refine ⟨address, valid, ?_⟩
      by_cases consent : opts.explicitConsent = true
      · exact .inl consent
      · right
        cases address with
        | v4 a => simpa [consent, isPrivateV4_iff] using allowed
        | v6 a => simpa [consent, isPrivateV6_iff] using allowed

/-- Without consent exactly the policy's ranges are allowed, 0.0.0.0, :: and
fec0::/10 besides, and with consent every address is. -/
theorem checkScope_iff (makeAddress : Bytes → Option Address)
    (targetIp : Bytes) :
    match makeAddress targetIp with
    | none => ∀ opts,
        checkScope makeAddress targetIp opts = .deniedInvalidAddress
    | some address =>
        checkScope makeAddress targetIp { explicitConsent := true } =
          .allowed ∧
        checkScope makeAddress targetIp {} =
          if (allowedTargets.append alsoAllowed).Contain address then .allowed
          else .deniedExternalNeedsConsent := by
  split
  · next invalid =>
      intro opts
      simp [checkScope, invalid]
  · next address valid =>
      cases address with
      | v4 a => simp [checkScope, valid, ← isPrivateV4_iff]
      | v6 a => simp [checkScope, valid, ← isPrivateV6_iff]

/-- The parser, as far as 0.0.0.0 needs it. -/
def unspecifiedOnly (text : Bytes) : Option Address :=
  if text = bytes "0.0.0.0" then some (.v4 0) else none

/-- 0.0.0.0 is allowed without consent, and in none of the policy's ranges. -/
theorem checkScope_unspecified :
    unspecifiedOnly (bytes "0.0.0.0") = some (.v4 0) ∧
      checkScope unspecifiedOnly (bytes "0.0.0.0") {} = .allowed ∧
      ¬ allowedTargets.Contain (.v4 0) := by
  decide +kernel

end ServicePortScanner.Cli
