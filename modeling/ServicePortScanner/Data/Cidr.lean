import Mathlib.Algebra.Order.Ring.Nat
import Mathlib.Data.Nat.Basic

namespace ServicePortScanner.Data

/-! Blocks of the addresses that begin with the same bits. -/

structure Cidr (w : Nat) where
  base : BitVec w
  length : Nat
  length_le : length ≤ w
  aligned : 2 ^ (w - length) ∣ base.toNat

namespace Cidr

variable {w : Nat}

def size (block : Cidr w) : Nat :=
  2 ^ (w - block.length)

def Contains (block : Cidr w) (address : BitVec w) : Prop :=
  block.base.toNat ≤ address.toNat ∧
    address.toNat < block.base.toNat + block.size

instance (block : Cidr w) : DecidablePred block.Contains :=
  fun _ => inferInstanceAs (Decidable (_ ∧ _))

def mask (w length : Nat) : BitVec w :=
  BitVec.allOnes w <<< (w - length)

theorem size_pos (block : Cidr w) : 0 < block.size :=
  Nat.two_pow_pos _

theorem base_div_mul_size (block : Cidr w) :
    block.base.toNat / block.size * block.size = block.base.toNat :=
  Nat.div_mul_cancel block.aligned

theorem contains_iff_div (block : Cidr w) (address : BitVec w) :
    block.Contains address ↔
      address.toNat / block.size = block.base.toNat / block.size := by
  have base := block.base_div_mul_size
  generalize block.base.toNat / block.size = count at base
  rw [Contains, ← base]
  constructor
  · rintro ⟨above, below⟩
    exact Nat.div_eq_of_lt_le above (by rwa [Nat.succ_mul])
  · rintro rfl
    exact ⟨Nat.div_mul_le_self _ _, Nat.lt_div_mul_add block.size_pos⟩

theorem contains_iff_eq {block : Cidr w} (whole : block.length = w)
    (address : BitVec w) : block.Contains address ↔ address = block.base := by
  rw [Contains, size, whole, Nat.sub_self, Nat.pow_zero, ← BitVec.toNat_inj]
  omega

theorem toNat_and_mask (length : Nat) (address : BitVec w) :
    (address &&& mask w length).toNat =
      address.toNat / 2 ^ (w - length) * 2 ^ (w - length) := by
  have below : address.toNat / 2 ^ (w - length) * 2 ^ (w - length) < 2 ^ w :=
    (Nat.div_mul_le_self _ _).trans_lt address.isLt
  rw [mask, ← BitVec.shiftLeft_ushiftRight, BitVec.toNat_shiftLeft,
    BitVec.toNat_ushiftRight, Nat.shiftLeft_eq, Nat.shiftRight_eq_div_pow]
  exact Nat.mod_eq_of_lt below

/-- The block of an address with bits behind the mask. -/
def ofMasked (address : BitVec w) (length : Nat) (length_le : length ≤ w) :
    Cidr w where
  base := address &&& mask w length
  length := length
  length_le := length_le
  aligned := by
    rw [toNat_and_mask]
    exact Nat.dvd_mul_left _ _

theorem contains_ofMasked {length : Nat} {base : BitVec w}
    (length_le : length ≤ w) (address : BitVec w) :
    (ofMasked base length length_le).Contains address ↔
      address.toNat / 2 ^ (w - length) = base.toNat / 2 ^ (w - length) := by
  rw [contains_iff_div, ofMasked, size, toNat_and_mask,
    Nat.mul_div_cancel _ (Nat.two_pow_pos _)]

/-- A block is what its mask takes to its base. -/
theorem contains_iff_mask (block : Cidr w) (address : BitVec w) :
    block.Contains address ↔ address &&& mask w block.length = block.base := by
  have masked : (address &&& mask w block.length).toNat =
      address.toNat / block.size * block.size :=
    toNat_and_mask block.length address
  rw [contains_iff_div, ← BitVec.toNat_inj, masked]
  constructor
  · intro same
    rw [same, block.base_div_mul_size]
  · intro same
    apply Nat.eq_of_mul_eq_mul_right block.size_pos
    rw [same, block.base_div_mul_size]

theorem toNat_extractFront {m : Nat} (le : m ≤ w) (address : BitVec w) :
    (address.extractLsb' (w - m) m).toNat = address.toNat / 2 ^ (w - m) := by
  rw [BitVec.extractLsb'_toNat, Nat.shiftRight_eq_div_pow]
  apply Nat.mod_eq_of_lt
  apply Nat.div_lt_of_lt_mul
  rw [← Nat.pow_add, Nat.sub_add_cancel le]
  exact address.isLt

theorem size_eq_mul (block : Cidr w) {m : Nat} (longer : block.length ≤ m)
    (le : m ≤ w) : block.size = 2 ^ (w - m) * 2 ^ (m - block.length) := by
  rw [size, ← Nat.pow_add]
  congr 1
  omega

/-- The front of a block, as a block of shorter addresses. -/
def front (block : Cidr w) (m : Nat) (longer : block.length ≤ m) (le : m ≤ w) :
    Cidr m where
  base := block.base.extractLsb' (w - m) m
  length := block.length
  length_le := longer
  aligned := by
    rw [toNat_extractFront le]
    apply Nat.dvd_div_of_mul_dvd
    rw [← block.size_eq_mul longer le]
    exact block.aligned

/-- Whether a block contains an address shows in the front of the address. -/
theorem contains_front (block : Cidr w) {m : Nat} (longer : block.length ≤ m)
    (le : m ≤ w) (address : BitVec w) :
    (block.front m longer le).Contains (address.extractLsb' (w - m) m) ↔
      block.Contains address := by
  have short (x : BitVec w) : x.toNat / 2 ^ (w - m) / 2 ^ (m - block.length) =
      x.toNat / block.size := by
    rw [Nat.div_div_eq_div_mul, block.size_eq_mul longer le]
  rw [contains_iff_div, contains_iff_div, front, size, toNat_extractFront le,
    toNat_extractFront le, short, short]

end Cidr

end ServicePortScanner.Data
