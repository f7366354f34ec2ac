import ServicePortScanner.Data.Bytes
import ServicePortScanner.Data.Words

namespace ServicePortScanner.Data.Utf16

/-! Texts of 16-bit units, and the bytes they are in UTF-8.  A surrogate without
its other half is kept, in three bytes. -/

def IsHigh (u : UInt16) : Prop := 0xd800 ≤ u ∧ u < 0xdc00
def IsLow (u : UInt16) : Prop := 0xdc00 ≤ u ∧ u < 0xe000

instance (u : UInt16) : Decidable (IsHigh u) :=
  inferInstanceAs (Decidable (_ ∧ _))

instance (u : UInt16) : Decidable (IsLow u) :=
  inferInstanceAs (Decidable (_ ∧ _))

def pairPoint (high low : UInt16) : Nat :=
  0x10000 + (high.toNat - 0xd800) * 0x400 + (low.toNat - 0xdc00)

def units (n : Nat) : List UInt16 :=
  if n < 0x10000 then [UInt16.ofNat n]
  else [UInt16.ofNat (0xd800 + (n - 0x10000) / 0x400),
    UInt16.ofNat (0xdc00 + (n - 0x10000) % 0x400)]

/-- A byte behind the first one of a code point, with six bits of it. -/
def following (n : Nat) : UInt8 :=
  UInt8.ofNat (0x80 + n % 64)

def encodePoint (n : Nat) : Bytes :=
  if n < 0x80 then [UInt8.ofNat n]
  else if n < 0x800 then [UInt8.ofNat (0xc0 + n / 64), following n]
  else if n < 0x10000 then
    [UInt8.ofNat (0xe0 + n / 4096), following (n / 64), following n]
  else
    [UInt8.ofNat (0xf0 + n / 262144), following (n / 4096),
      following (n / 64), following n]

def toUtf8 : List UInt16 → Bytes
  | [] => []
  | high :: low :: rest =>
      if IsHigh high ∧ IsLow low then
        encodePoint (pairPoint high low) ++ toUtf8 rest
      else encodePoint high.toNat ++ toUtf8 (low :: rest)
  | [u] => encodePoint u.toNat

def collect (lead : Nat) (tail : Bytes) : Nat :=
  tail.foldl (fun n b => n * 64 + (b.toNat - 0x80)) lead

/-- The code point at the beginning of some bytes, in units, and the number of
its bytes behind the first one.  No byte is checked. -/
def word : Bytes → List UInt16 × Nat
  | [] => ([], 0)
  | b :: rest =>
      if b < 0x80 then (units b.toNat, 0)
      else if b < 0xe0 then (units (collect (b.toNat - 0xc0) (rest.take 1)), 1)
      else if b < 0xf0 then (units (collect (b.toNat - 0xe0) (rest.take 2)), 2)
      else (units (collect (b.toNat - 0xf0) (rest.take 3)), 3)

def fromUtf8 (text : Bytes) : List UInt16 :=
  readWords word 0 text

theorem toNat_following (n : Nat) : (following n).toNat = 0x80 + n % 64 := by
  rw [following, UInt8.toNat_ofNat']
  omega

theorem toNat_lead {first n : Nat} (bound : first + n < 256) :
    (UInt8.ofNat (first + n)).toNat = first + n := by
  rw [UInt8.toNat_ofNat']
  exact Nat.mod_eq_of_lt bound

theorem word_eq {b : UInt8} {tail : Bytes} {value : Nat} (rest : Bytes)
    (first : (b.toNat < 0x80 ∧ tail = [] ∧ value = b.toNat) ∨
      (0x80 ≤ b.toNat ∧ b.toNat < 0xe0 ∧ tail.length = 1 ∧
        value = collect (b.toNat - 0xc0) tail) ∨
      (0xe0 ≤ b.toNat ∧ b.toNat < 0xf0 ∧ tail.length = 2 ∧
        value = collect (b.toNat - 0xe0) tail) ∨
      0xf0 ≤ b.toNat ∧ tail.length = 3 ∧
        value = collect (b.toNat - 0xf0) tail) :
    word (b :: (tail ++ rest)) = (units value, tail.length) := by
  simp only [word, UInt8.lt_iff_toNat_lt, UInt8.reduceToNat]
  rcases first with ⟨small, none, same⟩ | ⟨least, most, length, same⟩ |
    ⟨least, most, length, same⟩ | ⟨least, length, same⟩
  · rw [if_pos small, none, same]
    rfl
  · rw [if_neg (by omega), if_pos most, List.take_left' length, same, length]
  · rw [if_neg (by omega), if_neg (by omega), if_pos most,
      List.take_left' length, same, length]
  · rw [if_neg (by omega), if_neg (by omega), if_neg (by omega),
      List.take_left' length, same, length]

theorem encodePoint_spec {n : Nat} (bound : n < 0x110000) (rest : Bytes) :
    ∃ b tail, encodePoint n = b :: tail ∧
      word (b :: (tail ++ rest)) = (units n, tail.length) := by
  unfold encodePoint
  split_ifs with one two three
  · have lead : (UInt8.ofNat n).toNat = n := by
      rw [UInt8.toNat_ofNat']
      omega
    exact ⟨_, [], rfl, word_eq rest (.inl ⟨by omega, rfl, lead.symm⟩)⟩
  · have lead := @toNat_lead 0xc0 (n / 64) (by omega)
    refine ⟨_, _, rfl, word_eq rest (.inr (.inl ⟨by omega, by omega, rfl, ?_⟩))⟩
    simp only [collect, List.foldl_cons, List.foldl_nil, toNat_following, lead]
    omega
  · have lead := @toNat_lead 0xe0 (n / 4096) (by omega)
    refine ⟨_, _, rfl,
      word_eq rest (.inr (.inr (.inl ⟨by omega, by omega, rfl, ?_⟩)))⟩
    simp only [collect, List.foldl_cons, List.foldl_nil, toNat_following, lead]
    omega
  · have lead := @toNat_lead 0xf0 (n / 262144) (by omega)
    refine ⟨_, _, rfl, word_eq rest (.inr (.inr (.inr ⟨by omega, rfl, ?_⟩)))⟩
    simp only [collect, List.foldl_cons, List.foldl_nil, toNat_following, lead]
    omega

theorem read_encodePoint {n : Nat} (bound : n < 0x110000) (rest : Bytes) :
    readWords word 0 (encodePoint n ++ rest) =
      units n ++ readWords word 0 rest := by
  obtain ⟨b, tail, isCode, isWord⟩ := encodePoint_spec bound rest
  rw [isCode, List.cons_append, readWords_cons isWord]

theorem units_toNat (u : UInt16) : units u.toNat = [u] := by
  have bound := u.toNat_lt
  rw [units, if_pos bound, UInt16.ofNat_toNat]

theorem pairPoint_bounds {high low : UInt16} (isHigh : IsHigh high)
    (isLow : IsLow low) :
    0x10000 ≤ pairPoint high low ∧ pairPoint high low < 0x110000 := by
  simp only [IsHigh, IsLow, UInt16.le_iff_toNat_le, UInt16.lt_iff_toNat_lt,
    UInt16.reduceToNat] at isHigh isLow
  unfold pairPoint
  omega

theorem units_pairPoint {high low : UInt16} (isHigh : IsHigh high)
    (isLow : IsLow low) : units (pairPoint high low) = [high, low] := by
  have bounds := pairPoint_bounds isHigh isLow
  simp only [IsHigh, IsLow, UInt16.le_iff_toNat_le, UInt16.lt_iff_toNat_lt,
    UInt16.reduceToNat] at isHigh isLow
  have first : 0xd800 + (pairPoint high low - 0x10000) / 0x400 =
      high.toNat := by
    unfold pairPoint
    omega
  have second : 0xdc00 + (pairPoint high low - 0x10000) % 0x400 =
      low.toNat := by
    unfold pairPoint
    omega
  rw [units, if_neg (by omega), first, second, UInt16.ofNat_toNat,
    UInt16.ofNat_toNat]

/-- A text is read back from its bytes. -/
theorem fromUtf8_toUtf8 (text : List UInt16) :
    fromUtf8 (toUtf8 text) = text := by
  unfold fromUtf8
  induction text using toUtf8.induct with
  | case1 => rfl
  | case2 high low rest pair induction =>
      rw [toUtf8, if_pos pair,
        read_encodePoint (pairPoint_bounds pair.1 pair.2).2, induction,
        units_pairPoint pair.1 pair.2]
      rfl
  | case3 high low rest single induction =>
      have bound := high.toNat_lt
      rw [toUtf8, if_neg single, read_encodePoint (by omega), induction,
        units_toNat]
      rfl
  | case4 u =>
      have bound := u.toNat_lt
      have whole := @read_encodePoint u.toNat (by omega) []
      rw [List.append_nil, units_toNat] at whole
      exact whole

/-! Texts put together. -/

theorem toUtf8_cons {u : UInt16} {rest : List UInt16}
    (single : ¬ (IsHigh u ∧ ∃ v, rest.head? = some v ∧ IsLow v)) :
    toUtf8 (u :: rest) = encodePoint u.toNat ++ toUtf8 rest := by
  cases rest with
  | nil => exact (List.append_nil _).symm
  | cons v rest =>
      rw [toUtf8, if_neg fun pair => single ⟨pair.1, v, rfl, pair.2⟩]

/-- Behind a text may follow what does not begin with the other half of a
pair. -/
theorem toUtf8_append {text rest : List UInt16}
    (boundary : ∀ v, rest.head? = some v → ¬ IsLow v) :
    toUtf8 (text ++ rest) = toUtf8 text ++ toUtf8 rest := by
  induction text using toUtf8.induct with
  | case1 => rfl
  | case2 high low text pair induction =>
      rw [List.cons_append, List.cons_append, toUtf8, if_pos pair, induction,
        toUtf8, if_pos pair, List.append_assoc]
  | case3 high low text single induction =>
      rw [List.cons_append, List.cons_append, toUtf8, if_neg single,
        ← List.cons_append, induction, toUtf8, if_neg single, List.append_assoc]
  | case4 u =>
      rw [List.singleton_append, toUtf8_cons]
      · rfl
      · intro pair
        obtain ⟨_, v, head, isLow⟩ := pair
        exact boundary v head isLow

theorem encodePoint_ascii {u : UInt16} (ascii : u < 0x80) :
    encodePoint u.toNat = [u.toUInt8] := by
  have small : u.toNat < 0x80 := UInt16.lt_iff_toNat_lt.mp ascii
  rw [encodePoint, if_pos small]
  rfl

theorem not_isHigh_of_ascii {u : UInt16} (ascii : u < 0x80) : ¬ IsHigh u := by
  simp only [IsHigh, UInt16.le_iff_toNat_le, UInt16.lt_iff_toNat_lt,
    UInt16.reduceToNat] at ascii ⊢
  omega

theorem toUtf8_ascii_append {text : List UInt16}
    (ascii : ∀ u ∈ text, u < 0x80) (rest : List UInt16) :
    toUtf8 (text ++ rest) = text.map UInt16.toUInt8 ++ toUtf8 rest := by
  induction text with
  | nil => rfl
  | cons u text induction =>
      obtain ⟨first, others⟩ := List.forall_mem_cons.mp ascii
      rw [List.cons_append, toUtf8_cons fun pair =>
        not_isHigh_of_ascii first pair.1, encodePoint_ascii first,
        induction others]
      rfl

theorem le_following (n : Nat) : 0x80 ≤ following n := by
  rw [UInt8.le_iff_toNat_le, toNat_following]
  exact Nat.le_add_right _ _

theorem le_lead {first n : Nat} (least : 0x80 ≤ first)
    (bound : first + n < 256) : 0x80 ≤ UInt8.ofNat (first + n) := by
  rw [UInt8.le_iff_toNat_le, toNat_lead bound]
  exact Nat.le_trans least (Nat.le_add_right _ _)

theorem le_of_mem_encodePoint {n : Nat} (large : 0x80 ≤ n)
    (bound : n < 0x110000) : ∀ b ∈ encodePoint n, 0x80 ≤ b := by
  unfold encodePoint
  split_ifs with one two three
  · omega
  · simp only [List.forall_mem_cons]
    exact ⟨le_lead (by decide) (by omega), le_following _, nofun⟩
  · simp only [List.forall_mem_cons]
    exact ⟨le_lead (by decide) (by omega), le_following _, le_following _,
      nofun⟩
  · simp only [List.forall_mem_cons]
    exact ⟨le_lead (by decide) (by omega), le_following _, le_following _,
      le_following _, nofun⟩

end ServicePortScanner.Data.Utf16
