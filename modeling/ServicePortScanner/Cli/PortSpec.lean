import Mathlib.Data.List.TakeWhile
import ServicePortScanner.Data.Bytes
import ServicePortScanner.Data.SortedSet

namespace ServicePortScanner.Cli

open ServicePortScanner.Data

/-! Port specifications such as `22,80-82`. -/

def signed (negative : Bool) (n : Nat) : Int :=
  if negative then -n else n

/-- The digits at the start of a text as an `int`, and the text behind them. -/
def readDigits (negative : Bool) (text : Bytes) : Option (Int × Bytes) :=
  let digits := text.takeWhile fun b => decide (IsDigit b)
  let value := signed negative (decimalValue digits)
  if digits = [] ∨ value < -2147483648 ∨ 2147483647 < value then none
  else some (value, text.dropWhile fun b => decide (IsDigit b))

/-- `std::from_chars` of an `int` in base ten; `none` is an error code. -/
def fromChars (text : Bytes) : Option (Int × Bytes) :=
  if text.head? = some 0x2d then readDigits true (text.drop 1)
  else readDigits false text

def parseUint16 (s : Bytes) : Option UInt16 :=
  match fromChars s with
  | none => none
  | some (v, rest) =>
      if rest ≠ [] then none
      else if v < 1 ∨ 65535 < v then none
      else some (UInt16.ofNat v.toNat)

/-- The loop over the ports from `lo` to `hi`. -/
def insertRange (set : SortedSet UInt16) (lo hi : UInt16) : SortedSet UInt16 :=
  (List.range' lo.toNat (hi.toNat + 1 - lo.toNat)).foldl
    (fun set p => set.insert (UInt16.ofNat p)) set

def flush (set : SortedSet UInt16) (tok : Bytes) : Option (SortedSet UInt16) :=
  if tok = [] then some set
  else
    match tok.findIdx? (· = 0x2d) with
    | none => (parseUint16 tok).map set.insert
    | some dash =>
        match parseUint16 (tok.take dash), parseUint16 (tok.drop (dash + 1)) with
        | some lo, some hi =>
            some (if hi < lo then insertRange set hi lo
              else insertRange set lo hi)
        | _, _ => none

/-- The loop over the text, with the `piece` that was read since the last
comma. -/
def expandFrom (set : SortedSet UInt16) (piece : Bytes) : Bytes → List UInt16
  | [] =>
      match flush set piece with
      | none => []
      | some set => set.toList
  | c :: rest =>
      if c = 0x2c then
        match flush set piece with
        | none => []
        | some set => expandFrom set [] rest
      else expandFrom set (piece ++ [c]) rest

def expandPortSpec (spec : Bytes) : List UInt16 :=
  expandFrom .empty [] spec

/-! What a specification denotes. -/

structure Numeral (text : Bytes) (n : Nat) : Prop where
  nonempty : text ≠ []
  digits : ∀ b ∈ text, IsDigit b
  value : decimalValue text = n
  positive : 1 ≤ n
  small : n ≤ 65535

def Range (token : Bytes) (a b : Nat) : Prop :=
  ∃ left right, token = left ++ 0x2d :: right ∧ Numeral left a ∧ Numeral right b

def Valid (token : Bytes) : Prop :=
  (∃ n, Numeral token n) ∨ ∃ a b, Range token a b

def Covers (token : Bytes) (p : Nat) : Prop :=
  Numeral token p ∨ ∃ a b, Range token a b ∧ min a b ≤ p ∧ p ≤ max a b

def tokens (spec : Bytes) : List Bytes :=
  (spec.splitOn 0x2c).filter (· ≠ [])

theorem Numeral.avoids_dash {text : Bytes} {n : Nat} (numeral : Numeral text n) :
    0x2d ∉ text := by
  intro member
  exact absurd (numeral.digits _ member) (by decide)

/-- The numbers of a range are read at its first dash. -/
theorem range_iff {left right : Bytes} (absent : 0x2d ∉ left) {a b : Nat} :
    Range (left ++ 0x2d :: right) a b ↔ Numeral left a ∧ Numeral right b := by
  constructor
  · intro found
    obtain ⟨first, second, same, firstNumeral, secondNumeral⟩ := found
    have place := congrArg (List.findIdx? (· = 0x2d)) same
    rw [findIdx?_append_cons absent,
      findIdx?_append_cons firstNumeral.avoids_dash] at place
    obtain ⟨fronts, backs⟩ := List.append_inj same (Option.some.inj place)
    rw [fronts, (List.cons.inj backs).2]
    exact ⟨firstNumeral, secondNumeral⟩
  · intro numerals
    exact ⟨left, right, rfl, numerals⟩

theorem not_range_of_avoids {token : Bytes} (absent : 0x2d ∉ token) (a b : Nat) :
    ¬ Range token a b := by
  intro found
  obtain ⟨left, right, rfl, _, _⟩ := found
  exact absent (List.mem_append_right _ List.mem_cons_self)

theorem Covers.positive {token : Bytes} {p : Nat} (covers : Covers token p) :
    1 ≤ p := by
  rcases covers with numeral | ⟨a, b, ⟨_, _, _, left, right⟩, least, _⟩
  · exact numeral.positive
  · have := left.positive
    have := right.positive
    omega

/-! Reading one number. -/

theorem readDigits_nil_iff {negative : Bool} {text : Bytes} {v : Int} :
    readDigits negative text = some (v, []) ↔
      text ≠ [] ∧ (∀ b ∈ text, IsDigit b) ∧
        v = signed negative (decimalValue text) ∧
        -2147483648 ≤ v ∧ v ≤ 2147483647 := by
  have nothingLeft : text.dropWhile (fun b => decide (IsDigit b)) = [] ↔
      ∀ b ∈ text, IsDigit b := by
    rw [List.dropWhile_eq_nil_iff]
    exact forall₂_congr fun b _ => decide_eq_true_iff
  have everything (digits : ∀ b ∈ text, IsDigit b) :
      text.takeWhile (fun b => decide (IsDigit b)) = text :=
    List.takeWhile_eq_self_iff.mpr fun b member =>
      decide_eq_true (digits b member)
  unfold readDigits
  dsimp only
  constructor
  · intro parsed
    split at parsed
    next => cases parsed
    next accepted =>
      obtain ⟨value, left⟩ := Prod.mk.inj (Option.some.inj parsed)
      have digits := nothingLeft.mp left
      rw [everything digits] at value accepted
      rw [value, not_or, not_or, Int.not_lt, Int.not_lt] at accepted
      exact ⟨accepted.1, digits, value.symm, accepted.2⟩
  · intro found
    obtain ⟨nonempty, digits, rfl, least, most⟩ := found
    rw [everything digits, nothingLeft.mpr digits, if_neg]
    rw [not_or, not_or, Int.not_lt, Int.not_lt]
    exact ⟨nonempty, least, most⟩

theorem parseUint16_eq_some_iff {s : Bytes} {p : UInt16} :
    parseUint16 s = some p ↔
      ∃ v, fromChars s = some (v, []) ∧ 1 ≤ v ∧ v ≤ 65535 ∧
        v = (p.toNat : Int) := by
  have port (v : Int) (positive : 1 ≤ v) (small : v ≤ 65535) :
      ((UInt16.ofNat v.toNat).toNat : Int) = v := by
    rw [UInt16.toNat_ofNat_of_lt' (by unfold UInt16.size; omega)]
    omega
  unfold parseUint16
  constructor
  · intro parsed
    split at parsed
    next => cases parsed
    next v rest same =>
      split at parsed
      next => cases parsed
      next whole =>
        split at parsed
        next => cases parsed
        next inside =>
          rw [Decidable.not_not] at whole
          rw [not_or, Int.not_lt, Int.not_lt] at inside
          rw [whole] at same
          cases Option.some.inj parsed
          exact ⟨v, same, inside.1, inside.2, (port v inside.1 inside.2).symm⟩
  · intro found
    obtain ⟨v, same, positive, small, value⟩ := found
    rw [same]
    dsimp only
    rw [if_neg (not_not.mpr rfl), if_neg (by omega), value, Int.toNat_natCast,
      UInt16.ofNat_toNat]

/-- A number is read exactly if it is a numeral: a sign leaves no value above
zero. -/
theorem parseUint16_iff {s : Bytes} {p : UInt16} :
    parseUint16 s = some p ↔ Numeral s p.toNat := by
  rw [parseUint16_eq_some_iff]
  unfold fromChars
  by_cases negative : s.head? = some 0x2d
  · rw [if_pos negative]
    obtain ⟨rest, rfl⟩ := List.head?_eq_some_iff.mp negative
    constructor
    · intro found
      obtain ⟨v, parsed, positive, _⟩ := found
      obtain ⟨_, _, value, _⟩ := readDigits_nil_iff.mp parsed
      rw [signed, if_pos rfl] at value
      omega
    · intro numeral
      exact absurd List.mem_cons_self numeral.avoids_dash
  · rw [if_neg negative]
    constructor
    · intro found
      obtain ⟨v, parsed, positive, small, port⟩ := found
      obtain ⟨nonempty, digits, value, _⟩ := readDigits_nil_iff.mp parsed
      rw [signed, if_neg Bool.false_ne_true] at value
      exact ⟨nonempty, digits, by omega, by omega, by omega⟩
    · intro numeral
      have positive := numeral.positive
      have small := numeral.small
      refine ⟨p.toNat, readDigits_nil_iff.mpr ⟨numeral.nonempty, numeral.digits,
        ?_, by omega, by omega⟩, by omega, by omega, rfl⟩
      rw [signed, if_neg Bool.false_ne_true, numeral.value]

/-- Every numeral is that of a port. -/
theorem Numeral.port {text : Bytes} {n : Nat} (numeral : Numeral text n) :
    parseUint16 text = some (UInt16.ofNat n) := by
  have small := numeral.small
  rw [parseUint16_iff, UInt16.toNat_ofNat_of_lt' (by unfold UInt16.size; omega)]
  exact numeral

theorem parseUint16_eq_none_iff {s : Bytes} :
    parseUint16 s = none ↔ ¬ ∃ n, Numeral s n := by
  rw [Option.eq_none_iff_forall_ne_some]
  constructor
  · intro none found
    obtain ⟨n, numeral⟩ := found
    exact none _ numeral.port
  · intro none p parsed
    exact none ⟨p.toNat, parseUint16_iff.mp parsed⟩

theorem mem_insertRange {set : SortedSet UInt16} {lo hi p : UInt16} :
    p ∈ insertRange set lo hi ↔ p ∈ set ∨ lo ≤ p ∧ p ≤ hi := by
  unfold insertRange
  rw [SortedSet.mem_foldl_insert, UInt16.le_iff_toNat_le, UInt16.le_iff_toNat_le]
  apply or_congr_right
  constructor
  · intro found
    obtain ⟨q, member, rfl⟩ := found
    obtain ⟨least, less⟩ := List.mem_range'_1.mp member
    have bound := hi.toNat_lt
    rw [UInt16.toNat_ofNat_of_lt' (by unfold UInt16.size; omega)]
    omega
  · intro found
    obtain ⟨least, most⟩ := found
    refine ⟨p.toNat, List.mem_range'_1.mpr ?_, UInt16.ofNat_toNat.symm⟩
    omega

/-! One token. -/

/-- A token is refused exactly if it is not valid, and a valid one adds the
ports that it covers. -/
def Adds (set : SortedSet UInt16) (tok : Bytes)
    (outcome : Option (SortedSet UInt16)) : Prop :=
  (outcome = none ∧ ¬ Valid tok) ∨
    ∃ next, outcome = some next ∧ Valid tok ∧
      ∀ p, p ∈ next ↔ p ∈ set ∨ Covers tok p.toNat

theorem adds_number (set : SortedSet UInt16) {tok : Bytes}
    (absent : 0x2d ∉ tok) :
    Adds set tok ((parseUint16 tok).map set.insert) := by
  have noRange := not_range_of_avoids absent
  cases parsed : parseUint16 tok with
  | none =>
      apply Or.inl
      refine ⟨rfl, ?_⟩
      intro either
      rcases either with numeral | ⟨a, b, range⟩
      · exact parseUint16_eq_none_iff.mp parsed numeral
      · exact noRange a b range
  | some port =>
      apply Or.inr
      have numeral := parseUint16_iff.mp parsed
      refine ⟨set.insert port, rfl, .inl ⟨_, numeral⟩, ?_⟩
      intro p
      rw [SortedSet.mem_insert, or_comm]
      apply or_congr_right
      constructor
      · intro same
        rw [same]
        exact .inl numeral
      · intro covers
        rcases covers with other | ⟨a, b, range, _⟩
        · exact UInt16.toNat_inj.mp (other.value.symm.trans numeral.value)
        · exact absurd range (noRange a b)

section

variable {left right : Bytes}

theorem not_numeral_of_dash (n : Nat) : ¬ Numeral (left ++ 0x2d :: right) n := by
  intro numeral
  exact numeral.avoids_dash (List.mem_append_right _ List.mem_cons_self)

theorem covers_range_iff (absent : 0x2d ∉ left) {lo hi p : Nat}
    (lower : Numeral left lo) (upper : Numeral right hi) :
    Covers (left ++ 0x2d :: right) p ↔ min lo hi ≤ p ∧ p ≤ max lo hi := by
  constructor
  · intro covers
    rcases covers with numeral | ⟨a, b, range, between⟩
    · exact absurd numeral (not_numeral_of_dash p)
    · obtain ⟨first, second⟩ := (range_iff absent).mp range
      rw [← first.value, ← second.value, lower.value, upper.value] at between
      exact between
  · intro between
    exact .inr ⟨lo, hi, (range_iff absent).mpr ⟨lower, upper⟩, between⟩

/-- The ends of a range may stand in either order. -/
theorem mem_insertRange_swap {set : SortedSet UInt16} {lo hi p : UInt16} :
    p ∈ (if hi < lo then insertRange set hi lo else insertRange set lo hi) ↔
      p ∈ set ∨
        min lo.toNat hi.toNat ≤ p.toNat ∧ p.toNat ≤ max lo.toNat hi.toNat := by
  split
  next swapped =>
    rw [UInt16.lt_iff_toNat_lt] at swapped
    rw [mem_insertRange, UInt16.le_iff_toNat_le, UInt16.le_iff_toNat_le,
      Nat.min_eq_right (Nat.le_of_lt swapped),
      Nat.max_eq_left (Nat.le_of_lt swapped)]
  next ordered =>
    rw [UInt16.lt_iff_toNat_lt, Nat.not_lt] at ordered
    rw [mem_insertRange, UInt16.le_iff_toNat_le, UInt16.le_iff_toNat_le,
      Nat.min_eq_left ordered, Nat.max_eq_right ordered]

theorem adds_range (set : SortedSet UInt16) (absent : 0x2d ∉ left) :
    Adds set (left ++ 0x2d :: right)
      (match parseUint16 left, parseUint16 right with
        | some lo, some hi =>
            some (if hi < lo then insertRange set hi lo
              else insertRange set lo hi)
        | _, _ => none) := by
  split
  next lo hi low high =>
    apply Or.inr
    have lower := parseUint16_iff.mp low
    have upper := parseUint16_iff.mp high
    have range := (range_iff absent).mpr ⟨lower, upper⟩
    refine ⟨_, rfl, .inr ⟨_, _, range⟩, ?_⟩
    intro p
    rw [mem_insertRange_swap, covers_range_iff absent lower upper]
  next refused =>
    apply Or.inl
    refine ⟨rfl, ?_⟩
    intro either
    rcases either with ⟨n, numeral⟩ | ⟨a, b, range⟩
    · exact not_numeral_of_dash n numeral
    · obtain ⟨first, second⟩ := (range_iff absent).mp range
      exact refused _ _ first.port second.port

end

theorem flush_adds (set : SortedSet UInt16) {tok : Bytes} (nonempty : tok ≠ []) :
    Adds set tok (flush set tok) := by
  unfold flush
  rw [if_neg nonempty]
  split
  next absent =>
    apply adds_number
    intro member
    exact of_decide_eq_false (List.findIdx?_eq_none_iff.mp absent _ member) rfl
  next dash found =>
    obtain ⟨split, absent⟩ := eq_append_cons_of_findIdx? found
    have range : Adds set (tok.take dash ++ 0x2d :: tok.drop (dash + 1)) _ :=
      adds_range set absent
    rw [← split] at range
    exact range

/-! All tokens. -/

theorem flush_nil (set : SortedSet UInt16) : flush set [] = some set := rfl

/-- The loop hands over the pieces between the commas one after another. -/
theorem expandFrom_eq {piece : Bytes} (absent : 0x2c ∉ piece) (rest : Bytes)
    (set : SortedSet UInt16) :
    expandFrom set piece rest =
      match ((piece ++ rest).splitOn 0x2c).foldlM flush set with
      | none => []
      | some set => set.toList := by
  induction rest generalizing piece set with
  | nil =>
      rw [List.append_nil, List.splitOn_eq_singleton absent, List.foldlM_cons,
        expandFrom]
      cases flush set piece with
      | none => rfl
      | some next => rfl
  | cons c rest induction =>
      unfold expandFrom
      by_cases comma : c = 0x2c
      · rw [if_pos comma, comma, List.splitOn_append_cons_self_of_not_mem absent,
          List.foldlM_cons]
        cases flush set piece with
        | none => rfl
        | some next => exact induction List.not_mem_nil next
      · have stillAbsent : (0x2c : UInt8) ∉ piece ++ [c] := by
          rw [List.mem_append, List.mem_singleton, not_or]
          exact ⟨absent, fun same => comma same.symm⟩
        rw [if_neg comma, induction stillAbsent, List.append_assoc,
          List.singleton_append]

theorem foldlM_flush_spec (pieces : List Bytes) (set : SortedSet UInt16) :
    (pieces.foldlM flush set = none ∧
        ∃ tok ∈ pieces.filter (· ≠ []), ¬ Valid tok) ∨
      ∃ next, pieces.foldlM flush set = some next ∧
        (∀ tok ∈ pieces.filter (· ≠ []), Valid tok) ∧
        ∀ p, p ∈ next ↔
          p ∈ set ∨ ∃ tok ∈ pieces.filter (· ≠ []), Covers tok p.toNat := by
  induction pieces generalizing set with
  | nil => exact .inr ⟨set, rfl, by simp, by simp⟩
  | cons tok pieces induction =>
      rw [List.foldlM_cons]
      by_cases empty : tok = []
      · rw [empty, flush_nil, List.filter_cons_of_neg (by simp)]
        exact induction set
      · rw [List.filter_cons_of_pos (by simpa using empty)]
        rcases flush_adds set empty with
          ⟨refused, invalid⟩ | ⟨next, accepted, valid, members⟩
        · rw [refused]
          exact .inl ⟨rfl, tok, List.mem_cons_self, invalid⟩
        · rw [accepted]
          rcases induction next with
            ⟨refused, bad, member, invalid⟩ | ⟨last, reached, allValid, all⟩
          · exact .inl ⟨refused, bad, List.mem_cons_of_mem _ member, invalid⟩
          · refine .inr ⟨last, reached, List.forall_mem_cons.mpr
              ⟨valid, allValid⟩, ?_⟩
            intro p
            rw [all p, members p, List.exists_mem_cons_iff, or_assoc]

theorem expandPortSpec_cases (spec : Bytes) :
    (expandPortSpec spec = [] ∧ ∃ tok ∈ tokens spec, ¬ Valid tok) ∨
      ∃ set : SortedSet UInt16, expandPortSpec spec = set.toList ∧
        (∀ tok ∈ tokens spec, Valid tok) ∧
        ∀ p, p ∈ set ↔ ∃ tok ∈ tokens spec, Covers tok p.toNat := by
  unfold expandPortSpec
  rw [expandFrom_eq List.not_mem_nil, List.nil_append]
  rcases foldlM_flush_spec (spec.splitOn 0x2c) .empty with
    ⟨refused, invalid⟩ | ⟨set, reached, valid, members⟩
  · rw [refused]
    exact .inl ⟨rfl, invalid⟩
  · rw [reached]
    refine .inr ⟨set, rfl, valid, ?_⟩
    intro p
    rw [members p, or_iff_right (SortedSet.not_mem_empty p)]
    rfl

theorem expandPortSpec_of_invalid {spec : Bytes}
    (invalid : ∃ tok ∈ tokens spec, ¬ Valid tok) : expandPortSpec spec = [] := by
  rcases expandPortSpec_cases spec with ⟨empty, _⟩ | ⟨_, _, valid, _⟩
  · exact empty
  · obtain ⟨tok, member, bad⟩ := invalid
    exact absurd (valid tok member) bad

theorem expandPortSpec_of_valid {spec : Bytes}
    (valid : ∀ tok ∈ tokens spec, Valid tok) :
    ∃ set : SortedSet UInt16, expandPortSpec spec = set.toList ∧
      ∀ p, p ∈ set ↔ ∃ tok ∈ tokens spec, Covers tok p.toNat := by
  rcases expandPortSpec_cases spec with
    ⟨_, tok, member, bad⟩ | ⟨set, reached, _, members⟩
  · exact absurd (valid tok member) bad
  · exact ⟨set, reached, members⟩

/-- The ports depend only on which tokens there are. -/
theorem expandPortSpec_congr {first second : Bytes}
    (same : ∀ tok, tok ∈ tokens first ↔ tok ∈ tokens second) :
    expandPortSpec first = expandPortSpec second := by
  by_cases valid : ∀ tok ∈ tokens first, Valid tok
  · have validSecond : ∀ tok ∈ tokens second, Valid tok := by
      intro tok member
      exact valid tok ((same tok).mpr member)
    obtain ⟨firstSet, firstReached, firstMembers⟩ := expandPortSpec_of_valid valid
    obtain ⟨secondSet, secondReached, secondMembers⟩ :=
      expandPortSpec_of_valid validSecond
    have sets : firstSet = secondSet := by
      apply SortedSet.ext
      intro p
      rw [firstMembers, secondMembers]
      exact exists_congr fun tok => and_congr_left' (same tok)
    rw [firstReached, secondReached, sets]
  · have invalid : ∃ tok ∈ tokens first, ¬ Valid tok := by
      simpa only [not_forall, exists_prop] using valid
    obtain ⟨tok, member, bad⟩ := invalid
    rw [expandPortSpec_of_invalid ⟨tok, member, bad⟩,
      expandPortSpec_of_invalid ⟨tok, (same tok).mp member, bad⟩]

/-! A list of ports, written out again. -/

def joined (ports : List UInt16) : Bytes :=
  [0x2c].intercalate (ports.map fun p => decimal p.toNat)

theorem tokens_joined (ports : List UInt16) :
    tokens (joined ports) = ports.map fun p => decimal p.toNat := by
  have comma : (0x2c : UInt8) ∉ ([] : Bytes) := List.not_mem_nil
  unfold tokens joined
  by_cases nothing : ports = []
  · rw [nothing]
    simp [List.splitOn_eq_singleton comma]
  · rw [List.splitOn_intercalate]
    · rw [List.filter_eq_self]
      intro tok member
      obtain ⟨p, _, rfl⟩ := List.mem_map.mp member
      exact decide_eq_true (decimal_ne_nil _)
    · intro tok member
      obtain ⟨p, _, rfl⟩ := List.mem_map.mp member
      exact decimal_avoids (by decide)
    · simpa using nothing

theorem numeral_decimal {n : Nat} (positive : 1 ≤ n) (small : n ≤ 65535) :
    Numeral (decimal n) n where
  nonempty := decimal_ne_nil n
  digits := fun _ member => isDigit_of_mem_decimal member
  value := decimalValue_decimal n
  positive := positive
  small := small

theorem covers_decimal {n p : Nat} (covers : Covers (decimal n) p) : p = n := by
  rcases covers with numeral | ⟨a, b, range, _⟩
  · exact numeral.value.symm.trans (decimalValue_decimal n)
  · exact absurd range (not_range_of_avoids (decimal_avoids (by decide)) a b)

theorem expandPortSpec_joined (spec : Bytes) :
    expandPortSpec (joined (expandPortSpec spec)) = expandPortSpec spec := by
  rcases expandPortSpec_cases spec with ⟨empty, _⟩ | ⟨set, reached, _, members⟩
  · rw [empty]
    rfl
  · have numeral : ∀ p ∈ set.toList, Numeral (decimal p.toNat) p.toNat := by
      intro p member
      obtain ⟨tok, _, covers⟩ := (members p).mp member
      have := p.toNat_lt
      exact numeral_decimal covers.positive (by omega)
    have valid : ∀ tok ∈ tokens (joined set.toList), Valid tok := by
      intro tok member
      rw [tokens_joined] at member
      obtain ⟨p, inSet, rfl⟩ := List.mem_map.mp member
      exact .inl ⟨_, numeral p inSet⟩
    obtain ⟨again, reachedAgain, membersAgain⟩ := expandPortSpec_of_valid valid
    have sets : again = set := by
      apply SortedSet.ext
      intro p
      rw [membersAgain, tokens_joined]
      constructor
      · intro found
        obtain ⟨tok, member, covers⟩ := found
        obtain ⟨q, inSet, rfl⟩ := List.mem_map.mp member
        rw [UInt16.toNat_inj.mp (covers_decimal covers)]
        exact inSet
      · intro member
        exact ⟨_, List.mem_map.mpr ⟨p, member, rfl⟩, .inl (numeral p member)⟩
    rw [reached, reachedAgain, sets]

/-- A specification denotes the ports of its tokens, in ascending order, or
nothing if one token is invalid. -/
theorem expandPortSpec_denotes (spec : Bytes) :
    ((∃ tok ∈ tokens spec, ¬ Valid tok) → expandPortSpec spec = []) ∧
      ((∀ tok ∈ tokens spec, Valid tok) →
        (expandPortSpec spec).Pairwise (· < ·) ∧
          ∀ p, p ∈ expandPortSpec spec ↔
            ∃ tok ∈ tokens spec, Covers tok p.toNat) ∧
      (∀ other, (∀ tok, tok ∈ tokens spec ↔ tok ∈ tokens other) →
        expandPortSpec spec = expandPortSpec other) ∧
      expandPortSpec (joined (expandPortSpec spec)) = expandPortSpec spec := by
  refine ⟨expandPortSpec_of_invalid, ?_, fun _ => expandPortSpec_congr,
    expandPortSpec_joined spec⟩
  intro valid
  obtain ⟨set, reached, members⟩ := expandPortSpec_of_valid valid
  rw [reached]
  exact ⟨set.ascending, members⟩

example : expandPortSpec (bytes "22,0080-82,,81") = [22, 80, 81, 82] := by
  decide +kernel

example : expandPortSpec (bytes "80,1--5") = [] := by
  decide +kernel

end ServicePortScanner.Cli
