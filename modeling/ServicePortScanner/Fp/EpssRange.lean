import ServicePortScanner.Core.ExtendedFloating
import ServicePortScanner.Fp.EpssDatabase

namespace ServicePortScanner.Fp

open ServicePortScanner.Data ServicePortScanner.Core

/-! Whether the values of the database are probabilities. -/

section

variable {F : Type} [Floating F] (convert : Reading → F)

/-- `convert` is the rounding of what has been read to a `double`. -/
def parseDouble (s : Bytes) : Option F :=
  if s.isEmpty then none else (strtod s).map convert

omit [Floating F] in
theorem parseDouble_eq (s : Bytes) :
    parseDouble convert s = (strtod s).map convert := by
  unfold parseDouble
  split
  · next empty =>
      rw [List.isEmpty_iff.mp empty]
      rfl
  · rfl

end

/-! The lines of a feed that have an entry to offer. -/

/-- The line begins like an id and has three columns. -/
structure DataLine (line cve epssS pctS : Bytes) : Prop where
  looksLikeCve : looksLikeCve line = true
  columns : line = cve ++ 0x2c :: (epssS ++ 0x2c :: pctS)
  first : 0x2c ∉ cve
  second : 0x2c ∉ epssS

theorem splitColumns_eq_some_iff (line cve epssS pctS : Bytes) :
    splitColumns line = some (cve, epssS, pctS) ↔
      line = cve ++ 0x2c :: (epssS ++ 0x2c :: pctS) ∧
        0x2c ∉ cve ∧ 0x2c ∉ epssS := by
  unfold splitColumns
  constructor
  · intro split
    split at split
    · cases split
    · next c1 found =>
        dsimp only at split
        split at split
        · cases split
        · next c2 found' =>
            obtain ⟨cut, first⟩ := eq_append_cons_of_findIdx? found
            obtain ⟨cut', second⟩ := eq_append_cons_of_findIdx? found'
            cases split
            refine ⟨?_, first, second⟩
            rw [← cut', ← cut]
  · rintro ⟨rfl, first, second⟩
    have drop : (cve ++ 0x2c :: (epssS ++ 0x2c :: pctS)).drop
        (cve.length + 1) = epssS ++ 0x2c :: pctS := by
      simp
    have drop' : (epssS ++ 0x2c :: pctS).drop (epssS.length + 1) = pctS := by
      simp
    simp only [findIdx?_append_cons first, drop, findIdx?_append_cons second,
      drop', List.take_left']

section

variable {F : Type} [Floating F] (convert : Reading → F)

theorem not_comment_of_looksLikeCve {line : Bytes}
    (looks : looksLikeCve line = true) :
    line.isEmpty = false ∧ line.head? ≠ some 0x23 := by
  simp only [looksLikeCve, decide_eq_true_eq] at looks
  obtain ⟨_, front, _⟩ := looks
  cases line with
  | nil => simp at front
  | cons c line =>
      refine ⟨rfl, ?_⟩
      rintro comment
      cases comment
      simp at front

theorem lineEntry_eq_some_iff (line id : Bytes) (entry : EpssEntry F) :
    lineEntry (parseDouble convert) line = some (id, entry) ↔
      ∃ cve epssS pctS reading, DataLine line cve epssS pctS ∧
        strtod epssS = some reading ∧ id = toUpper cve ∧
        entry = ⟨convert reading,
          ((strtod pctS).map convert).getD (Floating.literal 0)⟩ := by
  unfold lineEntry
  constructor
  · intro accepted
    split at accepted
    · cases accepted
    · split at accepted
      · cases accepted
      · split at accepted
        · cases accepted
        · next looks =>
            split at accepted
            · cases accepted
            · next cve epssS pctS columns =>
                split at accepted
                · cases accepted
                · next epss read =>
                    rw [parseDouble_eq] at read
                    obtain ⟨reading, converted, rfl⟩ :=
                      Option.map_eq_some_iff.mp read
                    cases accepted
                    rw [parseDouble_eq]
                    obtain ⟨shape, first, second⟩ :=
                      (splitColumns_eq_some_iff line cve epssS pctS).mp columns
                    exact ⟨cve, epssS, pctS, reading,
                      ⟨by simpa using looks, shape, first, second⟩, converted,
                      rfl, rfl⟩
  · rintro ⟨cve, epssS, pctS, reading, data, read, rfl, rfl⟩
    have columns := (splitColumns_eq_some_iff line cve epssS pctS).mpr
      ⟨data.columns, data.first, data.second⟩
    obtain ⟨nonempty, notComment⟩ :=
      not_comment_of_looksLikeCve data.looksLikeCve
    simp [nonempty, notComment, data.looksLikeCve, columns, parseDouble_eq,
      read]

end

/-- No line before this one has a number for the same id. -/
def FirstLine (text cve epssS pctS : Bytes) : Prop :=
  ∃ before line after, text.splitOn 0x0a = before ++ line :: after ∧
    DataLine (trim line) cve epssS pctS ∧ BeginsNumber epssS ∧
    ∀ earlier ∈ before, ∀ cve' epssS' pctS',
      DataLine (trim earlier) cve' epssS' pctS' → BeginsNumber epssS' →
      toUpper cve' ≠ toUpper cve

section

variable {F : Type} [Floating F] (convert : Reading → F)

/-- The entries of the map are those of the first lines. -/
theorem lookup_parse_eq_some_iff (text id : Bytes) (entry : EpssEntry F) :
    (EpssDb.parse (parseDouble convert) text).map.lookup id = some entry ↔
      ∃ cve epssS pctS reading, FirstLine text cve epssS pctS ∧
        strtod epssS = some reading ∧ id = toUpper cve ∧
        entry = ⟨convert reading,
          ((strtod pctS).map convert).getD (Floating.literal 0)⟩ := by
  rw [EpssDb.parse_map, lookup_emplaceAll, List.lookup_nil, Option.none_or,
    List.lookup_eq_some_iff]
  unfold acceptedEntries
  constructor
  · rintro ⟨front, back, entries, others⟩
    obtain ⟨before, rest, lines, inFront, inRest⟩ :=
      List.filterMap_eq_append_iff.mp entries
    obtain ⟨skipped, line, after, rest, none, accepted, _⟩ :=
      List.filterMap_eq_cons_iff.mp inRest
    obtain ⟨cve, epssS, pctS, reading, data, read, named, made⟩ :=
      (lineEntry_eq_some_iff convert (trim line) id entry).mp accepted
    have begins := (beginsNumber_iff epssS).mpr ⟨reading, read⟩
    refine ⟨cve, epssS, pctS, reading, ⟨before ++ skipped, line, after, ?_,
      data, begins, ?_⟩, read, named, made⟩
    · rw [lines, rest, List.append_assoc]
    · intro earlier member cve' epssS' pctS' data' begins'
      obtain ⟨reading', read'⟩ := (beginsNumber_iff epssS').mp begins'
      have accepted' := (lineEntry_eq_some_iff convert (trim earlier) _ _).mpr
        ⟨cve', epssS', pctS', reading', data', read', rfl, rfl⟩
      rcases List.mem_append.mp member with early | late
      · have inEntries : _ ∈ before.filterMap fun line =>
            lineEntry (parseDouble convert) (trim line) :=
          List.mem_filterMap.mpr ⟨earlier, early, accepted'⟩
        rw [inFront] at inEntries
        have other := others _ inEntries
        rw [named] at other
        simpa using Ne.symm (bne_iff_ne.mp other)
      · rw [none earlier late] at accepted'
        cases accepted'
  · rintro ⟨cve, epssS, pctS, reading, ⟨before, line, after, lines, data,
      begins, others⟩, read, rfl, rfl⟩
    have accepted := (lineEntry_eq_some_iff convert (trim line) _ _).mpr
      ⟨cve, epssS, pctS, reading, data, read, rfl, rfl⟩
    rw [lines, List.filterMap_append, List.filterMap_cons_some
      (f := fun line => lineEntry (parseDouble convert) (trim line)) accepted]
    refine ⟨_, _, rfl, ?_⟩
    rintro ⟨id', entry'⟩ member
    obtain ⟨earlier, early, accepted'⟩ := List.mem_filterMap.mp member
    obtain ⟨cve', epssS', pctS', reading', data', read', rfl, _⟩ :=
      (lineEntry_eq_some_iff convert (trim earlier) id' entry').mp accepted'
    have begins' := (beginsNumber_iff epssS').mpr ⟨reading', read'⟩
    exact bne_iff_ne.mpr
      (Ne.symm (others earlier early cve' epssS' pctS' data' begins'))

/-! The feeds whose values are probabilities. -/

omit convert in
def Within (low high : ℚ) (x : F) : Prop :=
  Floating.le (Floating.literal low) x = true ∧
    Floating.le x (Floating.literal high) = true

/-- The stored values are in range, so the scores made of them are, and each
accepted line has a decimal number in its second column. -/
structure Probabilities (text : Bytes) : Prop where
  unit : ∀ id entry,
    (EpssDb.parse (parseDouble convert) text).map.lookup id = some entry →
    Within 0 1 entry.epss ∧ Within 0 1 entry.percentile
  decimal : ∀ line ∈ text.splitOn 0x0a, ∀ pair,
    lineEntry (parseDouble convert) (trim line) = some pair →
    ∃ cve epssS pctS d, DataLine (trim line) cve epssS pctS ∧
      IsDecimalField epssS d
  risk : ∀ id entry,
    (EpssDb.parse (parseDouble convert) text).map.lookup id = some entry →
    ∀ cve : CveInfo F, cve.epss = entry.epss → Within 0 10 cve.cvssScore →
      Within 0 10 cve.risk

/-- No second column only begins with a number, and the numbers that count are
in range. -/
structure CleanFeed (text : Bytes) : Prop where
  decimal : ∀ line ∈ text.splitOn 0x0a, ∀ cve epssS pctS,
    DataLine (trim line) cve epssS pctS → BeginsNumber epssS →
    ∃ d, IsDecimalField epssS d
  epss : ∀ cve epssS pctS d, FirstLine text cve epssS pctS →
    IsDecimalField epssS d → Within 0 1 (convert (.number d.value))
  percentile : ∀ cve epssS pctS reading, FirstLine text cve epssS pctS →
    strtod pctS = some reading → Within 0 1 (convert reading)

/-- What rounding keeps of the order and of the product.  The factors have
bounds, since an infinity times zero is no number. -/
structure RoundsMonotonically (F : Type) [Floating F] : Prop where
  literal_le : ∀ a b : ℚ, a ≤ b →
    Floating.le (Floating.literal a : F) (Floating.literal b) = true
  mul_le : ∀ a b c d : F, Floating.le (Floating.literal 0) a = true →
    Floating.le a b = true → Floating.le b (Floating.literal 10) = true →
    Floating.le (Floating.literal 0) c = true → Floating.le c d = true →
    Floating.le d (Floating.literal 1) = true →
    Floating.le (Floating.mul a c) (Floating.mul b d) = true
  zero_mul_zero :
    Floating.mul (Floating.literal 0 : F) (Floating.literal 0) =
      Floating.literal 0
  ten_mul_one :
    Floating.mul (Floating.literal 10 : F) (Floating.literal 1) =
      Floating.literal 10

omit convert in
theorem RoundsMonotonically.risk_within (rounds : RoundsMonotonically F)
    {cvss epss : F} (score : Within 0 10 cvss) (unit : Within 0 1 epss) :
    Within 0 10 (Floating.mul cvss epss) := by
  have refl (a : ℚ) :
      Floating.le (Floating.literal a : F) (Floating.literal a) = true :=
    rounds.literal_le a a le_rfl
  constructor
  · have lower := rounds.mul_le _ _ _ _ (refl 0) score.1 score.2
      (refl 0) unit.1 unit.2
    rwa [rounds.zero_mul_zero] at lower
  · have upper := rounds.mul_le _ _ _ _ score.1 score.2 (refl 10)
      unit.1 unit.2 (refl 1)
    rwa [rounds.ten_mul_one] at upper

omit convert in
theorem DataLine.unique {line cve epssS pctS cve' epssS' pctS' : Bytes}
    (data : DataLine line cve epssS pctS)
    (other : DataLine line cve' epssS' pctS') : epssS = epssS' := by
  have columns := (splitColumns_eq_some_iff line cve epssS pctS).mpr
    ⟨data.columns, data.first, data.second⟩
  have columns' := (splitColumns_eq_some_iff line cve' epssS' pctS').mpr
    ⟨other.columns, other.first, other.second⟩
  rw [columns] at columns'
  cases columns'
  rfl

omit convert in
theorem FirstLine.exists_dataLine {text cve epssS pctS : Bytes}
    (first : FirstLine text cve epssS pctS) :
    ∃ line ∈ text.splitOn 0x0a, DataLine (trim line) cve epssS pctS ∧
      BeginsNumber epssS := by
  obtain ⟨before, line, after, lines, data, begins, _⟩ := first
  refine ⟨line, ?_, data, begins⟩
  rw [lines]
  exact List.mem_append_right before List.mem_cons_self

theorem CleanFeed.unit (rounds : RoundsMonotonically F) {text : Bytes}
    (clean : CleanFeed convert text) {id : Bytes} {entry : EpssEntry F}
    (stored : (EpssDb.parse (parseDouble convert) text).map.lookup id =
      some entry) :
    Within 0 1 entry.epss ∧ Within 0 1 entry.percentile := by
  obtain ⟨cve, epssS, pctS, reading, first, read, _, rfl⟩ :=
    (lookup_parse_eq_some_iff convert text id entry).mp stored
  obtain ⟨line, member, data, begins⟩ := first.exists_dataLine
  obtain ⟨d, isDecimal⟩ := clean.decimal line member cve epssS pctS data begins
  constructor
  · rw [strtod_decimalField isDecimal, Option.some.injEq] at read
    rw [← read]
    exact clean.epss cve epssS pctS d first isDecimal
  · cases percentile : strtod pctS with
    | none => exact ⟨rounds.literal_le 0 0 le_rfl,
        rounds.literal_le 0 1 zero_le_one⟩
    | some reading' =>
        exact clean.percentile cve epssS pctS reading' first percentile

/-- A feed makes a database of probabilities exactly where it is clean. -/
theorem probabilities_iff (rounds : RoundsMonotonically F) (text : Bytes) :
    Probabilities convert text ↔ CleanFeed convert text := by
  constructor
  · intro probabilities
    have stored {cve epssS pctS : Bytes} {reading : Reading}
        (first : FirstLine text cve epssS pctS)
        (read : strtod epssS = some reading) :=
      probabilities.unit (toUpper cve) _
        ((lookup_parse_eq_some_iff convert text _ _).mpr
          ⟨cve, epssS, pctS, reading, first, read, rfl, rfl⟩)
    refine ⟨?_, ?_, ?_⟩
    · intro line member cve epssS pctS data begins
      obtain ⟨reading, read⟩ := (beginsNumber_iff epssS).mp begins
      obtain ⟨cve', epssS', pctS', d, data', isDecimal⟩ :=
        probabilities.decimal line member _
          ((lineEntry_eq_some_iff convert (trim line) _ _).mpr
            ⟨cve, epssS, pctS, reading, data, read, rfl, rfl⟩)
      rw [data.unique data']
      exact ⟨d, isDecimal⟩
    · intro cve epssS pctS d first isDecimal
      exact (stored first (strtod_decimalField isDecimal)).1
    · intro cve epssS pctS reading first read
      obtain ⟨_, _, _, begins⟩ := first.exists_dataLine
      obtain ⟨reading', read'⟩ := (beginsNumber_iff epssS).mp begins
      have percentile := (stored first read').2
      rw [read] at percentile
      exact percentile
  · intro clean
    refine ⟨fun id entry stored => clean.unit convert rounds stored, ?_, ?_⟩
    · intro line member pair accepted
      obtain ⟨cve, epssS, pctS, reading, data, read, _, _⟩ :=
        (lineEntry_eq_some_iff convert (trim line) pair.1 pair.2).mp accepted
      have begins := (beginsNumber_iff epssS).mpr ⟨reading, read⟩
      obtain ⟨d, isDecimal⟩ :=
        clean.decimal line member cve epssS pctS data begins
      exact ⟨cve, epssS, pctS, d, data, isDecimal⟩
    · intro id entry stored cve same score
      rw [CveInfo.risk, same]
      exact rounds.risk_within score (clean.unit convert rounds stored).1

end

theorem extended_roundsMonotonically : RoundsMonotonically Reading where
  literal_le a b le := decide_eq_true le
  mul_le a b c d above le below above' le' below' := by
    have bounded {x y : Reading} {high : ℚ}
        (above : Floating.le (Floating.literal 0) x = true)
        (le : Floating.le x y = true)
        (below : Floating.le y (Floating.literal high) = true) :
        ∃ p q : ℚ, x = .number p ∧ y = .number q ∧ 0 ≤ p ∧ p ≤ q := by
      obtain ⟨p, rfl, positive, _⟩ :=
        Extended.exists_number above (Extended.trans le below)
      obtain ⟨q, rfl, _, _⟩ :=
        Extended.exists_number (Extended.trans above le) below
      exact ⟨p, q, rfl, rfl, positive, of_decide_eq_true le⟩
    obtain ⟨a, b, rfl, rfl, above, le⟩ := bounded above le below
    obtain ⟨c, d, rfl, rfl, above', le'⟩ := bounded above' le' below'
    exact decide_eq_true (mul_le_mul le le' above' (above.trans le))
  zero_mul_zero := congrArg Reading.number (mul_zero (0 : ℚ))
  ten_mul_one := congrArg Reading.number (mul_one (10 : ℚ))

/-- A feed whose first line has words for its values. -/
def wordsFeed : Bytes :=
  bytes "CVE-2021-44228,inf,nan\nCVE-2014-0160,0.5,0.9\n"

theorem probabilities_wordsFeed :
    (Probabilities id wordsFeed ↔ CleanFeed id wordsFeed) ∧
    ¬ CleanFeed id wordsFeed := by
  have iff := probabilities_iff id extended_roundsMonotonically wordsFeed
  refine ⟨iff, fun clean => ?_⟩
  have stored : (EpssDb.parse (parseDouble id) wordsFeed).map.lookup
      (bytes "CVE-2021-44228") = some ⟨.infinity false, .nan⟩ := by
    rw [EpssDb.parse_map]
    decide +kernel
  have upper := ((iff.mpr clean).unit _ _ stored).1.2
  exact absurd upper (by decide)

/-- A feed whose first line has a percentage in its second column. -/
def percentFeed : Bytes :=
  bytes "CVE-2021-44228,97.5,0.99\nCVE-2014-0160,0.5,0.9\n"

theorem percentFeed_outOfRange :
    ¬ ∀ text, Probabilities (id : Reading → _) text := by
  intro all
  have stored : (EpssDb.parse (parseDouble id) percentFeed).map.lookup
      (bytes "CVE-2021-44228") =
        some ⟨.number (195 / 2), .number (99 / 100)⟩ := by
    rw [EpssDb.parse_map]
    decide +kernel
  have upper := ((all percentFeed).unit _ _ stored).1.2
  exact absurd upper (by decide +kernel)

end ServicePortScanner.Fp
