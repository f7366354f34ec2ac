import Mathlib.Algebra.Order.BigOperators.Group.List
import Mathlib.Algebra.Order.Ring.Nat
import ServicePortScanner.Data.Bytes

namespace ServicePortScanner.Data.PlaceMarkers

/-! Texts with numbered place markers, `%1` or `%L1` with one or two digits, and
the replacement of the lowest of them.  The characters have codes, and may carry
something else besides. -/

def percent : UInt8 := 0x25
def localeSign : UInt8 := 0x4c

inductive Item (α : Type) where
  | char (value : α)
  | marker (number : Nat) (isLocale : Bool) (source : List α)
  deriving DecidableEq, Repr

/-- What may become a marker. -/
inductive Pending (α : Type) where
  | idle
  | opened (isLocale : Bool) (source : List α)
  | digit (number : Nat) (isLocale : Bool) (source : List α)
  deriving DecidableEq, Repr

/-- What a marker is replaced by, without and with the sign `L`. -/
structure Argument (α : Type) where
  text : List α
  localized : List α
  deriving DecidableEq, Repr

namespace Item

variable {α : Type}

def source : Item α → List α
  | .char value => [value]
  | .marker _ _ source => source

def number? : Item α → Option Nat
  | .char _ => none
  | .marker number _ _ => some number

def replace (number : Nat) (argument : Argument α) : Item α → List α
  | .char value => [value]
  | .marker number' isLocale source =>
      if number' = number then
        if isLocale then argument.localized else argument.text
      else source

end Item

section

variable {α : Type} (code : α → UInt8)

def Pending.flush : Pending α → List (Item α)
  | .idle => []
  | .opened _ source => source.map .char
  | .digit number isLocale source => [.marker number isLocale source]

/-- A character that does not continue a marker. -/
def enter (c : α) : List (Item α) × Pending α :=
  if code c = percent then ([], .opened false [c]) else ([.char c], .idle)

def Pending.extend? : Pending α → α → Option (List (Item α) × Pending α)
  | .idle, _ => none
  | .opened isLocale source, c =>
      if IsDigit (code c) then
        some ([], .digit (digitValue (code c)) isLocale (source ++ [c]))
      else if isLocale = false ∧ code c = localeSign then
        some ([], .opened true (source ++ [c]))
      else none
  | .digit number isLocale source, c =>
      if IsDigit (code c) then
        some ([.marker (10 * number + digitValue (code c)) isLocale
          (source ++ [c])], .idle)
      else none

def Pending.advance (pending : Pending α) (c : α) :
    List (Item α) × Pending α :=
  match pending.extend? code c with
  | some next => next
  | none => (pending.flush ++ (enter code c).1, (enter code c).2)

def scan (pending : Pending α) : List α → List (Item α)
  | [] => pending.flush
  | c :: rest =>
      (pending.advance code c).1 ++ scan (pending.advance code c).2 rest

def items (text : List α) : List (Item α) :=
  scan code .idle text

def numbers (text : List α) : List Nat :=
  (items code text).filterMap Item.number?

/-- `QString::arg`: without a marker the text stays as it is. -/
def arg (text : List α) (argument : Argument α) : List α :=
  match (numbers code text).min? with
  | none => text
  | some number => (items code text).flatMap (Item.replace number argument)

def args (text : List α) (arguments : List (Argument α)) : List α :=
  arguments.foldl (arg code) text

end

/-! Characters that carry more. -/

section

variable {α β : Type} {code : α → UInt8} {codeβ : β → UInt8} {f : α → β}

def Item.map (f : α → β) : Item α → Item β
  | .char value => .char (f value)
  | .marker number isLocale source => .marker number isLocale (source.map f)

def Pending.map (f : α → β) : Pending α → Pending β
  | .idle => .idle
  | .opened isLocale source => .opened isLocale (source.map f)
  | .digit number isLocale source => .digit number isLocale (source.map f)

def Argument.map (f : α → β) (argument : Argument α) : Argument β where
  text := argument.text.map f
  localized := argument.localized.map f

theorem Pending.flush_map (f : α → β) (pending : Pending α) :
    (pending.map f).flush = pending.flush.map (Item.map f) := by
  cases pending with
  | idle => rfl
  | opened isLocale source => simp [map, flush, Item.map]
  | digit number isLocale source => rfl

theorem Pending.advance_map (same : ∀ c, codeβ (f c) = code c)
    (pending : Pending α) (c : α) :
    (pending.map f).advance codeβ (f c) =
      (((pending.advance code c).1).map (Item.map f),
        ((pending.advance code c).2).map f) := by
  have entered : enter codeβ (f c) =
      ((enter code c).1.map (Item.map f), (enter code c).2.map f) := by
    unfold enter
    rw [same]
    split
    · rfl
    · rfl
  have extended : (pending.map f).extend? codeβ (f c) =
      (pending.extend? code c).map fun next =>
        (next.1.map (Item.map f), next.2.map f) := by
    cases pending with
    | idle => rfl
    | opened isLocale source =>
        simp only [map, extend?, same]
        split
        · simp
        · split
          · simp
          · rfl
    | digit number isLocale source =>
        simp only [map, extend?, same]
        split
        · simp [Item.map]
        · rfl
  unfold advance
  rw [extended]
  cases pending.extend? code c with
  | none => simp [entered, flush_map]
  | some next => rfl

theorem scan_map (same : ∀ c, codeβ (f c) = code c) (pending : Pending α)
    (text : List α) :
    scan codeβ (pending.map f) (text.map f) =
      (scan code pending text).map (Item.map f) := by
  induction text generalizing pending with
  | nil => exact pending.flush_map f
  | cons c rest induction =>
      simp only [List.map_cons, scan, Pending.advance_map same, induction,
        List.map_append]

theorem items_map (same : ∀ c, codeβ (f c) = code c) (text : List α) :
    items codeβ (text.map f) = (items code text).map (Item.map f) :=
  scan_map same .idle text

theorem numbers_map (same : ∀ c, codeβ (f c) = code c) (text : List α) :
    numbers codeβ (text.map f) = numbers code text := by
  unfold numbers
  rw [items_map same, List.filterMap_map]
  congr 1
  funext item
  cases item with
  | char value => rfl
  | marker number isLocale source => rfl

theorem Item.replace_map (number : Nat) (argument : Argument α)
    (item : Item α) :
    (item.map f).replace number (argument.map f) =
      (item.replace number argument).map f := by
  cases item with
  | char value => rfl
  | marker number' isLocale source =>
      simp only [map, replace]
      split
      · split
        · rfl
        · rfl
      · rfl

theorem arg_map (same : ∀ c, codeβ (f c) = code c) (text : List α)
    (argument : Argument α) :
    arg codeβ (text.map f) (argument.map f) = (arg code text argument).map f := by
  unfold arg
  rw [numbers_map same]
  cases (numbers code text).min? with
  | none => rfl
  | some number =>
      dsimp only
      rw [items_map same, List.flatMap_map, List.map_flatMap]
      congr 1
      funext item
      exact item.replace_map number argument

theorem args_map (same : ∀ c, codeβ (f c) = code c) (text : List α)
    (arguments : List (Argument α)) :
    args codeβ (text.map f) (arguments.map (Argument.map f)) =
      (args code text arguments).map f := by
  induction arguments generalizing text with
  | nil => rfl
  | cons argument rest induction =>
      simp only [List.map_cons, args, List.foldl_cons] at induction ⊢
      rw [arg_map same, induction]

end

/-! Where markers end. -/

section

variable {α : Type} {code : α → UInt8}

/-- No marker goes on with the character. -/
def Clean (code : α → UInt8) (c : α) : Prop :=
  ¬ IsDigit (code c) ∧ code c ≠ localeSign

/-- Text between two markers: none begins in it, and none goes on with it. -/
structure IsLiteral (code : α → UInt8) (text : List α) : Prop where
  clean : ∃ c ∈ text.head?, Clean code c
  plain : ∀ c ∈ text, code c ≠ percent

instance (code : α → UInt8) (c : α) : Decidable (Clean code c) :=
  inferInstanceAs (Decidable (_ ∧ _))

instance (code : α → UInt8) (text : List α) :
    Decidable (IsLiteral code text) :=
  decidable_of_iff
    ((∃ c ∈ text.head?, Clean code c) ∧ ∀ c ∈ text, code c ≠ percent)
    (Iff.intro (fun both => ⟨both.1, both.2⟩)
      (fun isLiteral => ⟨isLiteral.clean, isLiteral.plain⟩))

theorem Pending.extend?_clean {c : α} (clean : Clean code c)
    (pending : Pending α) : pending.extend? code c = none := by
  obtain ⟨notDigit, notSign⟩ := clean
  cases pending with
  | idle => rfl
  | opened isLocale source => simp [extend?, notDigit, notSign]
  | digit number isLocale source => simp [extend?, notDigit]

theorem scan_clean {c : α} (clean : Clean code c) (pending : Pending α)
    (rest : List α) :
    scan code pending (c :: rest) = pending.flush ++ items code (c :: rest) := by
  simp only [items, scan, Pending.advance, Pending.extend?_clean clean,
    Pending.flush, List.nil_append, List.append_assoc]

theorem items_append_clean {c : α} (clean : Clean code c)
    (text rest : List α) :
    items code (text ++ c :: rest) = items code text ++ items code (c :: rest) := by
  suffices scanned : ∀ pending : Pending α,
      scan code pending (text ++ c :: rest) =
        scan code pending text ++ items code (c :: rest) from scanned .idle
  induction text with
  | nil => exact fun pending => scan_clean clean pending rest
  | cons b text induction =>
      intro pending
      simp only [List.cons_append, scan, induction, List.append_assoc]

theorem items_plain {text : List α} (plain : ∀ c ∈ text, code c ≠ percent)
    (rest : List α) :
    items code (text ++ rest) = text.map .char ++ items code rest := by
  induction text with
  | nil => rfl
  | cons c text induction =>
      have here := plain c (List.mem_cons_self ..)
      have later := fun other member =>
        plain other (List.mem_cons_of_mem c member)
      have entered : enter code c = ([.char c], .idle) := if_neg here
      simp only [items] at induction ⊢
      simp only [List.cons_append, scan, Pending.advance, Pending.extend?,
        Pending.flush, entered, induction later, List.map_cons,
        List.nil_append]

theorem items_literal {literal : List α} (isLiteral : IsLiteral code literal)
    (text rest : List α) :
    items code (text ++ literal ++ rest) =
      items code text ++ literal.map .char ++ items code rest := by
  obtain ⟨⟨c, isHead, clean⟩, plain⟩ := isLiteral
  cases literal with
  | nil => cases isHead
  | cons b literal =>
      cases isHead
      have joined : text ++ c :: literal ++ rest =
          text ++ c :: (literal ++ rest) := by simp
      rw [joined, items_append_clean clean, ← List.cons_append,
        items_plain plain, List.append_assoc]

theorem filterMap_number?_char (text : List α) :
    (text.map Item.char).filterMap Item.number? = [] := by
  rw [List.filterMap_map]
  exact List.filterMap_eq_nil_iff.mpr fun _ _ => rfl

theorem numbers_plain {text : List α} (plain : ∀ c ∈ text, code c ≠ percent) :
    numbers code text = [] := by
  have read := items_plain plain []
  rw [List.append_nil] at read
  rw [numbers, read, List.filterMap_append, filterMap_number?_char]
  rfl

theorem numbers_literal {literal : List α} (isLiteral : IsLiteral code literal)
    (text rest : List α) :
    numbers code (text ++ literal ++ rest) =
      numbers code text ++ numbers code rest := by
  unfold numbers
  rw [items_literal isLiteral, List.filterMap_append, List.filterMap_append,
    filterMap_number?_char, List.append_nil]

/-- A step keeps what has been read. -/
theorem Pending.flatMap_source_advance (pending : Pending α) (c : α) :
    (pending.advance code c).1.flatMap Item.source ++
      (pending.advance code c).2.flush.flatMap Item.source =
    pending.flush.flatMap Item.source ++ [c] := by
  have entered : (enter code c).1.flatMap Item.source ++
      (enter code c).2.flush.flatMap Item.source = [c] := by
    unfold enter
    split
    · rfl
    · rfl
  unfold advance
  cases extended : pending.extend? code c with
  | none => simp only [List.flatMap_append, List.append_assoc, entered]
  | some next =>
      cases pending with
      | idle => cases extended
      | opened isLocale source =>
          simp only [extend?] at extended
          split at extended
          · cases extended
            simp [flush, Item.source, List.flatMap_map]
          · split at extended
            · cases extended
              simp [flush, Item.source, List.flatMap_map]
            · cases extended
      | digit number isLocale source =>
          simp only [extend?] at extended
          split at extended
          · cases extended
            simp [flush, Item.source]
          · cases extended

theorem flatMap_source_scan (pending : Pending α) (text : List α) :
    (scan code pending text).flatMap Item.source =
      pending.flush.flatMap Item.source ++ text := by
  induction text generalizing pending with
  | nil => simp [scan]
  | cons c rest induction =>
      rw [scan, List.flatMap_append, induction, ← List.append_assoc,
        Pending.flatMap_source_advance, List.append_assoc]
      rfl

theorem flatMap_source_items (code : α → UInt8) (text : List α) :
    (items code text).flatMap Item.source = text :=
  flatMap_source_scan .idle text

/-- A replacement of markers that are not there. -/
theorem flatMap_replace_absent {number : Nat} {text : List α}
    (absent : number ∉ numbers code text) (argument : Argument α) :
    (items code text).flatMap (Item.replace number argument) = text := by
  have same : (items code text).flatMap (Item.replace number argument) =
      (items code text).flatMap Item.source := by
    apply List.flatMap_congr
    intro item member
    cases item with
    | char value => rfl
    | marker number' isLocale source =>
        have other : number' ≠ number := by
          rintro rfl
          exact absent (List.mem_filterMap.mpr ⟨_, member, rfl⟩)
        rw [Item.replace, if_neg other, Item.source]
  rw [same, flatMap_source_items code]

end

/-! What a replacement takes away. -/

section

variable {α : Type} {code : α → UInt8}

/-- What may become a marker begins with a `%`. -/
def Pending.Rooted (code : α → UInt8) : Pending α → Prop
  | .idle => True
  | .opened _ source => ∃ c ∈ source, code c = percent
  | .digit _ _ source => ∃ c ∈ source, code c = percent

def Item.Rooted (code : α → UInt8) : Item α → Prop
  | .char _ => True
  | .marker _ _ source => ∃ c ∈ source, code c = percent

theorem Pending.Rooted.flush {pending : Pending α}
    (rooted : pending.Rooted code) :
    ∀ item ∈ pending.flush, item.Rooted code := by
  intro item member
  cases pending with
  | idle => cases member
  | opened isLocale source =>
      obtain ⟨c, _, rfl⟩ := List.mem_map.mp member
      trivial
  | digit number isLocale source =>
      cases List.mem_singleton.mp member
      exact rooted

theorem Pending.Rooted.advance {pending : Pending α}
    (rooted : pending.Rooted code) (c : α) :
    (∀ item ∈ (pending.advance code c).1, item.Rooted code) ∧
      (pending.advance code c).2.Rooted code := by
  have entered : (∀ item ∈ (enter code c).1, item.Rooted code) ∧
      (enter code c).2.Rooted code := by
    unfold enter
    split
    · next isPercent => exact ⟨by simp, c, by simp, isPercent⟩
    · exact ⟨by simp [Item.Rooted], trivial⟩
  have longer {source : List α} (here : ∃ c ∈ source, code c = percent) :
      ∃ b ∈ source ++ [c], code b = percent := by
    obtain ⟨b, member, isPercent⟩ := here
    exact ⟨b, List.mem_append_left _ member, isPercent⟩
  unfold Pending.advance
  cases extended : pending.extend? code c with
  | none =>
      refine ⟨?_, entered.2⟩
      intro item member
      cases List.mem_append.mp member with
      | inl inFlush => exact rooted.flush item inFlush
      | inr inEnter => exact entered.1 item inEnter
  | some next =>
      cases pending with
      | idle => cases extended
      | opened isLocale source =>
          simp only [extend?] at extended
          split at extended
          · cases extended
            exact ⟨by simp, longer rooted⟩
          · split at extended
            · cases extended
              exact ⟨by simp, longer rooted⟩
            · cases extended
      | digit number isLocale source =>
          simp only [extend?] at extended
          split at extended
          · cases extended
            refine ⟨?_, trivial⟩
            intro item member
            cases List.mem_singleton.mp member
            exact longer rooted
          · cases extended

theorem rooted_items (text : List α) :
    ∀ item ∈ items code text, item.Rooted code := by
  suffices scanned : ∀ pending : Pending α, pending.Rooted code →
      ∀ item ∈ scan code pending text, item.Rooted code from
    scanned .idle trivial
  induction text with
  | nil => exact fun pending rooted => rooted.flush
  | cons c rest induction =>
      intro pending rooted item member
      obtain ⟨now, onward⟩ := rooted.advance c
      cases List.mem_append.mp member with
      | inl here => exact now item here
      | inr later => exact induction _ onward item later

/-- A number of a text is that of a marker with a `%` of the text. -/
theorem exists_percent {text : List α} {number : Nat}
    (member : number ∈ numbers code text) :
    ∃ isLocale source, .marker number isLocale source ∈ items code text ∧
      ∃ c ∈ source, c ∈ text ∧ code c = percent := by
  obtain ⟨item, isItem, numbered⟩ := List.mem_filterMap.mp member
  cases item with
  | char value => cases numbered
  | marker number' isLocale source =>
      cases numbered
      obtain ⟨c, inSource, isPercent⟩ := rooted_items text _ isItem
      refine ⟨isLocale, source, isItem, c, inSource, ?_, isPercent⟩
      rw [← flatMap_source_items code text]
      exact List.mem_flatMap.mpr ⟨_, isItem, inSource⟩

/-- No character of the argument has the property. -/
def Argument.Without (p : α → Bool) (argument : Argument α) : Prop :=
  argument.text.countP p = 0 ∧ argument.localized.countP p = 0

theorem Item.countP_replace {p : α → Bool} {argument : Argument α}
    (without : argument.Without p) (number : Nat) (item : Item α) :
    (item.replace number argument).countP p ≤ item.source.countP p := by
  cases item with
  | char value => exact Nat.le_refl _
  | marker number' isLocale source =>
      simp only [replace, Item.source]
      split
      · split
        · rw [without.2]
          exact Nat.zero_le _
        · rw [without.1]
          exact Nat.zero_le _
      · exact Nat.le_refl _

theorem countP_eq_sum (code : α → UInt8) (p : α → Bool) (text : List α) :
    text.countP p =
      ((items code text).map fun item => item.source.countP p).sum := by
  conv_lhs => rw [← flatMap_source_items code text]
  exact List.countP_flatMap

theorem countP_arg_le {p : α → Bool} {argument : Argument α}
    (without : argument.Without p) (text : List α) :
    (arg code text argument).countP p ≤ text.countP p := by
  unfold arg
  cases (numbers code text).min? with
  | none => exact Nat.le_refl _
  | some number =>
      dsimp only
      rw [countP_eq_sum code p text, List.countP_flatMap]
      exact List.sum_le_sum fun item _ => item.countP_replace without number

theorem countP_args_le (code : α → UInt8) {p : α → Bool}
    {arguments : List (Argument α)}
    (without : ∀ argument ∈ arguments, argument.Without p) (text : List α) :
    (args code text arguments).countP p ≤ text.countP p := by
  induction arguments generalizing text with
  | nil => exact Nat.le_refl _
  | cons argument rest induction =>
      have later := fun other member =>
        without other (List.mem_cons_of_mem argument member)
      exact (induction later _).trans
        (countP_arg_le (without argument (List.mem_cons_self ..)) text)

/-- A marker that is replaced takes its characters along. -/
theorem countP_arg_lt {p : α → Bool} {argument : Argument α}
    (without : argument.Without p) {text : List α} {number : Nat}
    (lowest : (numbers code text).min? = some number) {isLocale : Bool}
    {source : List α}
    (isItem : .marker number isLocale source ∈ items code text) {c : α}
    (inSource : c ∈ source) (has : p c = true) :
    (arg code text argument).countP p < text.countP p := by
  unfold arg
  rw [lowest]
  dsimp only
  rw [countP_eq_sum code p text, List.countP_flatMap]
  apply List.sum_lt_sum
  · exact fun item _ => item.countP_replace without number
  · refine ⟨_, isItem, ?_⟩
    have taken : (Item.replace number argument
        (.marker number isLocale source)).countP p = 0 := by
      rw [Item.replace, if_pos rfl]
      split
      · exact without.2
      · exact without.1
    rw [Function.comp_apply, taken]
    exact List.countP_pos_iff.mpr ⟨c, inSource, has⟩

end

end ServicePortScanner.Data.PlaceMarkers
