import ServicePortScanner.Data.Bytes

namespace ServicePortScanner.Data.Markup

/-! Markup split into tags and text, the five entities that escape text, and
templates with fields in them. -/

def less : UInt8 := 0x3c
def greater : UInt8 := 0x3e
def ampersand : UInt8 := 0x26

inductive Token where
  | tag (content : Bytes)
  | text (content : Bytes)
  | unclosed (content : Bytes)
  deriving DecidableEq, Repr

/-- A tag goes from a `<` to the next `>`; what is between two tags is a text,
also where it is empty. -/
def scan (inTag : Bool) (seen : Bytes) : Bytes → List Token
  | [] => [if inTag then .unclosed seen else .text seen]
  | b :: rest =>
      if inTag then
        if b = greater then .tag (seen ++ [b]) :: scan false [] rest
        else scan true (seen ++ [b]) rest
      else if b = less then .text seen :: scan true [b] rest
      else scan false (seen ++ [b]) rest

def tokens (markup : Bytes) : List Token :=
  scan false [] markup

def Token.tag? : Token → Option Bytes
  | .tag content => some content
  | _ => none

def tags (markup : Bytes) : List Bytes :=
  (tokens markup).filterMap Token.tag?

/-! Entities. -/

def entity (b : UInt8) : Bytes :=
  if b = 0x26 then bytes "&amp;"
  else if b = 0x3c then bytes "&lt;"
  else if b = 0x3e then bytes "&gt;"
  else if b = 0x22 then bytes "&quot;"
  else if b = 0x27 then bytes "&#39;"
  else [b]

def escape (text : Bytes) : Bytes :=
  text.flatMap entity

/-- The entity a text begins with: the byte it stands for and its length. -/
def entityAt? (text : Bytes) : Option (UInt8 × Nat) :=
  if (bytes "&amp;").isPrefixOf text then some (0x26, 5)
  else if (bytes "&lt;").isPrefixOf text then some (0x3c, 4)
  else if (bytes "&gt;").isPrefixOf text then some (0x3e, 4)
  else if (bytes "&quot;").isPrefixOf text then some (0x22, 6)
  else if (bytes "&#39;").isPrefixOf text then some (0x27, 5)
  else none

/-- Replace the five entities, skipping the rest of each. -/
def decodeFrom (skip : Nat) : Bytes → Bytes
  | [] => []
  | b :: rest =>
      match skip with
      | skip + 1 => decodeFrom skip rest
      | 0 =>
          match entityAt? (b :: rest) with
          | some (value, length) => value :: decodeFrom (length - 1) rest
          | none => b :: decodeFrom 0 rest

def decode (text : Bytes) : Bytes :=
  decodeFrom 0 text

/-- `raw` stands for `value` wherever it is in a text. -/
def Decodes (raw value : Bytes) : Prop :=
  ∀ rest, decode (raw ++ rest) = value ++ decode rest

theorem Decodes.decode_eq {raw value : Bytes} (decodes : Decodes raw value) :
    decode raw = value := by
  have whole := decodes []
  simpa [decode, decodeFrom] using whole

theorem Decodes.nil : Decodes [] [] := fun _ => rfl

theorem Decodes.append {raw₁ raw₂ value₁ value₂ : Bytes}
    (first : Decodes raw₁ value₁) (second : Decodes raw₂ value₂) :
    Decodes (raw₁ ++ raw₂) (value₁ ++ value₂) := by
  intro rest
  rw [List.append_assoc, first, second, List.append_assoc]

theorem entityAt?_of_ne {b : UInt8} (rest : Bytes) (plain : b ≠ ampersand) :
    entityAt? (b :: rest) = none := by
  have head : ∀ tail : Bytes, (0x26 :: tail).isPrefixOf (b :: rest) = false := by
    intro tail
    have differ : ((0x26 : UInt8) == b) = false := by
      rw [beq_eq_false_iff_ne]
      exact fun same => plain same.symm
    simp [List.isPrefixOf, differ]
  have amp : bytes "&amp;" = 0x26 :: bytes "amp;" := rfl
  have lt : bytes "&lt;" = 0x26 :: bytes "lt;" := rfl
  have gt : bytes "&gt;" = 0x26 :: bytes "gt;" := rfl
  have quot : bytes "&quot;" = 0x26 :: bytes "quot;" := rfl
  have apos : bytes "&#39;" = 0x26 :: bytes "#39;" := rfl
  simp only [entityAt?, amp, lt, gt, quot, apos, head, Bool.false_eq_true,
    if_false]

theorem decodes_plain {b : UInt8} (plain : b ≠ ampersand) : Decodes [b] [b] := by
  intro rest
  simp [decode, decodeFrom, entityAt?_of_ne rest plain]

theorem decodes_of_not_mem {text : Bytes} (plain : ampersand ∉ text) :
    Decodes text text := by
  induction text with
  | nil => exact Decodes.nil
  | cons b text induction =>
      have head : b ≠ ampersand := fun same => plain (by simp [same])
      have tail : ampersand ∉ text :=
        fun member => plain (List.mem_cons_of_mem b member)
      exact (decodes_plain head).append (induction tail)

theorem decodes_entity (b : UInt8) : Decodes (entity b) [b] := by
  unfold entity
  split
  · next same =>
      subst same
      exact fun rest => rfl
  split
  · next same =>
      subst same
      exact fun rest => rfl
  split
  · next same =>
      subst same
      exact fun rest => rfl
  split
  · next same =>
      subst same
      exact fun rest => rfl
  split
  · next same =>
      subst same
      exact fun rest => rfl
  · next notAmpersand _ _ _ _ => exact decodes_plain notAmpersand

theorem decodes_escape (text : Bytes) : Decodes (escape text) text := by
  induction text with
  | nil => exact Decodes.nil
  | cons b text induction => exact (decodes_entity b).append induction

theorem less_not_mem_entity (b : UInt8) : less ∉ entity b := by
  unfold entity
  split
  · decide
  split
  · decide
  split
  · decide
  split
  · decide
  split
  · decide
  · next _ notLess _ _ _ =>
      intro member
      exact notLess (List.mem_singleton.mp member).symm

theorem less_not_mem_escape (text : Bytes) : less ∉ escape text := by
  intro member
  obtain ⟨b, _, inEntity⟩ := List.mem_flatMap.mp member
  exact less_not_mem_entity b inEntity

/-! Templates. -/

inductive Piece where
  | tag (content : Bytes)
  | literal (content : Bytes)
  | field (value : Bytes)
  deriving DecidableEq, Repr

def Piece.render : Piece → Bytes
  | .tag content => content
  | .literal content => content
  | .field value => escape value

def Piece.tag? : Piece → Option Bytes
  | .tag content => some content
  | _ => none

def IsTag (content : Bytes) : Prop :=
  content.head? = some less ∧ content.getLast? = some greater ∧
    greater ∉ content.dropLast

instance (content : Bytes) : Decidable (IsTag content) :=
  inferInstanceAs (Decidable (_ ∧ _ ∧ _))

def Piece.WellFormed : Piece → Prop
  | .tag content => IsTag content
  | .literal content => less ∉ content ∧ ampersand ∉ content
  | .field _ => True

instance : DecidablePred Piece.WellFormed := fun piece => by
  cases piece <;> simp only [Piece.WellFormed] <;> infer_instance

def render (pieces : List Piece) : Bytes :=
  pieces.flatMap Piece.render

@[simp] theorem render_nil : render [] = [] := rfl

@[simp] theorem render_cons (piece : Piece) (pieces : List Piece) :
    render (piece :: pieces) = piece.render ++ render pieces := rfl

@[simp] theorem render_append (first second : List Piece) :
    render (first ++ second) = render first ++ render second :=
  List.flatMap_append

@[simp] theorem render_flatMap (items : List α) (pieces : α → List Piece) :
    render (items.flatMap pieces) = items.flatMap fun item => render (pieces item) :=
  List.flatMap_assoc

/-- What a template says: its tags, and between them its texts around the
fields as they are. -/
def view (seen : Bytes) : List Piece → List Token
  | [] => [.text seen]
  | .tag content :: rest => .text seen :: .tag content :: view [] rest
  | .literal content :: rest => view (seen ++ content) rest
  | .field value :: rest => view (seen ++ value) rest

def Token.decode : Token → Token
  | .text content => .text (Markup.decode content)
  | token => token

theorem scan_text {text : Bytes} (plain : less ∉ text) (seen rest : Bytes) :
    scan false seen (text ++ rest) = scan false (seen ++ text) rest := by
  induction text generalizing seen with
  | nil => simp
  | cons b text induction =>
      have head : b ≠ less := fun same => plain (by simp [same])
      have tail : less ∉ text :=
        fun member => plain (List.mem_cons_of_mem b member)
      rw [List.cons_append, scan]
      simp only [Bool.false_eq_true, if_false, head]
      rw [induction tail]
      simp

theorem scan_inside {inner : Bytes} (inside : greater ∉ inner)
    (seen rest : Bytes) :
    scan true seen (inner ++ greater :: rest) =
      .tag (seen ++ inner ++ [greater]) :: scan false [] rest := by
  induction inner generalizing seen with
  | nil => simp [scan]
  | cons b inner induction =>
      have head : b ≠ greater := fun same => inside (by simp [same])
      have tail : greater ∉ inner :=
        fun member => inside (List.mem_cons_of_mem b member)
      rw [List.cons_append, scan]
      simp only [if_true, head, if_false]
      rw [induction tail]
      simp

theorem scan_tag {content : Bytes} (isTag : IsTag content) (seen rest : Bytes) :
    scan false seen (content ++ rest) =
      .text seen :: .tag content :: scan false [] rest := by
  obtain ⟨head, last, inside⟩ := isTag
  obtain ⟨front, rfl⟩ : ∃ front, content = front ++ [greater] :=
    ⟨content.dropLast, (List.dropLast_append_getLast? _ last).symm⟩
  rw [List.dropLast_concat] at inside
  cases front with
  | nil => exact absurd head (by decide)
  | cons b inner =>
      have isLess : b = less := by simpa using head
      subst b
      have tail : greater ∉ inner :=
        fun member => inside (List.mem_cons_of_mem less member)
      simp only [List.cons_append, List.append_assoc, List.nil_append]
      rw [scan]
      simp only [Bool.false_eq_true, if_false, if_true]
      rw [scan_inside tail]
      simp

/-- Whatever its fields hold, a rendered template splits into its own tags and
texts. -/
theorem map_decode_scan {pieces : List Piece}
    (wellFormed : ∀ piece ∈ pieces, piece.WellFormed) {raw seen : Bytes}
    (decodes : Decodes raw seen) :
    (scan false raw (render pieces)).map Token.decode = view seen pieces := by
  induction pieces generalizing raw seen with
  | nil =>
      have same := decodes.decode_eq
      simp [scan, view, Token.decode, same]
  | cons piece pieces induction =>
      have head := wellFormed piece (by simp)
      have tail : ∀ other ∈ pieces, other.WellFormed :=
        fun other member => wellFormed other (List.mem_cons_of_mem piece member)
      rw [render_cons]
      cases piece with
      | tag content =>
          rw [Piece.render, scan_tag head, view, ← induction tail Decodes.nil]
          simp [Token.decode, decodes.decode_eq]
      | literal content =>
          rw [Piece.render, scan_text head.1, view]
          exact induction tail (decodes.append (decodes_of_not_mem head.2))
      | field value =>
          rw [Piece.render, scan_text (less_not_mem_escape value), view]
          exact induction tail (decodes.append (decodes_escape value))

theorem map_decode_tokens {pieces : List Piece}
    (wellFormed : ∀ piece ∈ pieces, piece.WellFormed) :
    (tokens (render pieces)).map Token.decode = view [] pieces :=
  map_decode_scan wellFormed Decodes.nil

theorem tag?_decode (token : Token) : token.decode.tag? = token.tag? := by
  cases token <;> rfl

theorem filterMap_tag?_view (seen : Bytes) (pieces : List Piece) :
    (view seen pieces).filterMap Token.tag? = pieces.filterMap Piece.tag? := by
  induction pieces generalizing seen with
  | nil => rfl
  | cons piece pieces induction =>
      cases piece <;>
        simp [view, List.filterMap_cons, Token.tag?, Piece.tag?, induction]

theorem tags_render {pieces : List Piece}
    (wellFormed : ∀ piece ∈ pieces, piece.WellFormed) :
    tags (render pieces) = pieces.filterMap Piece.tag? := by
  have decoded := congrArg (List.filterMap Token.tag?)
    (map_decode_tokens wellFormed)
  rw [List.filterMap_map, filterMap_tag?_view] at decoded
  rw [← decoded, tags]
  congr 1
  funext token
  exact (tag?_decode token).symm

/-! Literal markup as a template. -/

def Token.piece : Token → Piece
  | .tag content => .tag content
  | .text content => .literal content
  | .unclosed content => .literal content

def markup (literal : Bytes) : List Piece :=
  (tokens literal).map Token.piece

theorem render_scan (inTag : Bool) (seen text : Bytes) :
    render ((scan inTag seen text).map Token.piece) = seen ++ text := by
  induction text generalizing inTag seen with
  | nil => cases inTag <;> simp [scan, Token.piece, Piece.render]
  | cons b text induction =>
      cases inTag with
      | true =>
          by_cases closes : b = greater
          · simp [scan, closes, Token.piece, Piece.render, induction]
          · simp [scan, closes, induction]
      | false =>
          by_cases opens : b = less
          · simp [scan, opens, Token.piece, Piece.render, induction]
          · simp [scan, opens, induction]

@[simp] theorem render_markup (literal : Bytes) :
    render (markup literal) = literal :=
  render_scan false [] literal

@[simp] theorem filterMap_tag?_markup (literal : Bytes) :
    (markup literal).filterMap Piece.tag? = tags literal := by
  rw [markup, List.filterMap_map, tags]
  congr 1
  funext token
  cases token <;> rfl

/-! Cells of tables. -/

def opensCell (tag : Bytes) : Bool :=
  (bytes "<td").isPrefixOf tag

/-- The text behind each `<td>` tag. -/
def cells : List Token → List Bytes
  | .tag content :: .text text :: rest =>
      if opensCell content then text :: cells rest else cells rest
  | _ :: rest => cells rest
  | [] => []

def Piece.value : Piece → Bytes
  | .tag _ => []
  | .literal content => content
  | .field value => value

structure Cell where
  opening : Bytes
  content : List Piece
  deriving DecidableEq, Repr

namespace Cell

def pieces (cell : Cell) : List Piece :=
  .tag cell.opening :: (cell.content ++ [.tag (bytes "</td>")])

def text (cell : Cell) : Bytes :=
  cell.content.flatMap Piece.value

structure WellFormed (cell : Cell) : Prop where
  isTag : IsTag cell.opening
  opens : opensCell cell.opening = true
  content : ∀ piece ∈ cell.content, piece.WellFormed ∧ piece.tag? = none

theorem WellFormed.pieces {cell : Cell} (wellFormed : cell.WellFormed) :
    ∀ piece ∈ cell.pieces, piece.WellFormed := by
  intro piece member
  simp only [Cell.pieces, List.mem_cons, List.mem_append, List.not_mem_nil,
    or_false] at member
  rcases member with rfl | inside | rfl
  · exact wellFormed.isTag
  · exact (wellFormed.content piece inside).1
  · exact (by decide : IsTag (bytes "</td>"))

end Cell

theorem view_texts {content : List Piece}
    (noTags : ∀ piece ∈ content, piece.tag? = none) (seen : Bytes)
    (rest : List Piece) :
    view seen (content ++ rest) = view (seen ++ content.flatMap Piece.value) rest := by
  induction content generalizing seen with
  | nil => simp
  | cons piece content induction =>
      have tail : ∀ other ∈ content, other.tag? = none :=
        fun other member => noTags other (List.mem_cons_of_mem piece member)
      cases piece with
      | tag content => exact absurd (noTags _ List.mem_cons_self) nofun
      | literal content =>
          rw [List.cons_append, view, induction tail, List.append_assoc]
          rfl
      | field value =>
          rw [List.cons_append, view, induction tail, List.append_assoc]
          rfl

theorem exists_view_eq (seen : Bytes) (pieces : List Piece) :
    ∃ text rest, view seen pieces = .text text :: rest := by
  induction pieces generalizing seen with
  | nil => exact ⟨seen, [], rfl⟩
  | cons piece pieces induction =>
      cases piece with
      | tag content => exact ⟨seen, _, rfl⟩
      | literal content => exact induction _
      | field value => exact induction _

theorem cells_view_seen (seen : Bytes) (pieces : List Piece) :
    cells (view seen pieces) = cells (view [] pieces) := by
  induction pieces generalizing seen with
  | nil => rfl
  | cons piece pieces induction =>
      cases piece with
      | tag content => rfl
      | literal content => exact (induction _).trans (induction _).symm
      | field value => exact (induction _).trans (induction _).symm

theorem cells_view_tag {content : Bytes} (other : opensCell content = false)
    (seen : Bytes) (rest : List Piece) :
    cells (view seen (.tag content :: rest)) = cells (view [] rest) := by
  obtain ⟨text, tokens, viewed⟩ := exists_view_eq [] rest
  rw [view, viewed]
  simp [cells, other]

theorem cells_view_append {pieces : List Piece}
    (noCells : ∀ content ∈ pieces.filterMap Piece.tag?,
      opensCell content = false)
    (seen : Bytes) (rest : List Piece) :
    cells (view seen (pieces ++ rest)) = cells (view [] rest) := by
  induction pieces generalizing seen with
  | nil => exact cells_view_seen seen rest
  | cons piece pieces induction =>
      cases piece with
      | tag content =>
          rw [List.cons_append, cells_view_tag (noCells content (by
            simp [Piece.tag?]))]
          exact induction (fun other member => noCells other (by
            simp [Piece.tag?, member])) []
      | literal content => exact induction noCells _
      | field value => exact induction noCells _

theorem cells_view_cells {row : List Cell}
    (wellFormed : ∀ cell ∈ row, cell.WellFormed) (seen : Bytes)
    (rest : List Piece) :
    cells (view seen (row.flatMap Cell.pieces ++ rest)) =
      row.map Cell.text ++ cells (view [] rest) := by
  induction row generalizing seen with
  | nil => exact cells_view_seen seen rest
  | cons cell row induction =>
      have head := wellFormed cell (by simp)
      have others := induction
        (fun other member => wellFormed other (List.mem_cons_of_mem cell member))
        []
      rw [List.map_cons, List.cons_append, ← others]
      simp only [List.flatMap_cons, Cell.pieces, List.cons_append,
        List.append_assoc, List.nil_append]
      rw [view, view_texts (fun piece member => (head.content piece member).2),
        view]
      have closing : opensCell (bytes "</td>") = false := rfl
      obtain ⟨text, tokens, viewed⟩ :=
        exists_view_eq [] (row.flatMap Cell.pieces ++ rest)
      rw [viewed]
      simp [cells, head.opens, closing, Cell.text]

end ServicePortScanner.Data.Markup
