import ServicePortScanner.Data.Words

namespace ServicePortScanner.Data

/-! Texts in which some characters are written as entities. -/

variable {α : Type*} [DecidableEq α]

/-- The characters that are escaped, and their entities.  All of these begin
with a marker, which is escaped itself, and none is the beginning of another. -/
structure Escaping (α : Type*) where
  marker : α
  table : List (α × List α)
  marked : ∀ entry ∈ table, entry.2.head? = some marker
  marker_mem : marker ∈ table.map Prod.fst
  prefixFree : ∀ entry ∈ table, ∀ other ∈ table,
    entry.2 <+: other.2 → entry = other

namespace Escaping

variable (escaping : Escaping α)

def code (c : α) : List α :=
  (escaping.table.lookup c).getD [c]

def escape (text : List α) : List α :=
  text.flatMap escaping.code

/-- The entity at the beginning of a text, or else its first character. -/
def word (text : List α) : List α × Nat :=
  match escaping.table.find? fun entry => entry.2.isPrefixOf text with
  | some entry => ([entry.1], entry.2.length - 1)
  | none => (text.take 1, 0)

def decode (text : List α) : List α :=
  readWords escaping.word 0 text

variable {escaping}

theorem word_entity {entry : α × List α} (member : entry ∈ escaping.table)
    (rest : List α) :
    escaping.word (entry.2 ++ rest) = ([entry.1], entry.2.length - 1) := by
  have isPrefix : entry.2.isPrefixOf (entry.2 ++ rest) = true :=
    List.isPrefixOf_iff_prefix.mpr (List.prefix_append _ _)
  unfold word
  cases found : escaping.table.find? fun entry' =>
      entry'.2.isPrefixOf (entry.2 ++ rest) with
  | none => exact absurd isPrefix (List.find?_eq_none.mp found entry member)
  | some other =>
      have here := (List.find?_eq_some_iff_append.mp found).1
      have isPrefix' := List.isPrefixOf_iff_prefix.mp here
      have inTable := List.mem_of_find?_eq_some found
      have same : other = entry := by
        rcases List.prefix_or_prefix_of_prefix isPrefix'
          (List.prefix_append entry.2 rest) with shorter | longer
        · exact escaping.prefixFree other inTable entry member shorter
        · exact (escaping.prefixFree entry member other inTable longer).symm
      subst same
      rfl

theorem word_plain {c : α} (plain : c ≠ escaping.marker) (rest : List α) :
    escaping.word (c :: rest) = ([c], 0) := by
  have none : escaping.table.find?
      (fun entry => entry.2.isPrefixOf (c :: rest)) = none := by
    refine List.find?_eq_none.mpr ?_
    intro entry member isPrefix
    have head := escaping.marked entry member
    obtain ⟨more, whole⟩ := List.isPrefixOf_iff_prefix.mp isPrefix
    cases text : entry.2 with
    | nil => simp [text] at head
    | cons d tail =>
        rw [text] at head whole
        exact plain ((List.cons.inj whole).1.symm.trans (Option.some.inj head))
  unfold word
  rw [none]
  rfl

theorem reads_code (c : α) (rest : List α) :
    ∃ d tail, escaping.code c = d :: tail ∧
      escaping.word (d :: (tail ++ rest)) = ([c], tail.length) := by
  unfold code
  cases found : escaping.table.lookup c with
  | none =>
      refine ⟨c, [], rfl, word_plain ?_ rest⟩
      intro same
      obtain ⟨entry, member, isMarker⟩ := List.mem_map.mp escaping.marker_mem
      have other := List.lookup_eq_none_iff.mp found entry member
      simp [same, isMarker] at other
  | some entity =>
      obtain ⟨before, behind, split, _⟩ := List.lookup_eq_some_iff.mp found
      have member : (c, entity) ∈ escaping.table := by simp [split]
      have isWord := word_entity member rest
      have head := escaping.marked _ member
      cases entity with
      | nil => cases head
      | cons d tail => exact ⟨d, tail, rfl, isWord⟩

theorem decode_escape (text : List α) :
    escaping.decode (escaping.escape text) = text :=
  readWords_flatMap reads_code text

end Escaping

end ServicePortScanner.Data
