import Mathlib.Data.List.Perm.Basic
import ServicePortScanner.Data.Json

namespace ServicePortScanner.Data.Json

/-! The strings of a document, by the paths that lead to them. -/

inductive Selector where
  | key (key : Bytes)
  | index (index : Nat)
  deriving DecidableEq, Repr

def only? {α : Type} : List α → Option α
  | [item] => some item
  | _ => none

/-- The member under a key that occurs once. -/
def select? {α : Type} (key : Bytes) (members : List (Bytes × α)) : Option α :=
  (only? (members.filter fun member => member.1 == key)).map Prod.snd

def Value.text? : List Selector → Value → Option Bytes
  | [], .string text => some text
  | .key key :: rest, .object members => (select? key members).bind (text? rest)
  | .index i :: rest, .array items => items[i]?.bind (text? rest)
  | _, _ => none

/-- The string that a reader of a text finds at a path. -/
def readString (text : Bytes) (path : List Selector) : Option Bytes :=
  (parse text).bind (Value.text? path)

section

variable {α β : Type}

theorem only?_map (convert : α → β) (items : List α) :
    only? (items.map convert) = (only? items).map convert := by
  rcases items with _ | ⟨first, _ | ⟨second, rest⟩⟩
  · rfl
  · rfl
  · rfl

theorem only?_perm {first second : List α} (perm : first.Perm second) :
    only? first = only? second := by
  have long := perm.length_eq
  rcases first with _ | ⟨one, _ | ⟨two, more⟩⟩
  · rw [List.nil_perm.mp perm]
  · rw [List.singleton_perm.mp perm]
  · rcases second with _ | ⟨other, _ | ⟨another, rest⟩⟩
    · cases long
    · cases long
    · rfl

theorem select?_map (key : Bytes) (members : List (Bytes × α))
    (convert : α → β) :
    select? key (members.map fun member => (member.1, convert member.2)) =
      (select? key members).map convert := by
  unfold select?
  rw [List.filter_map, only?_map, Option.map_map, Option.map_map]
  rfl

/-- Members in another order are selected alike. -/
theorem select?_perm {first second : List (Bytes × α)}
    (perm : first.Perm second) (key : Bytes) :
    select? key first = select? key second := by
  unfold select?
  rw [only?_perm (perm.filter _)]

end

end ServicePortScanner.Data.Json
