import ServicePortScanner.Core.Result

namespace ServicePortScanner.Data

open ServicePortScanner.Core (Floating)

/-! JSON documents as the parser of the library leaves them.  A number literal
is kept as what it fits: an unsigned or a negative integer of 64 bits, or a
floating value. -/

/-- The exceptions of the library. -/
inductive JsonError where
  | parseError
  | typeError
  | outOfRange
  deriving DecidableEq, Repr

/-- The members of an object stand in the order in which it is iterated. -/
inductive JsonNode (F : Type) where
  | null
  | boolean (value : Bool)
  | integer (value : Int)
  | unsigned (value : UInt64)
  | float (value : F)
  | string (value : Bytes)
  | array (items : List (JsonNode F))
  | object (members : List (Bytes × JsonNode F))
  deriving Repr

/-- `nlohmann::json::parse` -/
abbrev JsonParser (F : Type) := Bytes → Except JsonError (JsonNode F)

namespace JsonNode

variable {F : Type}

/-- The member under a key; none, where this is no object. -/
def find? (key : Bytes) : JsonNode F → Option (JsonNode F)
  | .object members => members.lookup key
  | _ => none

/-- A member that is present and a string. -/
def findString? (key : Bytes) (node : JsonNode F) : Option Bytes :=
  match node.find? key with
  | some (.string value) => some value
  | _ => none

/-- A member that is present and an array. -/
def findArray? (key : Bytes) (node : JsonNode F) : Option (List (JsonNode F)) :=
  match node.find? key with
  | some (.array items) => some items
  | _ => none

/-- `get<unsigned>()` of a number that is kept as an unsigned one. -/
def getUnsigned (value : UInt64) : UInt32 :=
  value.toUInt32

/-- `get<std::string>()` -/
def getString : JsonNode F → Except JsonError Bytes
  | .string value => .ok value
  | _ => .error .typeError

/-- `get<double>()` -/
def getDouble [Floating F] : JsonNode F → Except JsonError F
  | .unsigned value => .ok (Floating.literal value.toNat)
  | .integer value => .ok (Floating.literal value)
  | .float value => .ok value
  | _ => .error .typeError

/-- `value(key, fallback)` of an object. -/
def valueOr {α : Type} (get : JsonNode F → Except JsonError α) (key : Bytes)
    (fallback : α) (node : JsonNode F) : Except JsonError α :=
  match node.find? key with
  | some member => get member
  | none => .ok fallback

end JsonNode

end ServicePortScanner.Data
