import ServicePortScanner.Core.Result

namespace ServicePortScanner.Fp

open ServicePortScanner.Data ServicePortScanner.Core

/-! Exploit probabilities by CVE id. -/

/-- `std::toupper` in the "C" locale. -/
def toUpper (s : Bytes) : Bytes :=
  s.map fun c => if 0x61 ≤ c ∧ c ≤ 0x7a then c - 0x20 else c

structure EpssEntry (F : Type) where
  epss : F
  percentile : F
  deriving DecidableEq, Repr

/-- The map from upper-case ids to their entries; the first pair of an id is
the one that counts. -/
structure EpssDb (F : Type) where
  map : List (Bytes × EpssEntry F) := []
  deriving DecidableEq, Repr

namespace EpssDb

variable {F : Type} [Floating F]

omit [Floating F] in
def isEmpty (db : EpssDb F) : Bool :=
  db.map.isEmpty

def lookup (db : EpssDb F) (cveId : Bytes) : EpssEntry F :=
  match db.map.lookup (toUpper cveId) with
  | none => ⟨Floating.literal 0, Floating.literal 0⟩
  | some entry => entry

end EpssDb

end ServicePortScanner.Fp
