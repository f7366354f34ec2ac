import Mathlib.Data.Rat.Defs
import ServicePortScanner.Data.Bytes

namespace ServicePortScanner.Core

open ServicePortScanner.Data (Bytes bytes)

/-- What the program does with `double` values.  A `float` is one of them, and
is printed and compared as one. -/
class Floating (F : Type) where
  literal : ℚ → F
  lt : F → F → Bool
  le : F → F → Bool
  add : F → F → F
  sub : F → F → F
  mul : F → F → F
  div : F → F → F
  /-- `static_cast<float>` -/
  narrow : F → F
  /-- `static_cast<int>` -/
  truncate : F → Int
  isFinite : F → Bool
  /-- `operator<<` with the stream's default flags -/
  put : F → Bytes
  /-- `operator<<` after `std::fixed << std::setprecision(2)` -/
  putFixed2 : F → Bytes
  /-- `std::to_string` -/
  toString : F → Bytes

inductive PortState where
  | opened
  | closed
  | filtered
  | unknown
  deriving DecidableEq, Repr

inductive Severity where
  | critical
  | high
  | medium
  | low
  | none
  deriving DecidableEq, Repr

structure CveInfo (F : Type) where
  cveId : Bytes
  description : Bytes
  cvssScore : F
  severity : Severity
  epss : F
  percentile : F
  nucleiVerified : Bool
  deriving DecidableEq, Repr

structure ServiceInfo where
  name : Bytes := []
  product : Bytes := []
  version : Bytes := []
  extraInfo : Bytes := []
  bannerRaw : Bytes := []
  deriving DecidableEq, Repr

structure ScanResult (F : Type) where
  targetHost : Bytes
  resolvedIp : Bytes := []
  port : UInt16
  protocol : Bytes := bytes "tcp"
  state : PortState
  service : ServiceInfo := {}
  ja4s : Bytes := []
  ja4x : Bytes := []
  cdn : Bytes := []
  osGuess : Bytes := []
  cves : List (CveInfo F) := []
  timestamp : Int := 0
  rtt : Int := 0
  deriving DecidableEq, Repr

section

variable {F : Type} [Floating F]

def severityFromCvss (cvss : F) : Severity :=
  if Floating.le (Floating.literal 9) cvss then .critical
  else if Floating.le (Floating.literal 7) cvss then .high
  else if Floating.le (Floating.literal 4) cvss then .medium
  else if Floating.lt (Floating.literal 0) cvss then .low
  else .none

namespace CveInfo

def risk (cve : CveInfo F) : F :=
  Floating.mul cve.cvssScore cve.epss

end CveInfo

/-- The largest value above zero, as the loops over `cves` compute it. -/
def largest (values : List F) : F :=
  values.foldl (fun m value => if Floating.lt m value then value else m)
    (Floating.literal 0)

namespace ScanResult

def maxCvss (result : ScanResult F) : F :=
  largest (result.cves.map (·.cvssScore))

def maxEpss (result : ScanResult F) : F :=
  largest (result.cves.map (·.epss))

def maxRisk (result : ScanResult F) : F :=
  largest (result.cves.map (·.risk))

omit [Floating F] in
def verifiedCveCount (result : ScanResult F) : Int :=
  result.cves.foldl
    (fun count cve => if cve.nucleiVerified then count + 1 else count) 0

end ScanResult

theorem largest_mem (values : List F) :
    largest values = Floating.literal 0 ∨ largest values ∈ values := by
  suffices folded : ∀ m : F,
      values.foldl (fun m value => if Floating.lt m value then value else m) m
          = m ∨
        values.foldl (fun m value => if Floating.lt m value then value else m) m
          ∈ values from folded _
  induction values with
  | nil => exact fun m => .inl rfl
  | cons value rest induction =>
      intro m
      simp only [List.foldl_cons]
      by_cases larger : Floating.lt m value = true
      · rw [if_pos larger]
        rcases induction value with same | member
        · rw [same]
          exact .inr List.mem_cons_self
        · exact .inr (List.mem_cons_of_mem value member)
      · rw [if_neg larger]
        rcases induction m with same | member
        · exact .inl same
        · exact .inr (List.mem_cons_of_mem value member)

end

end ServicePortScanner.Core
