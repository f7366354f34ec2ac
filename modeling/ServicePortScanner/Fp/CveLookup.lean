import Mathlib.Data.List.Infix
import ServicePortScanner.Core.Result

namespace ServicePortScanner.Fp

open ServicePortScanner.Data ServicePortScanner.Core

/-! The CVE database: known vulnerabilities by service and version. -/

/-- `std::tolower` in the "C" locale. -/
def toLower (s : Bytes) : Bytes :=
  s.map fun c => if 0x41 ≤ c ∧ c ≤ 0x5a then c + 0x20 else c

def versionMatches (version versionPrefix : Bytes) : Bool :=
  !versionPrefix.isEmpty && decide (versionPrefix <:+: version)

structure Entry (F : Type) where
  serviceLower : Bytes
  versionPrefix : Bytes
  id : Bytes
  cvss : F
  deriving DecidableEq, Repr

structure CveDb (F : Type) where
  entries : List (Entry F) := []
  deriving DecidableEq, Repr

namespace CveDb

variable {F : Type} [Floating F]

omit [Floating F] in
def isEmpty (db : CveDb F) : Bool :=
  db.entries.isEmpty

def hit (e : Entry F) : CveInfo F where
  cveId := e.id
  description := []
  cvssScore := Floating.narrow e.cvss
  severity := severityFromCvss e.cvss
  epss := Floating.literal 0
  percentile := Floating.literal 0
  nucleiVerified := false

/-- The pass that only counts the hits, for `reserve`, is left out. -/
def lookup (db : CveDb F) (service version : Bytes) : List (CveInfo F) :=
  if service.isEmpty || version.isEmpty then []
  else
    let svc := toLower service
    (db.entries.filter fun e =>
      e.serviceLower == svc && versionMatches version e.versionPrefix).map hit

theorem lookup_eq_nil {db : CveDb F} {service : Bytes}
    (unknown : ∀ e ∈ db.entries, e.serviceLower ≠ toLower service)
    (version : Bytes) : db.lookup service version = [] := by
  unfold lookup
  split
  · rfl
  · rw [List.map_eq_nil_iff, List.filter_eq_nil_iff]
    intro e member
    simp [unknown e member]

/-! The database that is shipped as `data/nvd_min.json`. -/

def product (name : Bytes) (items : List (Bytes × Bytes × ℚ)) : List (Entry F) :=
  items.map fun (versionPrefix, id, cvss) =>
    ⟨toLower name, versionPrefix, id, Floating.literal cvss⟩

/-- What `load` makes of the file; a parsed object has its keys in order. -/
def nvdMin : CveDb F where
  entries :=
    product (bytes "apache")
      [(bytes "2.4.49", bytes "CVE-2021-41773", 9.8),
        (bytes "2.4.50", bytes "CVE-2021-42013", 9.8)] ++
    product (bytes "exim") [(bytes "4.87", bytes "CVE-2019-10149", 9.8)] ++
    product (bytes "nginx")
      [(bytes "1.15", bytes "CVE-2019-9511", 7.5),
        (bytes "1.20", bytes "CVE-2021-23017", 9.8)] ++
    product (bytes "openssh")
      [(bytes "7.4", bytes "CVE-2018-15473", 5.3),
        (bytes "7.7", bytes "CVE-2018-15919", 5.3),
        (bytes "8.5", bytes "CVE-2021-41617", 7.0),
        (bytes "9.5", bytes "CVE-2023-48795", 5.9)] ++
    product (bytes "proftpd") [(bytes "1.3.5", bytes "CVE-2015-3306", 9.8)] ++
    product (bytes "tls")
      [(bytes "TLSv1.0", bytes "CVE-2014-3566", 3.4),
        (bytes "TLSv1.1", bytes "CVE-2011-3389", 4.3)] ++
    product (bytes "vsftpd") [(bytes "2.3.4", bytes "CVE-2011-2523", 9.8)]

def nvdMinKeys : List Bytes :=
  [bytes "apache", bytes "exim", bytes "nginx", bytes "openssh",
    bytes "proftpd", bytes "tls", bytes "vsftpd"]

theorem serviceLower_of_mem_product {name : Bytes}
    {items : List (Bytes × Bytes × ℚ)} {e : Entry F}
    (member : e ∈ product name items) : e.serviceLower = toLower name := by
  obtain ⟨item, _, rfl⟩ := List.mem_map.mp member
  rfl

theorem serviceLower_mem_nvdMinKeys {e : Entry F}
    (member : e ∈ (nvdMin : CveDb F).entries) : e.serviceLower ∈ nvdMinKeys := by
  simp only [nvdMin, List.mem_append] at member
  rcases member with (((((apache | exim) | nginx) | openssh) | proftpd) | tls) |
    vsftpd
  · rw [serviceLower_of_mem_product apache]; decide
  · rw [serviceLower_of_mem_product exim]; decide
  · rw [serviceLower_of_mem_product nginx]; decide
  · rw [serviceLower_of_mem_product openssh]; decide
  · rw [serviceLower_of_mem_product proftpd]; decide
  · rw [serviceLower_of_mem_product tls]; decide
  · rw [serviceLower_of_mem_product vsftpd]; decide

end CveDb

end ServicePortScanner.Fp
