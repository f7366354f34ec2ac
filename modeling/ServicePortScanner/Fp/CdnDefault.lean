import ServicePortScanner.Fp.CdnLookup

namespace ServicePortScanner.Fp

open ServicePortScanner.Data

/-! The networks that the program knows without a file. -/

section

variable {F : Type}

/-- An entry of `ranges`. -/
def rangeNode (provider cidr : Bytes) : JsonNode F :=
  .object [(bytes "cidr", .string cidr), (bytes "provider", .string provider)]

def provided (provider : Bytes) (cidrs : List Bytes) : List (JsonNode F) :=
  cidrs.map (rangeNode provider)

/-- The member `ranges` of `kDefaultDb`. -/
def defaultRanges : List (JsonNode F) :=
    provided (bytes "cloudflare")
      [bytes "1.0.0.0/24", bytes "1.1.1.0/24", bytes "103.21.244.0/22",
        bytes "103.22.200.0/22", bytes "103.31.4.0/22", bytes "104.16.0.0/13",
        bytes "104.24.0.0/14", bytes "108.162.192.0/18",
        bytes "131.0.72.0/22", bytes "141.101.64.0/18",
        bytes "162.158.0.0/15", bytes "172.64.0.0/13",
        bytes "173.245.48.0/20", bytes "188.114.96.0/20",
        bytes "190.93.240.0/20", bytes "197.234.240.0/22",
        bytes "198.41.128.0/17"] ++
    provided (bytes "fastly")
      [bytes "23.235.32.0/20", bytes "43.249.72.0/22",
        bytes "103.244.50.0/24", bytes "103.245.222.0/23",
        bytes "104.156.80.0/20", bytes "146.75.0.0/16",
        bytes "151.101.0.0/16", bytes "157.52.64.0/18", bytes "167.82.0.0/17",
        bytes "172.111.64.0/18", bytes "185.31.16.0/22",
        bytes "199.27.72.0/21", bytes "199.232.0.0/16"] ++
    provided (bytes "aws-cloudfront")
      [bytes "13.32.0.0/15", bytes "13.224.0.0/14", bytes "52.84.0.0/15",
        bytes "54.182.0.0/16", bytes "54.192.0.0/16", bytes "54.230.0.0/16",
        bytes "54.239.128.0/18", bytes "99.84.0.0/16",
        bytes "204.246.164.0/22", bytes "205.251.192.0/19"] ++
    provided (bytes "akamai")
      [bytes "23.32.0.0/11", bytes "23.192.0.0/11", bytes "104.64.0.0/10",
        bytes "184.24.0.0/13"] ++
    provided (bytes "imperva")
      [bytes "199.83.128.0/21", bytes "198.143.32.0/19",
        bytes "149.126.72.0/21", bytes "103.28.248.0/22",
        bytes "185.11.124.0/22", bytes "192.230.64.0/18"]

end

namespace CdnDatabase

/-- What `parse` makes of `kDefaultDb`. -/
def loadDefault : CdnDatabase where
  ranges := (defaultRanges : List (JsonNode Empty)).filterMap parseRange

def isEmpty (db : CdnDatabase) : Bool :=
  db.ranges.isEmpty

def loadFromFile {F : Type} (parseJson : JsonParser F)
    (readFile : Bytes → Option Bytes) (path : Bytes) :
    Except JsonError CdnDatabase :=
  match readFile path with
  | none => .ok {}
  | some text => parse parseJson text

end CdnDatabase

/-! No address is in two of them. -/

namespace Range

def Matches (r : Range) (addr : UInt32) : Prop :=
  addr &&& r.mask = r.base

/-- The bases differ where both masks look at them. -/
def Apart (r other : Range) : Prop :=
  r.base &&& other.mask ≠ other.base &&& r.mask

instance : DecidableRel Apart :=
  fun _ _ => inferInstanceAs (Decidable (_ ≠ _))

theorem Apart.not_matches {r other : Range} (apart : r.Apart other)
    {addr : UInt32} (here : r.Matches addr) : ¬ other.Matches addr := by
  intro there
  apply apart
  rw [← here, ← there, UInt32.and_assoc, UInt32.and_assoc,
    UInt32.and_comm r.mask]

end Range

theorem loadDefault_apart :
    CdnDatabase.loadDefault.ranges.Pairwise Range.Apart := by
  decide +kernel

namespace CdnDatabase

variable {db : CdnDatabase} {s : Bytes} {addr : UInt32}

theorem lookup_eq_nil_of_no_match (parsed : parseIpv4 s = some addr)
    (unmatched : ∀ r ∈ db.ranges, ¬ r.Matches addr) : db.lookup s = [] := by
  have absent : db.ranges.find? (fun r => addr &&& r.mask = r.base) = none := by
    rw [List.find?_eq_none]
    intro r member
    rw [decide_eq_true_iff]
    exact unmatched r member
  simp only [lookup, parsed, absent]

/-- Whichever network contains the address has its provider returned. -/
theorem lookup_of_matches (apart : db.ranges.Pairwise Range.Apart)
    (parsed : parseIpv4 s = some addr) {r : Range} (member : r ∈ db.ranges)
    (here : r.Matches addr) : db.lookup s = r.provider := by
  have found : db.ranges.find? (fun r => addr &&& r.mask = r.base) = some r := by
    obtain ⟨before, behind, split⟩ := List.append_of_mem member
    rw [split, List.pairwise_append] at apart
    have passed : before.find? (fun r => addr &&& r.mask = r.base) = none := by
      rw [List.find?_eq_none]
      intro other earlier
      rw [decide_eq_true_iff]
      intro there
      exact (apart.2.2 other earlier r List.mem_cons_self).not_matches there here
    rw [split, List.find?_append, passed, Option.none_or]
    exact List.find?_cons_of_pos (decide_eq_true here)
  simp only [lookup, parsed, found]

/-- A text has the provider of the embedded network that contains its address,
wherever that stands in the table. -/
theorem lookup_loadDefault_iff {provider : Bytes} (named : provider ≠ []) :
    loadDefault.lookup s = provider ↔ ∃ addr, parseIpv4 s = some addr ∧
      ∃ r ∈ loadDefault.ranges, r.Matches addr ∧ r.provider = provider := by
  constructor
  · intro found
    cases parsed : parseIpv4 s with
    | none =>
        simp only [lookup, parsed] at found
        exact (named found.symm).elim
    | some addr =>
        refine ⟨addr, rfl, ?_⟩
        by_contra unmatched
        have nowhere (r : Range) (member : r ∈ loadDefault.ranges) :
            ¬ r.Matches addr := by
          intro here
          apply unmatched
          rw [lookup_of_matches loadDefault_apart parsed member here] at found
          exact ⟨r, member, here, found⟩
        rw [lookup_eq_nil_of_no_match parsed nowhere] at found
        exact named found.symm
  · rintro ⟨addr, parsed, r, member, here, rfl⟩
    exact lookup_of_matches loadDefault_apart parsed member here

end CdnDatabase

end ServicePortScanner.Fp
