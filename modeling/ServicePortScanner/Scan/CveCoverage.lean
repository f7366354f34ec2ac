import ServicePortScanner.Core.ExactFloating
import ServicePortScanner.Scan.ScanPipeline

namespace ServicePortScanner.Scan

open ServicePortScanner.Data ServicePortScanner.Core ServicePortScanner.Net
open ServicePortScanner.Fp ServicePortScanner.Probes

/-! What the CVE database has to say about the products that the default rules
identify. -/

theorem applyTemplate_literal {template : Bytes} (literal : 0x24 ∉ template)
    (groups : List Bytes) : applyTemplate groups template = template := by
  induction template with
  | nil => rfl
  | cons c rest induction =>
      rw [List.mem_cons, not_or] at literal
      cases rest with
      | nil => rfl
      | cons d rest =>
          rw [applyTemplate, if_neg fun escape => literal.1 escape.1.symm,
            induction literal.2]

/-- The rules call a service by its protocol, the database by its product. -/
theorem defaultRules_service (rule : ProbeRule) (isDefault : rule ∈ defaultRules)
    (matchRule : MatchRule) (member : matchRule ∈ rule.matchRules) :
    0x24 ∉ matchRule.serviceTemplate ∧
      toLower matchRule.serviceTemplate ∉ CveDb.nvdMinKeys := by
  revert matchRule
  revert rule
  decide +kernel

section

variable {F : Type} [Floating F]

/-- The product key occurs in the version in any case, and the version prefix as
it is. -/
def Names (e : Entry F) (version : Bytes) : Prop :=
  e.serviceLower <:+: toLower version ∧ e.versionPrefix <:+: version

/-- Every entry that the version names is among the hits. -/
def Covers (db : CveDb F) (result : ScanResult F) : Prop :=
  ∀ e ∈ db.entries, Names e result.service.version →
    e.id ∈ result.cves.map CveInfo.cveId

/-- Service and version come from a rule of the embedded database. -/
def FromDefaultRule (service : ServiceInfo) : Prop :=
  ∃ rule ∈ defaultRules, ∃ matchRule ∈ rule.matchRules, ∃ groups,
    service.name = applyTemplate groups matchRule.serviceTemplate ∧
    service.version = applyTemplate groups matchRule.versionTemplate

theorem lookup_fromDefaultRule {service : ServiceInfo}
    (fromRule : FromDefaultRule service) (version : Bytes) :
    (CveDb.nvdMin : CveDb F).lookup service.name version = [] := by
  obtain ⟨rule, isDefault, matchRule, member, groups, name, _⟩ := fromRule
  obtain ⟨literal, unknown⟩ :=
    defaultRules_service rule isDefault matchRule member
  rw [applyTemplate_literal literal] at name
  apply CveDb.lookup_eq_nil
  intro e inDb same
  rw [name] at same
  exact unknown (same ▸ CveDb.serviceLower_mem_nvdMinKeys inDb)

/-- The hits of a result are those for its service, or it has none. -/
def LookedUp (cves : Option (CveDb F)) (result : ScanResult F) : Prop :=
  result.cves = [] ∨ ∃ db, cves = some db ∧
    result.cves = db.lookup result.service.name result.service.version

theorem lookupCves_lookedUp (cves : Option (CveDb F)) {base : ScanResult F}
    (none : base.cves = []) : LookedUp cves (lookupCves cves base) := by
  unfold lookupCves
  split
  · next db =>
      split
      · exact .inr ⟨db, rfl, rfl⟩
      · exact .inl none
  · exact .inl none

variable {sha256Hex : Bytes → Bytes} {request : ScanRequest}
variable {rtt timestamp : Int} {probes : Option (List ProbeVariant)}
variable {cves : Option (CveDb F)}

theorem lookedUp_of_identified {base result : ScanResult F}
    (none : base.cves = []) (identified : Identified cves base result) :
    LookedUp cves result := by
  rcases identified with rfl | rfl | ⟨out, _, rfl⟩
  · exact .inl none
  · exact lookupCves_lookedUp cves none
  · exact lookupCves_lookedUp cves none

theorem scanOne_cves {script : Script} {result : ScanResult F}
    (returned : ((scanOne sha256Hex request rtt timestamp probes
      (some CveDb.nvdMin) : Task Unit (ScanResult F)).run ()
        script).status = .returned result)
    (fromRule : FromDefaultRule result.service) : result.cves = [] := by
  obtain ⟨state, identified⟩ := scanOne_returns.of_returned returned
  rcases lookedUp_of_identified rfl identified with none | ⟨db, same, hits⟩
  · exact none
  · cases same
    rw [hits, lookup_fromDefaultRule fromRule]

/-- A service that a default rule has identified has its entries among the hits
if and only if there are no such entries. -/
theorem scanOne_covers_iff {script : Script} {result : ScanResult F}
    (returned : ((scanOne sha256Hex request rtt timestamp (some defaultProbes)
      (some CveDb.nvdMin) : Task Unit (ScanResult F)).run ()
        script).status = .returned result)
    (fromRule : FromDefaultRule result.service) :
    Covers CveDb.nvdMin result ↔
      ∀ e ∈ (CveDb.nvdMin : CveDb F).entries,
        ¬ Names e result.service.version := by
  have none := scanOne_cves returned fromRule
  constructor
  · intro covers e inDb names
    have hit := covers e inDb names
    rw [none] at hit
    cases hit
  · intro unnamed e inDb names
    exact (unnamed e inDb names).elim

end

/-- An OpenSSH 7.4 server that sends its identification. -/
def sshBanner : Script :=
  answers [.granted, .resolved [⟨bytes "10.0.0.5", 22⟩], .connected,
    .resolved [⟨bytes "10.0.0.5", 22⟩], .connected,
    .received (bytes "SSH-2.0-OpenSSH_7.4\r\n")] ++
  [.timer, .answer (.searched (.found
    [bytes "SSH-2.0-OpenSSH_7.4", bytes "OpenSSH_7.4"]))]

def sshResult : ScanResult ℚ where
  targetHost := bytes "10.0.0.5"
  port := 22
  state := .opened
  service :=
    { name := bytes "ssh"
      version := bytes "OpenSSH_7.4"
      bannerRaw := bytes "SSH-2.0-OpenSSH_7.4\r\n" }
  rtt := 1

theorem sshBanner_returned :
    ((scanOne (fun _ => []) ⟨bytes "10.0.0.5", 22, 2000⟩ 1 0
      (some defaultProbes) (some CveDb.nvdMin) :
        Task Unit (ScanResult ℚ)).run () sshBanner).status =
      .returned sshResult := by
  decide +kernel

theorem sshResult_fromDefaultRule : FromDefaultRule sshResult.service :=
  ⟨sshRule, List.mem_cons_self, _, List.mem_singleton_self _,
    [bytes "SSH-2.0-OpenSSH_7.4", bytes "OpenSSH_7.4"], by decide, by decide⟩

theorem scanOne_covers_iff_ssh :
    Covers CveDb.nvdMin sshResult ↔
      ∀ e ∈ (CveDb.nvdMin : CveDb ℚ).entries,
        ¬ Names e sshResult.service.version :=
  scanOne_covers_iff sshBanner_returned sshResult_fromDefaultRule

/-- The version of an OpenSSH 7.4 server names an entry, and the entry is not
among its hits. -/
theorem sshBanner_not_covered :
    ((scanOne (fun _ => []) ⟨bytes "10.0.0.5", 22, 2000⟩ 1 0
      (some defaultProbes) (some CveDb.nvdMin) :
        Task Unit (ScanResult ℚ)).run () sshBanner).status =
      .returned sshResult ∧
    FromDefaultRule sshResult.service ∧ ¬ Covers CveDb.nvdMin sshResult := by
  refine ⟨sshBanner_returned, sshResult_fromDefaultRule, fun covers => ?_⟩
  have named := covers
    ⟨bytes "openssh", bytes "7.4", bytes "CVE-2018-15473", 5.3⟩
    (by decide +kernel) (by unfold Names; decide +kernel)
  cases named

end ServicePortScanner.Scan
