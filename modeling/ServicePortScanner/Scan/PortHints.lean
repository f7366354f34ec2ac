import ServicePortScanner.Core.ExactFloating
import ServicePortScanner.Scan.ProbeAttempts

namespace ServicePortScanner.Scan

open ServicePortScanner.Data ServicePortScanner.Core ServicePortScanner.Probes

/-! Whether a probe is sent only to the ports its entry lists. -/

section

variable {F : Type}

def listedInteger? : JsonNode F → Option Int
  | .unsigned value => some value.toNat
  | .integer value => some value
  | _ => none

def Listed (port : UInt16) (items : List (JsonNode F)) : Prop :=
  ∃ item ∈ items, listedInteger? item = some (port.toNat : Int)

/-- Modulo 2^32 some number of the array is a port, so that the hints are not
empty, and none but the port itself is this port. -/
def Confined (port : UInt16) (items : List (JsonNode F)) : Prop :=
  Listed port items ∨
    (∃ value, .unsigned value ∈ items ∧ 1 ≤ value.toNat % 2 ^ 32 ∧
      value.toNat % 2 ^ 32 ≤ 65535) ∧
    ∀ value, .unsigned value ∈ items →
      value.toNat % 2 ^ 32 = port.toNat → port = 0

theorem parsePort_eq_some {item : JsonNode F} {port : UInt16} :
    parsePort item = some port ↔ ∃ value, item = .unsigned value ∧
      value.toNat % 2 ^ 32 = port.toNat ∧ port ≠ 0 := by
  have positive : port ≠ 0 ↔ 1 ≤ port.toNat := by
    rw [ne_eq, ← UInt16.toNat_inj]
    exact Nat.one_le_iff_ne_zero.symm
  have bound := port.toNat_lt
  constructor
  · intro parsed
    unfold parsePort at parsed
    split at parsed
    · next value =>
        obtain ⟨⟨least, most⟩, same⟩ := Option.ite_none_right_eq_some.mp parsed
        have narrowed := congrArg UInt16.toNat (Option.some.inj same)
        simp only [JsonNode.getUnsigned, UInt32.le_iff_toNat_le,
          UInt32.toNat_toUInt16, UInt64.toNat_toUInt32] at least most narrowed
        have unchanged : value.toNat % 2 ^ 32 % 2 ^ 16 = value.toNat % 2 ^ 32 :=
          Nat.mod_eq_of_lt (Nat.lt_succ_of_le most)
        rw [unchanged] at narrowed
        exact ⟨value, rfl, narrowed, positive.mpr (narrowed ▸ least)⟩
    · cases parsed
  · intro reached
    obtain ⟨value, rfl, same, nonzero⟩ := reached
    have inRange : 1 ≤ JsonNode.getUnsigned value ∧
        JsonNode.getUnsigned value ≤ 65535 := by
      simp only [JsonNode.getUnsigned, UInt32.le_iff_toNat_le,
        UInt64.toNat_toUInt32, same]
      exact ⟨positive.mp nonzero, Nat.le_of_lt_succ bound⟩
    have narrowed : (JsonNode.getUnsigned value).toUInt16 = port := by
      rw [← UInt16.toNat_inj, UInt32.toNat_toUInt16, JsonNode.getUnsigned,
        UInt64.toNat_toUInt32, same]
      exact Nat.mod_eq_of_lt bound
    rw [parsePort, if_pos inRange, narrowed]

theorem mem_hints_iff {items : List (JsonNode F)} {port : UInt16} :
    port ∈ items.filterMap parsePort ↔ ∃ value, .unsigned value ∈ items ∧
      value.toNat % 2 ^ 32 = port.toNat ∧ port ≠ 0 := by
  simp only [List.mem_filterMap, parsePort_eq_some]
  constructor
  · intro found
    obtain ⟨_, member, value, rfl, reached⟩ := found
    exact ⟨value, member, reached⟩
  · intro found
    obtain ⟨value, member, reached⟩ := found
    exact ⟨_, member, value, rfl, reached⟩

theorem hints_ne_nil_iff {items : List (JsonNode F)} :
    items.filterMap parsePort ≠ [] ↔ ∃ value, .unsigned value ∈ items ∧
      1 ≤ value.toNat % 2 ^ 32 ∧ value.toNat % 2 ^ 32 ≤ 65535 := by
  constructor
  · intro nonempty
    obtain ⟨port, member⟩ := List.exists_mem_of_ne_nil _ nonempty
    obtain ⟨value, found, same, nonzero⟩ := mem_hints_iff.mp member
    have positive : port.toNat ≠ 0 := fun zero =>
      nonzero (UInt16.toNat_inj.mp zero)
    have bound := port.toNat_lt
    exact ⟨value, found, by omega, by omega⟩
  · intro reached
    obtain ⟨value, found, least, most⟩ := reached
    have same : (UInt16.ofNat (value.toNat % 2 ^ 32)).toNat =
        value.toNat % 2 ^ 32 :=
      UInt16.toNat_ofNat_of_lt (Nat.lt_succ_of_le most)
    apply List.ne_nil_of_mem
    apply mem_hints_iff.mpr
    refine ⟨value, found, same.symm, ?_⟩
    intro zero
    rw [zero] at same
    rw [← same] at least
    cases least

theorem matchesHint_iff {rule : ProbeRule} {port : UInt16} :
    (ProbeVariant.json rule).matchesHint port = true ↔
      rule.ports = [] ∨ port ∈ rule.ports := by
  simp [ProbeVariant.matchesHint, ProbeVariant.hintPorts]

variable [Floating F]

/-- The probe is sent to unlisted ports exactly where its hints are empty or
have another port in place of a number that is too large. -/
theorem attempted_listed_iff {parseJson : JsonParser F}
    {compiles : Bytes → Bool} {text : Bytes} {entry : JsonNode F}
    {rule : ProbeRule} {items : List (JsonNode F)}
    (obtained : ProbeDatabase.Obtains parseJson compiles text entry rule)
    (ports : entry.findArray? (bytes "ports") = some items) (port : UInt16) :
    (AttemptedOn F (.json rule) port → Listed port items) ↔
      Confined port items := by
  obtain ⟨_, _, _, _, _, parsed⟩ := obtained
  have hints : rule.ports = items.filterMap parsePort := by
    rw [parseProbe_ports parsed, ports]
    rfl
  rw [attemptedOn_iff, matchesHint_iff, hints]
  by_cases listed : Listed port items
  · exact iff_of_true (fun _ => listed) (.inl listed)
  · have unhinted : (items.filterMap parsePort = [] ∨
        port ∈ items.filterMap parsePort → Listed port items) ↔
        items.filterMap parsePort ≠ [] ∧ port ∉ items.filterMap parsePort := by
      simp only [listed, imp_false, not_or, ne_eq]
    rw [unhinted, hints_ne_nil_iff, mem_hints_iff, Confined]
    simp only [listed, false_or, not_exists, not_and, ne_eq, not_not]

end

/-! Arrays that widen or move the ports. -/

def oneProbe (ports : List (JsonNode ℚ)) : JsonNode ℚ :=
  .object [
    (bytes "match", .array [.object [(bytes "regex", .string (bytes "^x"))]]),
    (bytes "name", .string (bytes "x")),
    (bytes "ports", .array ports)]

def oneProbeText (portsText : Bytes) : Bytes :=
  bytes "\x7b\"probes\": [\x7b\"match\": [\x7b\"regex\": \"^x\"\x7d]," ++
    bytes "\"name\": \"x\", \"ports\": [" ++ portsText ++ bytes "]\x7d]\x7d"

def oneProbeDocument (portsText : Bytes) (ports : List (JsonNode ℚ)) :
    JsonParser ℚ := fun text =>
  if text = oneProbeText portsText then
    .ok (.object [(bytes "probes", .array [oneProbe ports])])
  else .error .parseError

def oneProbeRule (ports : List UInt16) : ProbeRule where
  name := bytes "x"
  ports := ports
  sendPayload := []
  matchRules := [⟨bytes "^x", [], []⟩]

theorem oneProbe_obtained (portsText : Bytes) (items : List (JsonNode ℚ)) :
    ProbeDatabase.Obtains (oneProbeDocument portsText items) (fun _ => true)
      (oneProbeText portsText) (oneProbe items)
      (oneProbeRule (items.filterMap parsePort)) :=
  ⟨_, [oneProbe items], if_pos rfl, rfl, List.mem_cons_self, rfl⟩

/-- An array of 22 and a number beyond all ports keeps to port 22. -/
theorem attempted_listed_iff_ssh :
    (AttemptedOn ℚ (.json (oneProbeRule [22])) 80 →
        Listed 80 ([.unsigned 22, .unsigned 70000] : List (JsonNode ℚ))) ↔
      Confined 80 ([.unsigned 22, .unsigned 70000] : List (JsonNode ℚ)) :=
  attempted_listed_iff
    (oneProbe_obtained (bytes "22, 70000") [.unsigned 22, .unsigned 70000]) rfl 80

/-- An array that lists port 0 makes a probe of every port, and 2^32 + 22
makes one of port 22. -/
theorem unlisted_attempted :
    (ProbeDatabase.Obtains (oneProbeDocument (bytes "0") [.unsigned 0])
        (fun _ => true) (oneProbeText (bytes "0"))
        (oneProbe [.unsigned 0]) (oneProbeRule []) ∧
      AttemptedOn ℚ (.json (oneProbeRule [])) 80 ∧
      ¬ Listed 80 ([.unsigned 0] : List (JsonNode ℚ))) ∧
    ProbeDatabase.Obtains
        (oneProbeDocument (bytes "4294967318") [.unsigned 4294967318])
        (fun _ => true) (oneProbeText (bytes "4294967318"))
        (oneProbe [.unsigned 4294967318]) (oneProbeRule [22]) ∧
      AttemptedOn ℚ (.json (oneProbeRule [22])) 22 ∧
      ¬ Listed 22 ([.unsigned 4294967318] : List (JsonNode ℚ)) := by
  refine ⟨⟨oneProbe_obtained (bytes "0") [.unsigned 0], ?_, ?_⟩,
    oneProbe_obtained (bytes "4294967318") [.unsigned 4294967318], ?_, ?_⟩
  · exact (attemptedOn_iff ℚ _ _).mpr rfl
  · simp [Listed, listedInteger?]
  · exact (attemptedOn_iff ℚ _ _).mpr rfl
  · simp [Listed, listedInteger?]

end ServicePortScanner.Scan
