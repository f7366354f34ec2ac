import ServicePortScanner.Data.JsonNode
import ServicePortScanner.Probes.ProbeEngine

namespace ServicePortScanner.Probes

open ServicePortScanner.Data

/-! Probe rules from a JSON document. -/

def nibble (c : UInt8) : Option UInt8 :=
  if 0x30 ≤ c ∧ c ≤ 0x39 then some (c - 0x30)
  else if 0x61 ≤ c ∧ c ≤ 0x66 then some (10 + c - 0x61)
  else if 0x41 ≤ c ∧ c ≤ 0x46 then some (10 + c - 0x41)
  else none

/-- The loop over pairs of digits. -/
def decodePairs : Bytes → Option Bytes
  | hi :: lo :: rest =>
      match nibble hi, nibble lo with
      | some hi, some lo =>
          (decodePairs rest).map fun out => (hi <<< 4 ||| lo) :: out
      | _, _ => none
  | _ => some []

def decodeHex (hex : Bytes) : Option Bytes :=
  if hex.length % 2 ≠ 0 then none else decodePairs hex

variable {F : Type}

/-- `compiles` tells the patterns that `std::regex` accepts. -/
def parseMatch (compiles : Bytes → Bool) (j : JsonNode F) : Option MatchRule :=
  match j.findString? (bytes "regex") with
  | some pattern =>
      if compiles pattern then
        some {
          rawPattern := pattern
          serviceTemplate := (j.findString? (bytes "service")).getD []
          versionTemplate := (j.findString? (bytes "version")).getD [] }
      else none
  | none => none

/-- What a rule sends; none, where its hex text is invalid. -/
def parsePayload (j : JsonNode F) : Option Bytes :=
  match j.findString? (bytes "send") with
  | some payload => some payload
  | none =>
      match j.findString? (bytes "send_hex") with
      | some hex => decodeHex hex
      | none => some []

/-- One turn of the loop over `ports`. -/
def parsePort : JsonNode F → Option UInt16
  | .unsigned value =>
      let v := JsonNode.getUnsigned value
      if 1 ≤ v ∧ v ≤ 65535 then some v.toUInt16 else none
  | _ => none

def parseProbe (compiles : Bytes → Bool) (j : JsonNode F) : Option ProbeRule :=
  match j.findString? (bytes "name"), j.findArray? (bytes "match") with
  | some name, some patterns =>
      match parsePayload j with
      | some payload =>
          let rule : ProbeRule :=
            { name := name
              ports := ((j.findArray? (bytes "ports")).getD []).filterMap parsePort
              sendPayload := payload
              matchRules := patterns.filterMap (parseMatch compiles) }
          if rule.matchRules.isEmpty then none else some rule
      | none => none
  | _, _ => none

structure ProbeDatabase where
  rules : List ProbeRule := []
  deriving DecidableEq, Repr

namespace ProbeDatabase

/-- Only a parse error is caught. -/
def parse (parseJson : JsonParser F) (compiles : Bytes → Bool)
    (text : Bytes) : Except JsonError ProbeDatabase :=
  match parseJson text with
  | .error .parseError => .ok {}
  | .error error => .error error
  | .ok j =>
      match j.findArray? (bytes "probes") with
      | some entries => .ok { rules := entries.filterMap (parseProbe compiles) }
      | none => .ok {}

/-- The rule has been made of this entry of the document. -/
def Obtains (parseJson : JsonParser F) (compiles : Bytes → Bool) (text : Bytes)
    (entry : JsonNode F) (rule : ProbeRule) : Prop :=
  ∃ j entries, parseJson text = .ok j ∧
    j.findArray? (bytes "probes") = some entries ∧ entry ∈ entries ∧
    parseProbe compiles entry = some rule

theorem mem_parse_iff {parseJson : JsonParser F} {compiles : Bytes → Bool}
    {text : Bytes} {db : ProbeDatabase}
    (parsed : parse parseJson compiles text = .ok db) (rule : ProbeRule) :
    rule ∈ db.rules ↔ ∃ entry, Obtains parseJson compiles text entry rule := by
  unfold parse at parsed
  unfold Obtains
  split at parsed
  · next failed =>
      cases parsed
      simp [failed]
  · cases parsed
  · next j read =>
      split at parsed
      · next entries found =>
          cases parsed
          simp [read, found, List.mem_filterMap]
      · next absent =>
          cases parsed
          simp [read, absent]

end ProbeDatabase

/-! The ports of a rule. -/

theorem parseProbe_ports {compiles : Bytes → Bool} {entry : JsonNode F}
    {rule : ProbeRule} (parsed : parseProbe compiles entry = some rule) :
    rule.ports =
      ((entry.findArray? (bytes "ports")).getD []).filterMap parsePort := by
  unfold parseProbe at parsed
  split at parsed
  · split at parsed
    · obtain ⟨_, made⟩ := Option.ite_none_left_eq_some.mp parsed
      cases made
      rfl
    · cases parsed
  · cases parsed

end ServicePortScanner.Probes
