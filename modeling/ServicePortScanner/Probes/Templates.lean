import ServicePortScanner.Data.CoroutineRules
import ServicePortScanner.Probes.ProbeEngine

namespace ServicePortScanner.Probes

open ServicePortScanner.Data ServicePortScanner.Net

/-! What `apply_template` makes of a template. -/

inductive Piece where
  | group (index : Nat)
  | copied (c : UInt8)
  deriving DecidableEq, Repr

/-- The text of a group that the match does not have is empty. -/
def Piece.expand (groups : List Bytes) : Piece → Bytes
  | .group index => groups.getD index []
  | .copied c => [c]

def StartsWithDigit (text : Bytes) : Prop :=
  ∃ d, text.head? = some d ∧ IsDigit d

/-- A `$` in front of a digit is a reference together with it, and any other
byte stands for itself. -/
inductive ReadsAs : Bytes → List Piece → Prop
  | nil : ReadsAs [] []
  | group {d : UInt8} {rest : Bytes} {pieces : List Piece} (digit : IsDigit d)
      (tail : ReadsAs rest pieces) :
      ReadsAs (0x24 :: d :: rest) (.group (d.toNat - 0x30) :: pieces)
  | copied {c : UInt8} {rest : Bytes} {pieces : List Piece}
      (plain : ¬ (c = 0x24 ∧ StartsWithDigit rest))
      (tail : ReadsAs rest pieces) :
      ReadsAs (c :: rest) (.copied c :: pieces)

/-- No reference goes over the boundary between two templates. -/
def Apart (front back : Bytes) : Prop :=
  ¬ (front.getLast? = some 0x24 ∧ StartsWithDigit back)

theorem Apart.tail {c : UInt8} {front back : Bytes}
    (apart : Apart (c :: front) back) : Apart front back := by
  intro crossing
  refine apart ⟨?_, crossing.2⟩
  rw [List.getLast?_cons, crossing.1]
  rfl

theorem startsWithDigit_cons {d : UInt8} {rest : Bytes} :
    StartsWithDigit (d :: rest) ↔ IsDigit d := by
  simp [StartsWithDigit]

namespace ReadsAs

theorem exists_pieces (template : Bytes) :
    ∃ pieces, ReadsAs template pieces := by
  induction template using applyTemplate.induct with
  | case1 => exact ⟨[], .nil⟩
  | case2 c d rest reference induction =>
      obtain ⟨dollar, digit⟩ := reference
      obtain ⟨pieces, tail⟩ := induction
      subst dollar
      exact ⟨_, .group digit tail⟩
  | case3 c d rest plain induction =>
      obtain ⟨pieces, tail⟩ := induction
      refine ⟨_, .copied ?_ tail⟩
      rw [startsWithDigit_cons]
      exact plain
  | case4 c =>
      refine ⟨_, .copied ?_ .nil⟩
      intro reference
      obtain ⟨_, _, none, _⟩ := reference
      cases none

theorem unique {template : Bytes} {pieces others : List Piece}
    (reads : ReadsAs template pieces) (reads' : ReadsAs template others) :
    others = pieces := by
  induction reads generalizing others with
  | nil =>
      cases reads'
      rfl
  | group digit tail induction =>
      cases reads' with
      | group digit' tail' => rw [induction tail']
      | copied plain tail' =>
          exact absurd ⟨rfl, startsWithDigit_cons.mpr digit⟩ plain
  | copied plain tail induction =>
      cases reads' with
      | group digit tail' =>
          exact absurd ⟨rfl, startsWithDigit_cons.mpr digit⟩ plain
      | copied plain' tail' => rw [induction tail']

theorem applyTemplate_eq {template : Bytes} {pieces : List Piece}
    (reads : ReadsAs template pieces) (groups : List Bytes) :
    applyTemplate groups template = pieces.flatMap (Piece.expand groups) := by
  induction reads with
  | nil => rfl
  | group digit tail induction =>
      rw [applyTemplate, if_pos ⟨rfl, digit⟩, induction]
      rfl
  | @copied c rest pieces plain tail induction =>
      cases rest with
      | nil =>
          cases tail
          rfl
      | cons d rest =>
          rw [startsWithDigit_cons] at plain
          rw [applyTemplate, if_neg plain, induction]
          rfl

theorem append {front back : Bytes} {first second : List Piece}
    (reads : ReadsAs front first) (reads' : ReadsAs back second)
    (apart : Apart front back) : ReadsAs (front ++ back) (first ++ second) := by
  induction reads with
  | nil => exact reads'
  | group digit tail induction =>
      exact .group digit (induction apart.tail.tail)
  | @copied c rest pieces plain tail induction =>
      refine .copied ?_ (induction apart.tail)
      intro reference
      obtain ⟨dollar, digit⟩ := reference
      cases rest with
      | nil => exact apart ⟨congrArg some dollar, digit⟩
      | cons d rest => exact plain ⟨dollar, startsWithDigit_cons.mpr
          (startsWithDigit_cons.mp digit)⟩

end ReadsAs

theorem applyTemplate_append {front back : Bytes} (apart : Apart front back)
    (groups : List Bytes) :
    applyTemplate groups (front ++ back) =
      applyTemplate groups front ++ applyTemplate groups back := by
  obtain ⟨first, reads⟩ := ReadsAs.exists_pieces front
  obtain ⟨second, reads'⟩ := ReadsAs.exists_pieces back
  rw [(reads.append reads' apart).applyTemplate_eq, reads.applyTemplate_eq,
    reads'.applyTemplate_eq, List.flatMap_append]

/-- What a group has captured is in the text as it is. -/
theorem infix_of_group {pieces : List Piece} {index : Nat}
    (member : .group index ∈ pieces) (groups : List Bytes) :
    groups.getD index [] <:+: pieces.flatMap (Piece.expand groups) :=
  List.infix_of_mem_flatten (List.mem_map_of_mem member)

/-! What `identify` makes of the groups of a match. -/

section

variable {σ α : Type}

/-- What is reported as matched has been found with some groups, and is what
`post` says of them. -/
def FoundAs (post : List Bytes → ProbeOutcome → Prop)
    (body : Task σ ProbeOutcome) : Prop :=
  Co.Satisfies body fun used _ status => ∀ outcome,
    status = .returned outcome → outcome.matched = true →
      ∃ groups, .answer (.searched (.found groups)) ∈ used ∧
        post groups outcome

namespace FoundAs

variable {post : List Bytes → ProbeOutcome → Prop}

theorem unmatched : FoundAs post (pure {} : Task σ ProbeOutcome) := by
  refine Co.Satisfies.pure ?_
  intro outcome same
  cases same
  exact nofun

theorem bind {body : Task σ α} {next : α → Task σ ProbeOutcome}
    (tail : ∀ value, FoundAs post (next value)) :
    FoundAs post (body >>= next) := by
  refine Co.Satisfies.bind (Co.Satisfies.trivial body) tail ?_ nofun nofun
  intro _ _ _ _ _ _ _ found outcome same matched
  obtain ⟨groups, member, holds⟩ := found outcome same matched
  exact ⟨groups, List.mem_append_right _ member, holds⟩

theorem ite {condition : Prop} [Decidable condition]
    {body other : Task σ ProbeOutcome} (yes : FoundAs post body)
    (no : FoundAs post other) :
    FoundAs post (if condition then body else other) := by
  split
  · exact yes
  · exact no

end FoundAs

def Matches (rules : List MatchRule) (groups : List Bytes)
    (outcome : ProbeOutcome) : Prop :=
  ∃ rule ∈ rules,
    outcome.service = applyTemplate groups rule.serviceTemplate ∧
      outcome.version = applyTemplate groups rule.versionTemplate

theorem Matches.cons {rules : List MatchRule} {groups : List Bytes}
    {outcome : ProbeOutcome} (isMatch : Matches rules groups outcome)
    {rule : MatchRule} : Matches (rule :: rules) groups outcome := by
  obtain ⟨other, member, texts⟩ := isMatch
  exact ⟨other, List.mem_cons_of_mem rule member, texts⟩

theorem regexSearch_found (subject pattern : Bytes) :
    Co.Satisfies (regexSearch subject pattern : Task σ (Option (List Bytes)))
      fun used _ status => ∀ groups, status = .returned (some groups) →
        .answer (.searched (.found groups)) ∈ used := by
  intro store script
  rw [regexSearch_run]
  split
  · exact ⟨[.answer (.searched .noMatch)], rfl, nofun⟩
  · next groups rest =>
      refine ⟨[.answer (.searched (.found groups))], rfl, ?_⟩
      intro _ same
      cases same
      exact List.mem_singleton_self _
  · next what rest => exact ⟨[.answer (.searched (.threw what))], rfl, nofun⟩
  · exact ⟨[], rfl, nofun⟩

theorem firstMatch_foundAs (banner : Bytes) (rules : List MatchRule) :
    FoundAs (Matches rules) (firstMatch banner rules :
      Task σ ProbeOutcome) := by
  induction rules with
  | nil => exact FoundAs.unmatched
  | cons rule rules induction =>
      refine Co.Satisfies.bind (regexSearch_found banner rule.rawPattern)
        (fun result => (?_ : Co.Satisfies _ fun used _ status => ∀ outcome,
          status = .returned outcome → outcome.matched = true →
            (∃ groups, result = some groups ∧
              Matches (rule :: rules) groups outcome) ∨
            ∃ groups, .answer (Answer.searched (.found groups)) ∈ used ∧
              Matches (rule :: rules) groups outcome)) ?_ nofun nofun
      · cases result with
        | none =>
            refine Co.Satisfies.mono induction ?_
            intro used trace status found outcome same matched
            obtain ⟨groups, member, holds⟩ := found outcome same matched
            exact .inr ⟨groups, member, holds.cons⟩
        | some groups =>
            refine Co.Satisfies.pure ?_
            intro outcome same _
            cases same
            exact .inl ⟨groups, rfl, rule, List.mem_cons_self, rfl, rfl⟩
      · intro used trace result used' trace' status hit rest outcome same
          matched
        rcases rest outcome same matched with
          ⟨groups, found, holds⟩ | ⟨groups, member, holds⟩
        · exact ⟨groups, List.mem_append_left _ (hit groups (found ▸ rfl)),
            holds⟩
        · exact ⟨groups, List.mem_append_right _ member, holds⟩

theorem identify_foundAs (rule : ProbeRule) (timeout : Nat) :
    FoundAs (Matches rule.matchRules)
      (rule.identify timeout : Task σ ProbeOutcome) := by
  have readAndMatch : FoundAs (Matches rule.matchRules)
      (rule.readAndMatch timeout : Task σ ProbeOutcome) :=
    FoundAs.bind fun (_, banner) =>
      FoundAs.ite FoundAs.unmatched (firstMatch_foundAs banner rule.matchRules)
  exact FoundAs.ite readAndMatch
    (FoundAs.bind fun _ => FoundAs.ite FoundAs.unmatched readAndMatch)

/-- A template is expanded piece by piece: every reference becomes the text of
its group, which is not read again, and every other byte is copied. -/
theorem applyTemplate_expands :
    (∀ groups front back, Apart front back →
      applyTemplate groups (front ++ back) =
        applyTemplate groups front ++ applyTemplate groups back) ∧
    (∀ template, ∃ pieces,
      (∀ others, ReadsAs template others ↔ others = pieces) ∧
      ∀ groups, applyTemplate groups template =
        pieces.flatMap (Piece.expand groups)) ∧
    ∀ (rule : ProbeRule) (timeout : Nat) (store : σ) (script : Script)
      (outcome : ProbeOutcome),
      ((rule.identify timeout).run store script).status = .returned outcome →
      outcome.matched = true →
        ∃ groups, .answer (.searched (.found groups)) ∈ script ∧
        ∃ matchRule ∈ rule.matchRules, ∀ service version,
          ReadsAs matchRule.serviceTemplate service →
          ReadsAs matchRule.versionTemplate version →
          outcome.service = service.flatMap (Piece.expand groups) ∧
          outcome.version = version.flatMap (Piece.expand groups) ∧
          (∀ index, .group index ∈ service →
            groups.getD index [] <:+: outcome.service) ∧
          ∀ index, .group index ∈ version →
            groups.getD index [] <:+: outcome.version := by
  refine ⟨?_, ?_, ?_⟩
  · intro groups front back apart
    exact applyTemplate_append apart groups
  · intro template
    obtain ⟨pieces, reads⟩ := ReadsAs.exists_pieces template
    refine ⟨pieces, ?_, reads.applyTemplate_eq⟩
    intro others
    constructor
    · exact reads.unique
    · intro same
      rw [same]
      exact reads
  · intro rule timeout store script outcome returned matched
    obtain ⟨used, whole, found⟩ := identify_foundAs rule timeout store script
    obtain ⟨groups, member, matchRule, isRule, service, version⟩ :=
      found outcome returned matched
    refine ⟨groups, whole ▸ List.mem_append_left _ member, matchRule, isRule,
      ?_⟩
    intro servicePieces versionPieces readsService readsVersion
    rw [service, version, readsService.applyTemplate_eq,
      readsVersion.applyTemplate_eq]
    exact ⟨rfl, rfl, fun _ member => infix_of_group member groups,
      fun _ member => infix_of_group member groups⟩

end

theorem applyTemplate_expands_dollar :
    applyTemplate [bytes "SSH-2.0-a$1b", bytes "a$1b"]
        (bytes "v" ++ bytes "$1") =
      bytes "v" ++ bytes "a$1b" := by
  have apart : Apart (bytes "v") (bytes "$1") :=
    fun crossing => absurd crossing.1 (by decide)
  have split := (@applyTemplate_expands Unit).1
    [bytes "SSH-2.0-a$1b", bytes "a$1b"] (bytes "v") (bytes "$1") apart
  exact split.trans (by decide)

end ServicePortScanner.Probes
