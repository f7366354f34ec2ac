import ServicePortScanner.Data.Escaping
import ServicePortScanner.Data.Utf16
import ServicePortScanner.Gui.DetailsPanel

namespace ServicePortScanner.Gui.BannerPreview

open ServicePortScanner.Data
open ServicePortScanner.Core

/-! The banner block of `DetailsPanel::showResult`, with a `QString` as the
16-bit units that `left` counts. -/

abbrev QString := List UInt16

def literal (text : String) : QString :=
  (bytes text).map UInt8.toUInt16

def html : Escaping UInt16 where
  marker := 0x26
  table :=
    [(0x3c, literal "&lt;"), (0x3e, literal "&gt;"), (0x26, literal "&amp;"),
      (0x22, literal "&quot;")]
  marked := by decide
  marker_mem := by decide
  prefixFree := by decide

def toHtmlEscaped (text : QString) : QString :=
  html.escape text

def left (text : QString) (n : Nat) : QString :=
  text.take n

section

variable (fromStdString : Bytes → QString)

/-- What stands between the `pre` tags. -/
def preview (banner : Bytes) : QString :=
  left (toHtmlEscaped (fromStdString banner)) 512

def banner {F : Type} (r : ScanResult F) : QString :=
  if r.service.bannerRaw ≠ [] then
    literal "<b>Banner:</b><pre style='background:#1a1a1a; padding:8px;'>" ++
      preview fromStdString r.service.bannerRaw ++ literal "</pre><br>"
  else []

end

theorem code_eq (u : UInt16) : html.code u =
    if u = 0x3c then literal "&lt;"
    else if u = 0x3e then literal "&gt;"
    else if u = 0x26 then literal "&amp;"
    else if u = 0x22 then literal "&quot;"
    else [u] := by
  simp only [Escaping.code, html, List.lookup_cons, List.lookup_nil]
  split_ifs with lt gt amp quot
  · rw [lt]
    rfl
  · rw [gt]
    rfl
  · rw [amp]
    rfl
  · rw [quot]
    rfl
  · rw [beq_false_of_ne lt, beq_false_of_ne gt, beq_false_of_ne amp,
      beq_false_of_ne quot]
    rfl

def width (u : UInt16) : Nat :=
  if u = 0x3c then 4
  else if u = 0x3e then 4
  else if u = 0x26 then 5
  else if u = 0x22 then 6
  else 1

theorem length_code (u : UInt16) : (html.code u).length = width u := by
  rw [code_eq]
  unfold width
  split_ifs <;> rfl

def widths (text : QString) : Nat :=
  (text.map width).sum

theorem length_escape (text : QString) :
    (text.flatMap html.code).length = widths text := by
  simp only [List.length_flatMap, length_code, widths]

/-- A special character of the text is in front of the limit with the beginning
of its entity, and behind it with the end. -/
def CutInside (limit : Nat) (text : QString) : Prop :=
  ∃ front u back, text = front ++ u :: back ∧
    widths front < limit ∧ limit < widths front + width u

theorem cutsWord_iff {limit : Nat} {text : QString} :
    CutsWord html.code limit text ↔ CutInside limit text := by
  simp only [CutsWord, CutInside, length_escape, length_code]

/-- The preview is the escaped text of a prefix of the banner, which its
entities decode to, exactly if no entity goes over the limit. -/
theorem preview_iff (fromStdString : Bytes → QString) (banner : Bytes) :
    (∃ front, front <+: fromStdString banner ∧
      preview fromStdString banner = toHtmlEscaped front ∧
      html.decode (preview fromStdString banner) = front) ↔
      ¬ CutInside 512 (fromStdString banner) := by
  rw [← cutsWord_iff, ← exists_prefix_iff]
  constructor
  · intro found
    obtain ⟨front, isPrefix, escaped, _⟩ := found
    exact ⟨front, isPrefix, escaped⟩
  · intro found
    obtain ⟨front, isPrefix, escaped⟩ := found
    have same : preview fromStdString banner = html.escape front := escaped
    exact ⟨front, isPrefix, same, by rw [same, Escaping.decode_escape]⟩

/-! The same block in bytes. -/

theorem literal_ascii {text : String} (ascii : ∀ b ∈ bytes text, b < 0x80) :
    (∀ u ∈ literal text, u < 0x80) ∧
      (literal text).map UInt16.toUInt8 = bytes text := by
  constructor
  · intro u member
    obtain ⟨b, isByte, same⟩ := List.mem_map.mp member
    subst same
    have small := UInt8.lt_iff_toNat_lt.mp (ascii b isByte)
    rw [UInt16.lt_iff_toNat_lt, UInt8.toNat_toUInt16]
    exact small
  · rw [literal, List.map_map]
    exact List.map_id'' (fun b => UInt8.toUInt8_toUInt16 b) (bytes text)

theorem toUInt8_ne {u : UInt16} {b : UInt8} (ascii : u < 0x80)
    (differ : u ≠ b.toUInt16) : u.toUInt8 ≠ b := by
  intro same
  apply differ
  rw [← same, UInt16.toUInt16_toUInt8, ← UInt16.toNat_inj, UInt16.toNat_mod]
  have small := UInt16.lt_iff_toNat_lt.mp ascii
  simp only [UInt16.reduceToNat] at small ⊢
  omega

theorem code_special {u : UInt16} {entity : String} (small : u < 0x80)
    (ascii : ∀ b ∈ bytes entity, b < 0x80)
    (isEntity : DetailsPanel.toHtmlEscaped [u.toUInt8] = bytes entity) :
    u < 0x80 ∧ (∀ v ∈ literal entity, v < 0x80) ∧
      (literal entity).map UInt16.toUInt8 =
        DetailsPanel.toHtmlEscaped [u.toUInt8] := by
  obtain ⟨unitsAscii, same⟩ := literal_ascii ascii
  exact ⟨small, unitsAscii, same.trans isEntity.symm⟩

/-- A unit below 0x80 is written in ASCII, and any other as it is. -/
theorem code_cases (u : UInt16) :
    (u < 0x80 ∧ (∀ v ∈ html.code u, v < 0x80) ∧
      (html.code u).map UInt16.toUInt8 =
        DetailsPanel.toHtmlEscaped [u.toUInt8]) ∨
      (0x80 ≤ u ∧ html.code u = [u]) := by
  rw [code_eq]
  split_ifs with lt gt amp quot
  · subst lt
    exact .inl (code_special (by decide) (by decide) (by decide))
  · subst gt
    exact .inl (code_special (by decide) (by decide) (by decide))
  · subst amp
    exact .inl (code_special (by decide) (by decide) (by decide))
  · subst quot
    exact .inl (code_special (by decide) (by decide) (by decide))
  · rcases UInt16.lt_or_le u 0x80 with small | large
    · refine .inl ⟨small, List.forall_mem_singleton.mpr small, ?_⟩
      have plain : DetailsPanel.IsPlain [u.toUInt8] :=
        List.forall_mem_singleton.mpr ⟨toUInt8_ne small lt, toUInt8_ne small gt,
          toUInt8_ne small amp, toUInt8_ne small quot⟩
      exact (DetailsPanel.toHtmlEscaped_plain plain).symm
    · exact .inr ⟨large, rfl⟩

theorem toHtmlEscaped_encodePoint {n : Nat} (large : 0x80 ≤ n)
    (bound : n < 0x110000) :
    DetailsPanel.toHtmlEscaped (Utf16.encodePoint n) = Utf16.encodePoint n := by
  apply DetailsPanel.toHtmlEscaped_plain
  intro b member
  have least := Utf16.le_of_mem_encodePoint large bound b member
  refine ⟨?_, ?_, ?_, ?_⟩
  all_goals
    intro same
    subst same
    exact absurd least (by decide)

theorem toHtmlEscaped_append (first second : Bytes) :
    DetailsPanel.toHtmlEscaped (first ++ second) =
      DetailsPanel.toHtmlEscaped first ++ DetailsPanel.toHtmlEscaped second :=
  List.flatMap_append

theorem toUtf8_code_append {u : UInt16} {rest : QString}
    (single : ¬ (Utf16.IsHigh u ∧
      ∃ v, rest.head? = some v ∧ Utf16.IsLow v)) :
    Utf16.toUtf8 (html.code u ++ rest) =
      DetailsPanel.toHtmlEscaped (Utf16.encodePoint u.toNat) ++
        Utf16.toUtf8 rest := by
  rcases code_cases u with ⟨small, ascii, same⟩ | ⟨large, same⟩
  · rw [Utf16.toUtf8_ascii_append ascii, same, Utf16.encodePoint_ascii small]
  · have bound := u.toNat_lt
    rw [same, List.singleton_append, Utf16.toUtf8_cons single,
      toHtmlEscaped_encodePoint (UInt16.le_iff_toNat_le.mp large) (by omega)]

theorem head?_code {u v : UInt16} {rest : QString}
    (head : (html.code u ++ rest).head? = some v) : v = u ∨ v = 0x26 := by
  rw [code_eq] at head
  split_ifs at head
  · exact .inr (Option.some.inj head).symm
  · exact .inr (Option.some.inj head).symm
  · exact .inr (Option.some.inj head).symm
  · exact .inr (Option.some.inj head).symm
  · exact .inl (Option.some.inj head).symm

theorem code_surrogate {u : UInt16} (large : 0x80 ≤ u) : html.code u = [u] := by
  rcases code_cases u with ⟨small, _⟩ | ⟨_, same⟩
  · exact absurd large (UInt16.not_le.mpr small)
  · exact same

theorem toUtf8_toHtmlEscaped (text : QString) :
    Utf16.toUtf8 (toHtmlEscaped text) =
      DetailsPanel.toHtmlEscaped (Utf16.toUtf8 text) := by
  unfold toHtmlEscaped Escaping.escape
  induction text using Utf16.toUtf8.induct with
  | case1 => rfl
  | case2 high low rest pair induction =>
      have bounds := Utf16.pairPoint_bounds pair.1 pair.2
      have highCode : html.code high = [high] :=
        code_surrogate (UInt16.le_trans (by decide) pair.1.1)
      have lowCode : html.code low = [low] :=
        code_surrogate (UInt16.le_trans (by decide) pair.2.1)
      rw [List.flatMap_cons, List.flatMap_cons, highCode, lowCode,
        List.singleton_append, List.singleton_append, Utf16.toUtf8, if_pos pair,
        induction, Utf16.toUtf8, if_pos pair, toHtmlEscaped_append,
        toHtmlEscaped_encodePoint (by omega) bounds.2]
  | case3 high low rest single induction =>
      have alone : ¬ (Utf16.IsHigh high ∧
          ∃ v, ((low :: rest).flatMap html.code).head? = some v ∧
            Utf16.IsLow v) := by
        intro pair
        obtain ⟨isHigh, v, head, isLow⟩ := pair
        rcases head?_code head with same | ampersand
        · exact single ⟨isHigh, same ▸ isLow⟩
        · exact absurd (ampersand ▸ isLow) (by decide)
      rw [List.flatMap_cons, toUtf8_code_append alone, induction, Utf16.toUtf8,
        if_neg single, toHtmlEscaped_append]
  | case4 u =>
      have alone : ¬ (Utf16.IsHigh u ∧
          ∃ v, ([] : QString).head? = some v ∧ Utf16.IsLow v) := by
        intro pair
        obtain ⟨_, _, none, _⟩ := pair
        cases none
      rw [List.flatMap_cons, List.flatMap_nil, toUtf8_code_append alone]
      exact List.append_nil _

section

variable {F : Type}

/-- The bytes of the panel are those of the units. -/
structure Represents (qt : DetailsPanel.Qt F)
    (fromStdString : Bytes → QString) : Prop where
  string : ∀ s, qt.fromStdString s = Utf16.toUtf8 (fromStdString s)
  left : ∀ text n, qt.left (Utf16.toUtf8 text) n = Utf16.toUtf8 (left text n)

/-- Qt over units, on texts in UTF-8. -/
def unitQt : DetailsPanel.Qt ℚ :=
  { DetailsPanel.exactQt with
    fromStdString := fun s => Utf16.toUtf8 (Utf16.fromUtf8 s)
    left := fun text n => Utf16.toUtf8 (left (Utf16.fromUtf8 text) n) }

theorem represents_unitQt : Represents unitQt Utf16.fromUtf8 where
  string _ := rfl
  left text n := congrArg (fun text => Utf16.toUtf8 (left text n))
    (Utf16.fromUtf8_toUtf8 text)

theorem banner_eq {qt : DetailsPanel.Qt F} {fromStdString : Bytes → QString}
    (represents : Represents qt fromStdString) (r : ScanResult F) :
    DetailsPanel.banner qt r = Utf16.toUtf8 (banner fromStdString r) := by
  unfold DetailsPanel.banner banner
  split
  · obtain ⟨openAscii, isOpen⟩ := @literal_ascii
      "<b>Banner:</b><pre style='background:#1a1a1a; padding:8px;'>"
      (by decide +kernel)
    obtain ⟨closeAscii, isClose⟩ := @literal_ascii "</pre><br>" (by decide)
    have boundary : ∀ v, (literal "</pre><br>").head? = some v →
        ¬ Utf16.IsLow v := by
      intro v head
      cases head
      decide
    have closing := Utf16.toUtf8_ascii_append closeAscii []
    rw [List.append_nil, isClose] at closing
    rw [Utf16.toUtf8_append boundary, Utf16.toUtf8_ascii_append openAscii,
      isOpen, closing, preview, ← represents.left, toUtf8_toHtmlEscaped,
      ← represents.string]
    simp [Utf16.toUtf8]
  · rfl

end

/-- A long banner with a tag at the end of what is shown. -/
def longBanner : Bytes :=
  List.replicate 510 0x61 ++ bytes "<b>"

theorem longBanner_units : Utf16.fromUtf8 longBanner =
    List.replicate 510 0x61 ++ 0x3c :: literal "b>" := by
  decide +kernel

theorem longBanner_cut :
    preview Utf16.fromUtf8 longBanner =
        List.replicate 510 0x61 ++ literal "&l" ∧
      ¬ ∃ front, front <+: Utf16.fromUtf8 longBanner ∧
        preview Utf16.fromUtf8 longBanner = toHtmlEscaped front ∧
        html.decode (preview Utf16.fromUtf8 longBanner) = front := by
  constructor
  · rw [preview, longBanner_units]
    decide +kernel
  · intro found
    obtain ⟨front, isPrefix, escaped, _⟩ := found
    refine not_cutsWord isPrefix escaped (cutsWord_iff.mpr ?_)
    exact ⟨List.replicate 510 0x61, 0x3c, literal "b>", longBanner_units,
      by decide +kernel, by decide +kernel⟩

end ServicePortScanner.Gui.BannerPreview
