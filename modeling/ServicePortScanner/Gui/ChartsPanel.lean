import ServicePortScanner.Core.ExactFloating
import ServicePortScanner.Data.Closest

namespace ServicePortScanner.Gui

open ServicePortScanner.Data
open ServicePortScanner.Core

/-! The risk matrix: a point for each result with CVEs of a probed service, and
the result behind a click. -/

/-- `QPointF` -/
structure Point (F : Type) where
  x : F
  y : F
  deriving DecidableEq, Repr

structure PointInfo (F : Type) where
  epss : F
  cvss : F
  resultIndex : Nat
  deriving DecidableEq, Repr

/-- The points of each series, and `point_map_`. -/
structure ChartsPanel (F : Type) where
  critical : List (Point F) := []
  high : List (Point F) := []
  medium : List (Point F) := []
  low : List (Point F) := []
  pointMap : List (PointInfo F) := []
  deriving DecidableEq, Repr

namespace ChartsPanel

inductive Series where
  | critical
  | high
  | medium
  | low
  deriving DecidableEq, Repr

section

variable {F : Type}

def isProbeResult (r : ScanResult F) : Bool :=
  r.service.name == bytes "ssh" ||
    r.service.name == bytes "http" ||
    r.service.name == bytes "tls" ||
    r.service.name == bytes "ftp" ||
    r.service.name == bytes "smtp"

variable [Floating F]

def seriesForRisk (risk : F) : Series :=
  if Floating.le (Floating.literal 7) risk then .critical
  else if Floating.le (Floating.literal 3) risk then .high
  else if Floating.le (Floating.literal 1) risk then .medium
  else .low

def points (panel : ChartsPanel F) : Series → List (Point F)
  | .critical => panel.critical
  | .high => panel.high
  | .medium => panel.medium
  | .low => panel.low

/-- `series->append` -/
def append (panel : ChartsPanel F) (series : Series) (point : Point F) :
    ChartsPanel F :=
  match series with
  | .critical => { panel with critical := panel.critical ++ [point] }
  | .high => { panel with high := panel.high ++ [point] }
  | .medium => { panel with medium := panel.medium ++ [point] }
  | .low => { panel with low := panel.low ++ [point] }

def pointOf (r : ScanResult F) : Point F :=
  ⟨r.maxEpss, r.maxCvss⟩

/-- The loop of `updateData`; `idx` counts the results. -/
def drawFrom (panel : ChartsPanel F) (idx : Nat) :
    List (ScanResult F) → ChartsPanel F
  | [] => panel
  | r :: rest =>
      if !isProbeResult r || r.cves.isEmpty then
        drawFrom panel (idx + 1) rest
      else
        let panel := panel.append (seriesForRisk r.maxRisk) (pointOf r)
        drawFrom { panel with
          pointMap := panel.pointMap ++ [⟨r.maxEpss, r.maxCvss, idx⟩] }
          (idx + 1) rest

def updateData (results : List (ScanResult F)) : ChartsPanel F :=
  drawFrom {} 0 results

/-- `std::numeric_limits<double>::max()` -/
def maxDouble : ℚ := (2 ^ 53 - 1) * 2 ^ 971

def distance (point : Point F) (p : PointInfo F) : F :=
  let dx := Floating.sub p.epss point.x
  let dy := Floating.div (Floating.sub p.cvss point.y) (Floating.literal 10)
  Floating.add (Floating.mul dx dx) (Floating.mul dy dy)

/-- The argument of `pointClicked`, where that is emitted. -/
def onScatterClicked (panel : ChartsPanel F) (point : Point F) : Option Nat :=
  (closest Floating.lt (distance point) (Floating.literal maxDouble)
    panel.pointMap).map (·.resultIndex)

/-! What the chart shows. -/

def IsDrawn (r : ScanResult F) : Prop :=
  isProbeResult r = true ∧ r.cves ≠ []

instance (r : ScanResult F) : Decidable (IsDrawn r) :=
  inferInstanceAs (Decidable (_ ∧ _))

def infoOf (r : ScanResult F) (idx : Nat) : PointInfo F :=
  ⟨r.maxEpss, r.maxCvss, idx⟩

omit [Floating F] in
theorem not_isDrawn_iff {r : ScanResult F} :
    (!isProbeResult r || r.cves.isEmpty) = true ↔ ¬ IsDrawn r := by
  simp [IsDrawn, imp_iff_not_or]

omit [Floating F] in
@[simp] theorem append_pointMap (panel : ChartsPanel F) (series : Series)
    (point : Point F) : (panel.append series point).pointMap = panel.pointMap := by
  cases series <;> rfl

omit [Floating F] in
theorem append_points (panel : ChartsPanel F) (series other : Series)
    (point : Point F) (pointMap : List (PointInfo F)) :
    points { panel.append series point with pointMap := pointMap } other =
      panel.points other ++ if series = other then [point] else [] := by
  cases series <;> cases other <;> simp [append, points]

theorem drawFrom_cons (panel : ChartsPanel F) (idx : Nat) (r : ScanResult F)
    (rest : List (ScanResult F)) :
    drawFrom panel idx (r :: rest) =
      if IsDrawn r then
        drawFrom { panel.append (seriesForRisk r.maxRisk) (pointOf r) with
          pointMap := panel.pointMap ++ [infoOf r idx] } (idx + 1) rest
      else drawFrom panel (idx + 1) rest := by
  rw [drawFrom]
  by_cases drawn : IsDrawn r
  · rw [if_neg (by rwa [not_isDrawn_iff, not_not]), if_pos drawn]
    simp only [append_pointMap]
    rfl
  · rw [if_pos (not_isDrawn_iff.mpr drawn), if_neg drawn]

theorem drawFrom_pointMap (panel : ChartsPanel F) (idx : Nat)
    (results : List (ScanResult F)) :
    (drawFrom panel idx results).pointMap = panel.pointMap ++
      ((results.zipIdx idx).filter fun entry => IsDrawn entry.1).map
        fun entry => infoOf entry.1 entry.2 := by
  induction results generalizing panel idx with
  | nil => simp [drawFrom]
  | cons r rest induction =>
      rw [drawFrom_cons, List.zipIdx_cons]
      by_cases drawn : IsDrawn r
      · rw [if_pos drawn, induction, List.filter_cons_of_pos (by simpa)]
        simp
      · rw [if_neg drawn, induction, List.filter_cons_of_neg (by simpa)]

theorem drawFrom_points (panel : ChartsPanel F) (idx : Nat)
    (results : List (ScanResult F)) (series : Series) :
    (drawFrom panel idx results).points series = panel.points series ++
      (results.filter fun r =>
        IsDrawn r ∧ seriesForRisk r.maxRisk = series).map pointOf := by
  induction results generalizing panel idx with
  | nil => simp [drawFrom]
  | cons r rest induction =>
      rw [drawFrom_cons]
      by_cases drawn : IsDrawn r
      · rw [if_pos drawn, induction, append_points]
        by_cases same : seriesForRisk r.maxRisk = series
        · rw [List.filter_cons_of_pos (by simp [drawn, same])]
          simp [same]
        · rw [List.filter_cons_of_neg (by simp [same])]
          simp [same]
      · rw [if_neg drawn, induction,
          List.filter_cons_of_neg (by simp [drawn])]

/-- A point for each drawn result, with the place of the result in the list. -/
theorem mem_pointMap_iff {results : List (ScanResult F)} {p : PointInfo F} :
    p ∈ (updateData results).pointMap ↔
      ∃ r, results[p.resultIndex]? = some r ∧ IsDrawn r ∧
        p = infoOf r p.resultIndex := by
  rw [updateData, drawFrom_pointMap, List.nil_append, List.mem_map]
  constructor
  · rintro ⟨⟨r, idx⟩, member, rfl⟩
    obtain ⟨inList, drawn⟩ := List.mem_filter.mp member
    exact ⟨r, List.mem_zipIdx_iff_getElem?.mp inList, of_decide_eq_true drawn,
      rfl⟩
  · rintro ⟨r, atIndex, drawn, same⟩
    refine ⟨(r, p.resultIndex), List.mem_filter.mpr ⟨?_, ?_⟩, same.symm⟩
    · exact List.mem_zipIdx_iff_getElem?.mpr atIndex
    · exact decide_eq_true drawn

theorem pointMap_ascending (results : List (ScanResult F)) :
    (updateData results).pointMap.Pairwise
      fun p q => p.resultIndex < q.resultIndex := by
  rw [updateData, drawFrom_pointMap, List.nil_append, List.pairwise_map]
  apply List.Pairwise.sublist List.filter_sublist
  rw [List.pairwise_iff_getElem]
  intro i j inList inList' before
  simpa [infoOf] using before

/-- The points of the four series are those of the results. -/
theorem mem_points_iff {results : List (ScanResult F)} {point : Point F} :
    (∃ series, point ∈ (updateData results).points series) ↔
      ∃ r ∈ results, IsDrawn r ∧ pointOf r = point := by
  have member (series : Series) :
      point ∈ (updateData results).points series ↔
        ∃ r ∈ results, (IsDrawn r ∧ seriesForRisk r.maxRisk = series) ∧
          pointOf r = point := by
    rw [updateData, drawFrom_points]
    cases series <;> simp [points, and_assoc]
  simp only [member]
  constructor
  · rintro ⟨series, r, inList, ⟨drawn, _⟩, same⟩
    exact ⟨r, inList, drawn, same⟩
  · rintro ⟨r, inList, drawn, same⟩
    exact ⟨_, r, inList, ⟨drawn, rfl⟩, same⟩

/-! What a click finds. -/

/-- A click finds a drawn result. -/
theorem onScatterClicked_drawn {results : List (ScanResult F)} {point : Point F}
    {idx : Nat} (clicked : (updateData results).onScatterClicked point = some idx) :
    ∃ r, results[idx]? = some r ∧ IsDrawn r := by
  obtain ⟨p, found, rfl⟩ := Option.map_eq_some_iff.mp clicked
  obtain ⟨r, atIndex, drawn, _⟩ := mem_pointMap_iff.mp (closest_mem found)
  exact ⟨r, atIndex, drawn⟩

end

/-! In exact arithmetic it is the closest one. -/

theorem distance_eq_zero_iff {point : Point ℚ} {p : PointInfo ℚ} :
    distance point p = 0 ↔ p.epss = point.x ∧ p.cvss = point.y := by
  have squares := add_eq_zero_iff_of_nonneg
    (mul_self_nonneg (p.epss - point.x))
    (mul_self_nonneg ((p.cvss - point.y) / 10))
  simp only [distance, Floating.add, Floating.mul, Floating.sub, Floating.div,
    Floating.literal]
  rw [squares]
  simp [sub_eq_zero]

theorem distance_nonneg (point : Point ℚ) (p : PointInfo ℚ) :
    0 ≤ distance point p :=
  add_nonneg (mul_self_nonneg _) (mul_self_nonneg _)

theorem maxDouble_pos : 0 < maxDouble := by
  unfold maxDouble
  positivity

/-- A click finds a drawn result, at least as close as any other one. -/
theorem onScatterClicked_some {results : List (ScanResult ℚ)} {point : Point ℚ}
    {idx : Nat} (clicked : (updateData results).onScatterClicked point = some idx) :
    ∃ r, results[idx]? = some r ∧ IsDrawn r ∧
      ∀ (other : Nat) (r' : ScanResult ℚ), results[other]? = some r' →
        IsDrawn r' → distance point (infoOf r idx) ≤
          distance point (infoOf r' other) := by
  obtain ⟨p, found, rfl⟩ := Option.map_eq_some_iff.mp clicked
  obtain ⟨r, atIndex, drawn, same⟩ := mem_pointMap_iff.mp (closest_mem found)
  refine ⟨r, atIndex, drawn, ?_⟩
  intro other r' atOther drawn'
  rw [← same]
  exact closest_le found (mem_pointMap_iff.mpr ⟨r', atOther, drawn', rfl⟩)

/-- A click on a point finds the first result with its coordinates. -/
theorem onScatterClicked_point {results : List (ScanResult ℚ)} {point : Point ℚ}
    (shown : ∃ series, point ∈ (updateData results).points series) :
    ∃ idx r, (updateData results).onScatterClicked point = some idx ∧
      results[idx]? = some r ∧ IsDrawn r ∧ pointOf r = point ∧
      ∀ (other : Nat) (r' : ScanResult ℚ), results[other]? = some r' →
        IsDrawn r' → pointOf r' = point → idx ≤ other := by
  obtain ⟨r, inList, drawn, same⟩ := mem_points_iff.mp shown
  obtain ⟨index, atIndex⟩ := List.mem_iff_getElem?.mp inList
  have exact (r' : ScanResult ℚ) (other : Nat) (here : pointOf r' = point) :
      distance point (infoOf r' other) = 0 := by
    rw [← here]
    exact distance_eq_zero_iff.mpr ⟨rfl, rfl⟩
  have inMap : infoOf r index ∈ (updateData results).pointMap :=
    mem_pointMap_iff.mpr ⟨r, atIndex, drawn, rfl⟩
  obtain ⟨p, found⟩ := exists_closest inMap
    (show distance point (infoOf r index) < maxDouble from
      exact r index same ▸ maxDouble_pos)
  have touched : distance point p = 0 :=
    (exact r index same ▸ closest_le found inMap).antisymm
      (distance_nonneg point p)
  obtain ⟨r', atPoint, drawn', info⟩ := mem_pointMap_iff.mp (closest_mem found)
  obtain ⟨epss, cvss⟩ := distance_eq_zero_iff.mp touched
  rw [info] at epss cvss
  refine ⟨p.resultIndex, r', ?_, atPoint, drawn', ?_, ?_⟩
  · change (closest isLess (distance point) maxDouble
      (updateData results).pointMap).map _ = _
    rw [found, Option.map_some]
  · simp only [infoOf] at epss cvss
    rw [pointOf, epss, cvss]
  · intro other r'' atOther drawn'' here
    have inMap' : infoOf r'' other ∈ (updateData results).pointMap :=
      mem_pointMap_iff.mpr ⟨r'', atOther, drawn'', rfl⟩
    rcases closest_first (pointMap_ascending results) found inMap'
      ((exact r'' other here).trans touched.symm) with rfl | behind
    · exact le_refl other
    · exact behind.le

end ChartsPanel

end ServicePortScanner.Gui
