import Mathlib.Tactic.Ring
import WeatherStation.Lib.Clip
import WeatherStation.Palette

/-! A brush stroke is clipped where it leaves the range for the first time: the
`continue` of the border test also skips the move to the next point. -/
namespace WeatherStation.Palette
open Lib
open Ili9341 (Panel)

section
variable (panel : Panel) (x1 y1 x2 y2 : UInt16) (thick : UInt8)

/-- The line that the same increments produce without a border test. -/
def unclipped (fuel : ℕ) : List (Int16 × Int16) :=
  (uniLine x1 y1 x2 y2).1.centres (fun _ _ => true) fuel (uniLine x1 y1 x2 y2).2

def pointInRange (point : Int16 × Int16) : Bool := inRange panel thick point.1 point.2

/-- Clipping only removes the points that are out of range. -/
def ClipsExactly : Prop :=
  ∀ fuel, lcdDrawUniLineCircle panel x1 y1 x2 y2 thick fuel =
    (unclipped x1 y1 x2 y2 fuel).filter (pointInRange panel thick)

/-- The stroke starts in range or never comes there.  With 32767 pixels the loop does
not end, since `curpixel` wraps around. -/
def StartsInRange : Prop :=
  if (uniLine x1 y1 x2 y2).1.numpixels = 32767 then
    ∀ fuel, NeverReturns (pointInRange panel thick) (unclipped x1 y1 x2 y2 fuel)
  else
    inRange panel thick x1.toInt16 y1.toInt16 ∨
      ∀ fuel, ∀ point ∈ unclipped x1 y1 x2 y2 fuel, pointInRange panel thick point = false

end

/-! ### The border test -/

section
variable {line : UniLine} {inside : Int16 → Int16 → Bool}

/-- Out of range the loop only counts. -/
theorem centres_outside {step : UniStep} (h : inside step.x step.y = false) (fuel : ℕ) :
    line.centres inside fuel step = [] := by
  induction fuel generalizing step with
  | zero => rfl
  | succ fuel ih =>
    rw [UniLine.centres]
    split
    · rw [if_neg (ne_true_of_eq_false h)]
      exact ih h
    · rfl

theorem centres_eq_takeWhile (fuel : ℕ) (step : UniStep) :
    line.centres inside fuel step =
      (line.centres (fun _ _ => true) fuel step).takeWhile fun point => inside point.1 point.2 := by
  induction fuel generalizing step with
  | zero => rfl
  | succ fuel ih =>
    rw [UniLine.centres, UniLine.centres]
    split
    · cases hinside : inside step.x step.y with
      | true => simp [hinside, ih]
      | false => simp [hinside, centres_outside]
    · rfl

end

theorem clipsExactly_iff_neverReturns {panel : Panel} {x1 y1 x2 y2 : UInt16} {thick : UInt8} :
    ClipsExactly panel x1 y1 x2 y2 thick ↔
      ∀ fuel, NeverReturns (pointInRange panel thick) (unclipped x1 y1 x2 y2 fuel) := by
  refine forall_congr' fun fuel => ?_
  have hclipped : lcdDrawUniLineCircle panel x1 y1 x2 y2 thick fuel =
      (unclipped x1 y1 x2 y2 fuel).takeWhile (pointInRange panel thick) :=
    centres_eq_takeWhile fuel _
  rw [← takeWhile_eq_filter_iff, hclipped]

/-! ### The way of the stroke -/

/-- A coordinate that keeps its direction, after so many moves. -/
def moved (start direction : ℤ) (moves : ℕ) : Int16 := .ofInt (start + direction * moves)

theorem moved_add (start direction : ℤ) (moves : ℕ) :
    moved start direction moves + .ofInt direction = moved start direction (moves + 1) := by
  rw [moved, moved, ← Int16.ofInt_add]
  congr 1
  push_cast
  ring

/-- The two increments of a coordinate: it moves in every step or in some. -/
def Increments (inc1 inc2 : Int16) (direction : ℤ) : Prop :=
  (inc1 = 0 ∧ inc2 = .ofInt direction) ∨ (inc1 = .ofInt direction ∧ inc2 = 0)

theorem Increments.moved {inc1 inc2 : Int16} {direction : ℤ}
    (h : Increments inc1 inc2 direction) (start : ℤ) (moves : ℕ) :
    (∃ next, moves ≤ next ∧ next ≤ moves + 1 ∧
        Palette.moved start direction moves + inc2 = Palette.moved start direction next) ∧
      ∃ next, moves ≤ next ∧ next ≤ moves + 1 ∧
        Palette.moved start direction moves + inc1 + inc2 = Palette.moved start direction next := by
  rcases h with ⟨rfl, rfl⟩ | ⟨rfl, rfl⟩
  · exact ⟨⟨moves + 1, by omega, by omega, moved_add ..⟩,
      ⟨moves + 1, by omega, by omega, by rw [Int16.add_zero, moved_add]⟩⟩
  · exact ⟨⟨moves, by omega, by omega, Int16.add_zero _⟩,
      ⟨moves + 1, by omega, by omega, by rw [Int16.add_zero, moved_add]⟩⟩

/-- Where a line starts and into which directions it goes. -/
structure Course where
  x : ℤ
  y : ℤ
  directionX : ℤ
  directionY : ℤ

namespace Course
variable (course : Course)

def point (movesX movesY : ℕ) : Int16 × Int16 :=
  (moved course.x course.directionX movesX, moved course.y course.directionY movesY)

structure Follows (line : UniLine) : Prop where
  incrementsX : Increments line.xinc1 line.xinc2 course.directionX
  incrementsY : Increments line.yinc1 line.yinc2 course.directionY

variable {course} {line : UniLine}

theorem Follows.advance (h : course.Follows line) {step : UniStep} {movesX movesY : ℕ}
    (hstep : (step.x, step.y) = course.point movesX movesY) :
    ∃ nextX nextY, (movesX ≤ nextX ∧ nextX ≤ movesX + 1) ∧ (movesY ≤ nextY ∧ nextY ≤ movesY + 1) ∧
      ((line.advance step).x, (line.advance step).y) = course.point nextX nextY := by
  obtain ⟨hx, hy⟩ := Prod.ext_iff.mp hstep
  obtain ⟨hxSome, hxBoth⟩ := h.incrementsX.moved course.x movesX
  obtain ⟨hySome, hyBoth⟩ := h.incrementsY.moved course.y movesY
  dsimp only [point] at hx hy
  unfold UniLine.advance
  dsimp only
  split
  · obtain ⟨nextX, hlowX, hhighX, hnextX⟩ := hxBoth
    obtain ⟨nextY, hlowY, hhighY, hnextY⟩ := hyBoth
    exact ⟨nextX, nextY, ⟨hlowX, hhighX⟩, ⟨hlowY, hhighY⟩,
      Prod.ext (by rw [hx]; exact hnextX) (by rw [hy]; exact hnextY)⟩
  · obtain ⟨nextX, hlowX, hhighX, hnextX⟩ := hxSome
    obtain ⟨nextY, hlowY, hhighY, hnextY⟩ := hySome
    exact ⟨nextX, nextY, ⟨hlowX, hhighX⟩, ⟨hlowY, hhighY⟩,
      Prod.ext (by rw [hx]; exact hnextX) (by rw [hy]; exact hnextY)⟩

/-- A step of the loop on its course: `curpixel` counts the steps. -/
structure On (course : Course) (step : UniStep) (movesX movesY : ℕ) : Prop where
  point : (step.x, step.y) = course.point movesX movesY
  movesX_le : movesX ≤ step.curpixel.toInt
  movesY_le : movesY ≤ step.curpixel.toInt

theorem On.next (hline : course.Follows line) {step : UniStep} {movesX movesY : ℕ}
    (h : course.On step movesX movesY) (hcurpixel : step.curpixel.toInt < 32767) :
    ∃ nextX nextY, movesX ≤ nextX ∧ movesY ≤ nextY ∧
      course.On { line.advance step with curpixel := (line.advance step).curpixel + 1 } nextX nextY := by
  obtain ⟨nextX, nextY, hx, hy, hpoint⟩ := hline.advance h.point
  have hmovesX := h.movesX_le
  have hmovesY := h.movesY_le
  have hsame : (line.advance step).curpixel = step.curpixel := by
    unfold UniLine.advance
    dsimp only
    split <;> rfl
  have hcount : (step.curpixel + 1).toInt = step.curpixel.toInt + 1 := by
    rw [Int16.toInt_add]
    exact Int.bmod_eq_of_le (show _ ≤ step.curpixel.toInt + 1 by omega)
      (show step.curpixel.toInt + 1 < _ by omega)
  exact ⟨nextX, nextY, hx.1, hy.1, hpoint, by rw [hsame, hcount]; omega, by rw [hsame, hcount]; omega⟩

/-- The points from a step on lie further along the course, but not a whole turn. -/
theorem On.mem_centres (hline : course.Follows line) (hnumpixels : line.numpixels.toInt < 32767)
    {fuel : ℕ} {step : UniStep} {movesX movesY : ℕ} (h : course.On step movesX movesY) :
    ∀ point ∈ line.centres (fun _ _ => true) fuel step, ∃ laterX laterY,
      (movesX ≤ laterX ∧ laterX < 32767) ∧ (movesY ≤ laterY ∧ laterY < 32767) ∧
        point = course.point laterX laterY := by
  induction fuel generalizing step movesX movesY with
  | zero => simp [UniLine.centres]
  | succ fuel ih =>
    rw [UniLine.centres]
    split
    case isFalse => simp
    case isTrue hgoes =>
      have hcurpixel := Int16.le_iff_toInt_le.mp hgoes
      have hmovesX := h.movesX_le
      have hmovesY := h.movesY_le
      obtain ⟨nextX, nextY, hnextX, hnextY, hnext⟩ := h.next hline (by omega)
      rw [if_pos rfl, List.forall_mem_cons]
      constructor
      · exact ⟨movesX, movesY, ⟨le_rfl, by omega⟩, ⟨le_rfl, by omega⟩, h.point⟩
      · intro point hpoint
        obtain ⟨laterX, laterY, hlaterX, hlaterY, rfl⟩ := ih hnext point hpoint
        exact ⟨laterX, laterY, ⟨hnextX.trans hlaterX.1, hlaterX.2⟩,
          ⟨hnextY.trans hlaterY.1, hlaterY.2⟩, rfl⟩

end Course

theorem toInt_ofInt {value : ℤ} (hlow : -32768 ≤ value) (hhigh : value < 65536) :
    (Int16.ofInt value).toInt = if value < 32768 then value else value - 65536 := by
  rw [Int16.toInt_ofInt, Int16.size]
  unfold Int.bmod
  dsimp only
  omega

/-- A coordinate that started in range and comes back has been there all the time. -/
theorem moved_between {start direction lower upper : ℤ} {moves later : ℕ}
    (hdirection : direction = 1 ∨ direction = -1) (hlower : 0 ≤ lower) (hupper : upper ≤ 320)
    (hstart : lower ≤ start ∧ start ≤ upper) (hmoves : moves ≤ later) (hlater : later < 32767)
    (h : lower ≤ (moved start direction later).toInt ∧
      (moved start direction later).toInt ≤ upper) :
    lower ≤ (moved start direction moves).toInt ∧
      (moved start direction moves).toInt ≤ upper := by
  unfold moved at h ⊢
  rcases hdirection with rfl | rfl
  · rw [toInt_ofInt (by omega) (by omega)] at h ⊢
    omega
  · rw [toInt_ofInt (by omega) (by omega)] at h ⊢
    omega

theorem inRange_iff {panel : Panel} {thick : UInt8} {x y : Int16} :
    inRange panel thick x y ↔
      ((thick.toNat : ℤ) ≤ x.toInt ∧ x.toInt ≤ panel.lcdXLength.toNat - thick.toNat) ∧
        (thick.toNat : ℤ) ≤ y.toInt ∧ y.toInt ≤ panel.lcdYLength.toNat - thick.toNat := by
  simp only [inRange, decide_eq_true_eq]
  omega

section
variable {panel : Panel} {thick : UInt8} {course : Course} {line : UniLine}
  (hline : course.Follows line) (hnumpixels : line.numpixels.toInt < 32767)
  (hdirectionX : course.directionX = 1 ∨ course.directionX = -1)
  (hdirectionY : course.directionY = 1 ∨ course.directionY = -1)
  (hstart : ((thick.toNat : ℤ) ≤ course.x ∧ course.x ≤ panel.lcdXLength.toNat - thick.toNat) ∧
    (thick.toNat : ℤ) ≤ course.y ∧ course.y ≤ panel.lcdYLength.toNat - thick.toNat)
include hdirectionX hdirectionY hstart

theorem Course.inRange_of_later {movesX movesY laterX laterY : ℕ}
    (hx : movesX ≤ laterX ∧ laterX < 32767) (hy : movesY ≤ laterY ∧ laterY < 32767)
    (h : pointInRange panel thick (course.point laterX laterY)) :
    pointInRange panel thick (course.point movesX movesY) := by
  have hlength := panel.length_le
  obtain ⟨hlaterX, hlaterY⟩ := inRange_iff.mp h
  exact inRange_iff.mpr
    ⟨moved_between hdirectionX (by omega) (by omega) hstart.1 hx.1 hx.2 hlaterX,
      moved_between hdirectionY (by omega) (by omega) hstart.2 hy.1 hy.2 hlaterY⟩

include hline hnumpixels

/-- A stroke that starts in range leaves it for good. -/
theorem neverReturns_of_start (fuel : ℕ) {step : UniStep} {movesX movesY : ℕ}
    (h : course.On step movesX movesY) :
    NeverReturns (pointInRange panel thick) (line.centres (fun _ _ => true) fuel step) := by
  induction fuel generalizing step movesX movesY with
  | zero => exact List.Pairwise.nil
  | succ fuel ih =>
    have hlater := @Course.On.mem_centres _ _ hline hnumpixels (fuel + 1) _ _ _ h
    rw [UniLine.centres] at hlater ⊢
    split
    case isFalse => exact List.Pairwise.nil
    case isTrue hgoes =>
      rw [if_pos hgoes, if_pos rfl, List.forall_mem_cons] at hlater
      have hcurpixel := Int16.le_iff_toInt_le.mp hgoes
      obtain ⟨nextX, nextY, -, -, hnext⟩ := h.next hline (by omega)
      refine List.pairwise_cons.mpr ⟨fun point hpoint hgood => ?_, ih hnext⟩
      obtain ⟨laterX, laterY, hx, hy, rfl⟩ := hlater.2 point hpoint
      rw [h.point]
      exact Course.inRange_of_later hdirectionX hdirectionY hstart hx hy hgood

end

/-! ### The line between two points -/

section
variable (x1 y1 x2 y2 : UInt16)

def Course.of : Course where
  x := x1.toInt16.toInt
  y := y1.toInt16.toInt
  directionX := if x2 ≥ x1 then 1 else -1
  directionY := if y2 ≥ y1 then 1 else -1

theorem Course.of_follows : (Course.of x1 y1 x2 y2).Follows (uniLine x1 y1 x2 y2).1 := by
  have hinc : ∀ stop start : UInt16, (if stop ≥ start then 1 else -1 : Int16) =
      .ofInt (if stop ≥ start then 1 else -1) := fun stop start => by split <;> rfl
  unfold uniLine
  dsimp only
  split
  · exact ⟨.inl ⟨rfl, hinc x2 x1⟩, .inr ⟨hinc y2 y1, rfl⟩⟩
  · exact ⟨.inr ⟨hinc x2 x1, rfl⟩, .inl ⟨rfl, hinc y2 y1⟩⟩

theorem uniLine_start : ((uniLine x1 y1 x2 y2).2.x, (uniLine x1 y1 x2 y2).2.y) =
    (x1.toInt16, y1.toInt16) ∧ (uniLine x1 y1 x2 y2).2.curpixel = 0 := by
  unfold uniLine
  dsimp only
  split <;> exact ⟨rfl, rfl⟩

theorem Course.of_point : (Course.of x1 y1 x2 y2).point 0 0 = (x1.toInt16, y1.toInt16) := by
  simp [point, of, moved]

theorem Course.of_on : (Course.of x1 y1 x2 y2).On (uniLine x1 y1 x2 y2).2 0 0 := by
  obtain ⟨hpoint, hcurpixel⟩ := uniLine_start x1 y1 x2 y2
  refine ⟨hpoint.trans (of_point x1 y1 x2 y2).symm, ?_, ?_⟩ <;> simp [hcurpixel]

end

section
variable {panel : Panel} {x1 y1 x2 y2 : UInt16} {thick : UInt8}

theorem neverReturns_of_inRange (hnumpixels : (uniLine x1 y1 x2 y2).1.numpixels ≠ 32767)
    (hstart : inRange panel thick x1.toInt16 y1.toInt16) (fuel : ℕ) :
    NeverReturns (pointInRange panel thick) (unclipped x1 y1 x2 y2 fuel) := by
  have hends : (uniLine x1 y1 x2 y2).1.numpixels.toInt < 32767 := by
    have hmax := (uniLine x1 y1 x2 y2).1.numpixels.toInt_lt
    have hne := mt Int16.toInt_inj.mp hnumpixels
    have hvalue : (32767 : Int16).toInt = 32767 := rfl
    omega
  refine neverReturns_of_start (Course.of_follows x1 y1 x2 y2) hends ?_ ?_
    (inRange_iff.mp hstart) fuel (Course.of_on x1 y1 x2 y2)
  · exact ite_eq_or_eq ..
  · exact ite_eq_or_eq ..

theorem start_of_neverReturns (hstart : ¬inRange panel thick x1.toInt16 y1.toInt16) {fuel : ℕ}
    (h : NeverReturns (pointInRange panel thick) (unclipped x1 y1 x2 y2 fuel)) :
    ∀ point ∈ unclipped x1 y1 x2 y2 fuel, pointInRange panel thick point = false := by
  cases fuel with
  | zero => simp [unclipped, UniLine.centres]
  | succ fuel =>
    have hfirst := (uniLine_start x1 y1 x2 y2).1
    unfold unclipped UniLine.centres at h ⊢
    rw [hfirst] at h ⊢
    split at h
    case isFalse hends => simp [hends]
    case isTrue hgoes =>
      rw [if_pos hgoes, if_pos rfl, List.forall_mem_cons]
      rw [if_pos rfl] at h
      have hlater := (List.pairwise_cons.mp h).1
      refine ⟨eq_false_of_ne_true hstart, fun point hpoint => ?_⟩
      exact eq_false_of_ne_true fun hgood => hstart (hlater point hpoint hgood)

end

/-- The dots of a stroke are the points in range of its line exactly if it starts in
range, or never comes there. -/
theorem clipsExactly_iff_startsInRange (panel : Panel) (x1 y1 x2 y2 : UInt16) (thick : UInt8) :
    ClipsExactly panel x1 y1 x2 y2 thick ↔ StartsInRange panel x1 y1 x2 y2 thick := by
  rw [clipsExactly_iff_neverReturns, StartsInRange]
  split
  case isTrue => exact Iff.rfl
  case isFalse hnumpixels =>
    constructor
    · intro h
      by_cases hstart : inRange panel thick x1.toInt16 y1.toInt16
      · exact .inl hstart
      · exact .inr fun fuel => start_of_neverReturns hstart (h fuel)
    · rintro (hstart | hnone) fuel
      · exact neverReturns_of_inRange hnumpixels hstart fuel
      · exact neverReturns_of_none (hnone fuel)

/-- A stroke that starts too close to the upper border stays invisible. -/
theorem startsOutOfRange_notDrawn :
    ¬∀ panel x1 y1 x2 y2 thick, ClipsExactly panel x1 y1 x2 y2 thick := by
  intro h
  exact absurd (h .init 100 5 100 20 10 20) (by decide)

end WeatherStation.Palette
