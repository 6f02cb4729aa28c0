import WeatherStation.Lib.Runs
import WeatherStation.Palette

/-! The buttons of the palette follow the pen, except that a button on whose border
the pen is lifted stays pressed: pressing takes the border in, releasing does not. -/
namespace WeatherStation.Xpt2046
open Lib Palette
open Ili9341 (Panel)

def touchStep (panel : Panel) (handler : Handler) (touch : Touch) : Handler :=
  (touchEvenHandler panel handler touch).1

/-- During a press only buttons at the latest sample are pressed, and after a release
none is. -/
def ButtonsFollow (panel : Panel) (handler : Handler) (touch : Touch) : Prop :=
  let result := (touchDetect duriationTime handler.detector touch.active).1
  let after := touchStep panel handler touch
  (result = touchPressed → ∀ btn ∈ after.palette.button, btn.touchFlag = 1 →
    btn.Touched after.cinfo.x.toUInt16 after.cinfo.y.toUInt16) ∧
  (result ≠ touchPressed → ∀ btn ∈ after.palette.button, btn.touchFlag = 0)

/-! ### The samples of a press -/

abbrev Sample := Int16 × Int16

/-- A press with its samples, the latest first. -/
structure Press where
  detector : Detector
  samples : List Sample

def Press.init : Press := ⟨.init, []⟩

def latest (samples : List Sample) : Sample := samples.headD (-1, -1)

/-- A failed acquisition repeats the latest sample. -/
def Press.next (press : Press) (touch : Touch) : Press :=
  let (result, detector) := touchDetect duriationTime press.detector touch.active
  ⟨detector, if result = touchPressed then touch.acquired.getD (latest press.samples) :: press.samples
    else []⟩

/-- The latest sample has gone to the buttons: it is not the first one, and the one
before it does not stand for a missing sample. -/
def Processed : List Sample → Prop
  | [] => False
  | _ :: earlier => latest earlier ≠ (-1, -1)

instance : (samples : List Sample) → Decidable (Processed samples)
  | [] => isFalse id
  | _ :: earlier => inferInstanceAs (Decidable (latest earlier ≠ (-1, -1)))

def TouchedAt (sample : Sample) (btn : TouchButton) : Prop :=
  btn.Touched sample.1.toUInt16 sample.2.toUInt16

def ReleasedAt (sample : Sample) (btn : TouchButton) : Prop :=
  btn.Released sample.1.toUInt16 sample.2.toUInt16

instance (sample : Sample) : DecidablePred (TouchedAt sample) := fun btn =>
  inferInstanceAs (Decidable (btn.Touched _ _))

instance (sample : Sample) : DecidablePred (ReleasedAt sample) := fun btn =>
  inferInstanceAs (Decidable (btn.Released _ _))

/-- The press ends with a processed sample on the border of a button. -/
def EndsOnBorder (panel : Panel) (samples : List Sample) : Prop :=
  Processed samples ∧
    ∃ btn ∈ touchButtonInit panel, TouchedAt (latest samples) btn ∧ ¬ReleasedAt (latest samples) btn

def LiftedOffBorders (panel : Panel) (press : Press) (touch : Touch) : Prop :=
  (touchDetect duriationTime press.detector touch.active).1 ≠ touchPressed →
    ¬EndsOnBorder panel press.samples

/-! ### The rectangles -/

theorem touchButtonInit_flag (panel : Panel) :
    ∀ btn ∈ touchButtonInit panel, btn.touchFlag = 0 := by
  simp [touchButtonInit]

theorem touchButtonInit_endX (panel : Panel) :
    ∀ btn ∈ touchButtonInit panel, btn.endX ≤ 80 := by
  unfold touchButtonInit
  rcases panel.oriented with ⟨-, hy⟩ | ⟨-, hy⟩ <;> rw [hy] <;> decide

/-- One rectangle lies beside the other or below it. -/
def Apart (b c : TouchButton) : Prop :=
  b.endX ≤ c.startX ∨ c.endX ≤ b.startX ∨ b.endY ≤ c.startY ∨ c.endY ≤ b.startY

instance (b c : TouchButton) : Decidable (Apart b c) := inferInstanceAs (Decidable (_ ∨ _))

theorem touchButtonInit_apart (panel : Panel) : (touchButtonInit panel).Pairwise Apart := by
  unfold touchButtonInit
  rcases panel.oriented with ⟨-, hy⟩ | ⟨-, hy⟩ <;> rw [hy] <;> decide

theorem Apart.not_touchedAt {b c : TouchButton} (h : Apart b c) {sample : Sample}
    (hreleased : ReleasedAt sample b) : ¬TouchedAt sample c := by
  intro htouched
  unfold Apart at h
  unfold ReleasedAt TouchButton.Released at hreleased
  unfold TouchedAt TouchButton.Touched at htouched
  simp only [UInt16.le_iff_toNat_le, UInt16.lt_iff_toNat_lt, ge_iff_le, gt_iff_lt] at *
  omega

theorem not_touchedAt_missing {panel : Panel} {btn : TouchButton}
    (hbtn : btn ∈ touchButtonInit panel) : ¬TouchedAt (-1, -1) btn := by
  intro htouched
  have hend := UInt16.le_iff_toNat_le.mp (touchButtonInit_endX panel btn hbtn)
  have hx : 65535 ≤ btn.endX.toNat := UInt16.le_iff_toNat_le.mp htouched.1
  have hsize : btn.endX.toNat ≤ 80 := hend
  omega

/-! ### The flags -/

def withFlag (pressed : Prop) [Decidable pressed] (btn : TouchButton) : TouchButton :=
  { btn with touchFlag := if pressed then 1 else 0 }

def flagged (samples : List Sample) (btn : TouchButton) : TouchButton :=
  withFlag (Processed samples ∧ TouchedAt (latest samples) btn) btn

theorem withFlag_of_not {pressed : Prop} [Decidable pressed] {btn : TouchButton}
    (hflag : btn.touchFlag = 0) (h : ¬pressed) : withFlag pressed btn = btn := by
  rw [withFlag, if_neg h, ← hflag]

theorem withFlag_down (pressed : Prop) [Decidable pressed] (sample : Sample) (btn : TouchButton) :
    ((withFlag pressed btn).down sample.1.toUInt16 sample.2.toUInt16).1 =
      withFlag (TouchedAt sample btn) btn := by
  have hrectangle : (withFlag pressed btn).Touched sample.1.toUInt16 sample.2.toUInt16 ↔
      TouchedAt sample btn := Iff.rfl
  unfold TouchButton.down
  by_cases htouched : TouchedAt sample btn
  · rw [if_pos (hrectangle.mpr htouched)]
    by_cases hpressed : pressed <;> simp [withFlag, hpressed, htouched]
  · rw [if_neg (mt hrectangle.mp htouched)]
    by_cases hpressed : pressed <;> simp [withFlag, hpressed, htouched]

theorem map_withFlag_of_not {pressed : TouchButton → Prop} [DecidablePred pressed]
    {buttons : List TouchButton} (hflags : ∀ btn ∈ buttons, btn.touchFlag = 0)
    (h : ∀ btn ∈ buttons, ¬pressed btn) :
    (buttons.map fun btn => withFlag (pressed btn) btn) = buttons := by
  conv_rhs => rw [← List.map_id buttons]
  exact List.map_congr_left fun btn hbtn => withFlag_of_not (hflags btn hbtn) (h btn hbtn)

theorem touchButtonInit_flagged {panel : Panel} {samples : List Sample}
    (h : ∀ btn ∈ touchButtonInit panel, ¬(Processed samples ∧ TouchedAt (latest samples) btn)) :
    (touchButtonInit panel).map (flagged samples) = touchButtonInit panel :=
  map_withFlag_of_not (touchButtonInit_flag panel) h

/-- A released button had its flag cleared already, if all flags are. -/
theorem releaseButton_cleared {buttons : List TouchButton}
    (hflags : ∀ btn ∈ buttons, btn.touchFlag = 0) (x y : UInt16) :
    (releaseButton x y buttons).1 = buttons := by
  induction buttons with
  | nil => rfl
  | cons btn buttons ih =>
    rw [List.forall_mem_cons] at hflags
    rw [releaseButton]
    split
    · simp [← hflags.1]
    · simp [ih hflags.2]

/-- Buttons around whose inside the pen is not lifted are not reached. -/
theorem mem_releaseButton {buttons : List TouchButton} {btn : TouchButton} {x y : UInt16}
    (hbtn : btn ∈ buttons) (hreleased : ¬btn.Released x y) :
    btn ∈ (releaseButton x y buttons).1 := by
  induction buttons with
  | nil => simp at hbtn
  | cons first buttons ih =>
    rw [releaseButton]
    rcases List.mem_cons.mp hbtn with rfl | hrest
    · simp [hreleased]
    · split
      · simp [hrest]
      · simp [ih hrest]

/-- Off the borders the release clears the only button at the sample. -/
theorem releaseButton_touched {buttons : List TouchButton} {sample : Sample}
    (hflags : ∀ btn ∈ buttons, btn.touchFlag = 0) (hapart : buttons.Pairwise Apart)
    (hborder : ∀ btn ∈ buttons, TouchedAt sample btn → ReleasedAt sample btn) :
    (releaseButton sample.1.toUInt16 sample.2.toUInt16
      (buttons.map fun btn => withFlag (TouchedAt sample btn) btn)).1 = buttons := by
  induction buttons with
  | nil => rfl
  | cons btn buttons ih =>
    rw [List.forall_mem_cons] at hflags hborder
    rw [List.pairwise_cons] at hapart
    rw [List.map_cons, releaseButton]
    split
    case isTrue hreleased =>
      have hothers : ∀ other ∈ buttons, ¬TouchedAt sample other := fun other hother =>
        (hapart.1 other hother).not_touchedAt hreleased
      rw [map_withFlag_of_not hflags.2 hothers]
      simp [withFlag, ← hflags.1]
    case isFalse hreleased =>
      have hbtn := withFlag_of_not hflags.1 fun htouched => hreleased (hborder.1 htouched)
      simp only [hbtn, ih hflags.2 hapart.2 hborder.2]

/-! ### The handler -/

/-- What the handler remembers of a press. -/
structure Follows (panel : Panel) (handler : Handler) (press : Press) : Prop where
  detector : handler.detector = press.detector
  cinfo : handler.cinfo = ⟨(latest press.samples).1, (latest press.samples).2,
    (latest press.samples).1, (latest press.samples).2⟩
  button : handler.palette.button = (touchButtonInit panel).map (flagged press.samples)

section
variable {panel : Panel} {handler : Handler} {press : Press}

theorem missing_iff {sample : Sample} : (sample.1 = -1 ∧ sample.2 = -1) ↔ sample = (-1, -1) := by
  rw [Prod.ext_iff]

theorem touchDown_button (panel : Panel) (sample earlier : Sample) (palette : State) :
    (touchDown panel ⟨sample.1, sample.2, earlier.1, earlier.2⟩ palette).1.button =
      if earlier = (-1, -1) then palette.button
      else palette.button.map fun btn =>
        (btn.down sample.1.toUInt16 sample.2.toUInt16).1 := by
  unfold touchDown
  simp only [missing_iff]
  split
  · rfl
  · simp [touchButtonDown]

theorem touchUp_button (panel : Panel) (sample : Sample) (palette : State) :
    (touchUp panel ⟨sample.1, sample.2, sample.1, sample.2⟩ palette).1.button =
      if sample = (-1, -1) then palette.button
      else (releaseButton sample.1.toUInt16 sample.2.toUInt16 palette.button).1 := by
  unfold touchUp
  simp only [missing_iff]
  split
  · rfl
  · unfold touchButtonUp
    split <;> simp_all

/-- While the latest sample is missing no button is pressed. -/
theorem flagged_missing {samples : List Sample} (h : latest samples = (-1, -1)) :
    (touchButtonInit panel).map (flagged samples) = touchButtonInit panel :=
  touchButtonInit_flagged fun _ hbtn hflag => not_touchedAt_missing hbtn (h ▸ hflag.2)

theorem flagged_first {samples : List Sample} (h : latest samples = (-1, -1)) (sample : Sample) :
    (touchButtonInit panel).map (flagged (sample :: samples)) = touchButtonInit panel :=
  touchButtonInit_flagged fun _ _ hflag => hflag.1 h

/-- The buttons at a processed sample. -/
theorem flagged_processed {samples : List Sample} (h : Processed samples) :
    flagged samples = fun btn => withFlag (TouchedAt (latest samples) btn) btn := by
  funext btn
  simp [flagged, withFlag, h]

theorem follows_init (panel : Panel) (brush : BrushStyle) :
    Follows panel (.init panel brush) .init where
  detector := rfl
  cinfo := rfl
  button := (flagged_missing rfl).symm

theorem getTouchedPoint_eq (acquired : Option Sample) (earlier : Sample) :
    getTouchedPoint acquired ⟨earlier.1, earlier.2, earlier.1, earlier.2⟩ =
      ⟨(acquired.getD earlier).1, (acquired.getD earlier).2, earlier.1, earlier.2⟩ := by
  cases acquired <;> rfl

theorem Follows.down (h : Follows panel handler press) {touch : Touch}
    (hresult : (touchDetect duriationTime press.detector touch.active).1 = touchPressed) :
    Follows panel (touchStep panel handler touch) (press.next touch) := by
  obtain ⟨detector, cinfo, palette⟩ := handler
  obtain ⟨rfl, rfl, hbutton⟩ := h
  dsimp only at hbutton
  unfold touchStep touchEvenHandler Press.next
  simp only [hresult, ↓reduceIte, getTouchedPoint_eq]
  refine ⟨rfl, rfl, ?_⟩
  dsimp only
  rw [touchDown_button, hbutton]
  split
  case isTrue hmissing => rw [flagged_missing hmissing, flagged_first hmissing]
  case isFalse hearlier =>
    have hprocessed : Processed (touch.acquired.getD (latest press.samples) :: press.samples) :=
      hearlier
    rw [flagged_processed hprocessed, List.map_map]
    exact List.map_congr_left fun btn _ => withFlag_down _ _ btn

theorem Follows.up (h : Follows panel handler press) {touch : Touch}
    (hresult : (touchDetect duriationTime press.detector touch.active).1 ≠ touchPressed)
    (hborder : ¬EndsOnBorder panel press.samples) :
    Follows panel (touchStep panel handler touch) (press.next touch) := by
  obtain ⟨detector, cinfo, palette⟩ := handler
  obtain ⟨rfl, rfl, hbutton⟩ := h
  dsimp only at hbutton
  unfold touchStep touchEvenHandler Press.next
  simp only [hresult, ↓reduceIte]
  refine ⟨rfl, rfl, ?_⟩
  have hcleared := @flagged_missing panel [] rfl
  dsimp only
  rw [touchUp_button, hbutton, hcleared]
  split
  case isTrue hmissing => exact flagged_missing hmissing
  case isFalse hsample =>
    by_cases hprocessed : Processed press.samples
    · rw [flagged_processed hprocessed]
      apply releaseButton_touched (touchButtonInit_flag panel) (touchButtonInit_apart panel)
      intro btn hbtn htouched
      by_contra hreleased
      exact hborder ⟨hprocessed, btn, hbtn, htouched, hreleased⟩
    · rw [touchButtonInit_flagged fun _ _ hflag => hprocessed hflag.1]
      exact releaseButton_cleared (touchButtonInit_flag panel) _ _

/-- A button on whose border the pen is lifted keeps its flag. -/
theorem Follows.stuck (h : Follows panel handler press) {touch : Touch}
    (hresult : (touchDetect duriationTime press.detector touch.active).1 ≠ touchPressed)
    (hborder : EndsOnBorder panel press.samples) :
    ∃ btn ∈ (touchStep panel handler touch).palette.button, btn.touchFlag = 1 := by
  obtain ⟨detector, cinfo, palette⟩ := handler
  obtain ⟨rfl, rfl, hbutton⟩ := h
  obtain ⟨hprocessed, btn, hbtn, htouched, hreleased⟩ := hborder
  dsimp only at hbutton
  unfold touchStep touchEvenHandler
  simp only [hresult, ↓reduceIte]
  rw [touchUp_button, hbutton, flagged_processed hprocessed, if_neg]
  · refine ⟨_, mem_releaseButton (List.mem_map_of_mem hbtn) hreleased, ?_⟩
    simp [withFlag, htouched]
  · intro hmissing
    exact not_touchedAt_missing hbtn (hmissing ▸ htouched)

theorem Follows.buttonsFollow_iff (h : Follows panel handler press) (touch : Touch) :
    ButtonsFollow panel handler touch ↔ LiftedOffBorders panel press touch := by
  unfold ButtonsFollow LiftedOffBorders
  dsimp only
  rw [h.detector]
  by_cases hresult : (touchDetect duriationTime press.detector touch.active).1 = touchPressed
  · have hdown := h.down hresult
    refine iff_of_true ⟨fun _ => ?_, fun hnot => absurd hresult hnot⟩ (absurd hresult ·)
    rw [hdown.button, hdown.cinfo, List.forall_mem_map]
    intro btn _ hflag
    by_contra htouched
    have hcleared : ¬(Processed (press.next touch).samples ∧
        TouchedAt (latest (press.next touch).samples) btn) := fun h => htouched h.2
    simp [flagged, withFlag, hcleared] at hflag
  · constructor
    · intro hfollow _ hborder
      obtain ⟨btn, hbtn, hflag⟩ := h.stuck hresult hborder
      rw [hfollow.2 hresult btn hbtn] at hflag
      exact absurd hflag (by decide)
    · intro hlifted
      have hup := h.up hresult (hlifted hresult)
      refine ⟨fun hpressed => absurd hpressed hresult, fun _ => ?_⟩
      have hsamples : (press.next touch).samples = [] := by
        simp [Press.next, hresult]
      rw [hup.button, hsamples, flagged_missing rfl]
      exact touchButtonInit_flag panel

/-- The buttons follow the pen exactly in the runs in which no press ends on a border. -/
theorem buttonsFollow_iff_liftedOffBorders (panel : Panel) (brush : BrushStyle)
    (touches : List Touch) :
    Along (touchStep panel) (ButtonsFollow panel) (.init panel brush) touches ↔
      Along Press.next (LiftedOffBorders panel) .init touches := by
  apply along_iff_along_of_relation (Follows panel)
  · exact fun _ _ touch h => h.buttonsFollow_iff touch
  · intro handler press touch h hlifted
    by_cases hresult : (touchDetect duriationTime press.detector touch.active).1 = touchPressed
    · exact h.down hresult
    · exact h.up hresult (hlifted hresult)
  · exact follows_init panel brush

/-- A press that ends on the line between two buttons leaves both pressed. -/
theorem border_staysPressed :
    ¬∀ panel brush touches,
      Along (touchStep panel) (ButtonsFollow panel) (.init panel brush) touches := by
  intro h
  have hrun := h .init ⟨clBlack, .lineSinglePixcel⟩
    [⟨true, none⟩, ⟨true, none⟩, ⟨true, none⟩, ⟨true, some (20, 10)⟩, ⟨true, some (20, 28)⟩,
      ⟨false, none⟩]
  exact absurd (hrun.2.2.2.2.2.1.2 (by decide)) (by decide)

end
end WeatherStation.Xpt2046
