import Mathlib.Algebra.BigOperators.Group.List.Basic
import Mathlib.Algebra.Order.Ring.Nat
import Mathlib.Data.List.Induction
import Mathlib.Logic.Function.Basic
import WeatherStation.BusLog
import WeatherStation.CameraSetup
import WeatherStation.Lib.Runs

/-! What `OV7725_Window_Set` leaves in the registers.  The offsets are added to those of
the windows before, and the low bits are joined with theirs. -/
namespace WeatherStation.CameraSetup
open Lib I2c

/-- A sensor that acknowledges every byte, as its registers. -/
abbrev Registers := UInt8 → UInt8

def acknowledged (value : UInt8) : Answers := ⟨true, true, true, true, true, true, value⟩

def sensor : Sccb Registers where
  transfer
    | .write address value => fun regs => (acknowledged 0, Function.update regs address value)
    | .read address => fun regs => (acknowledged (regs address), regs)

def windowSet (locals : Locals) (regs : Registers) (window : Window) : Registers :=
  (ov7725WindowSet sensor locals window regs).2

/-- The windows that the comment on `OV7725_Window_Set` admits. -/
def Window.Admitted (window : Window) : Prop :=
  if window.qvgaVga = 0 then
    window.sx.toNat + window.width.toNat ≤ 320 ∧ window.sy.toNat + window.height.toNat ≤ 240
  else window.sx.toNat + window.width.toNat ≤ 640 ∧ window.sy.toNat + window.height.toNat ≤ 480

instance (window : Window) : Decidable window.Admitted :=
  inferInstanceAs (Decidable (ite _ _ _))

/-- The registers encode the window. -/
structure Encodes (regs : Registers) (window : Window) : Prop where
  width : 4 * (regs regHsize).toNat + (regs regHref).toNat % 4 = window.width.toNat
  height : 2 * (regs regVsize).toNat + (regs regHref).toNat / 4 % 2 = window.height.toNat
  sx : 4 * ((regs regHstart).toNat - 0x3f : ℤ) + ((regs regHref).toNat / 16 % 4 : ℕ) =
    window.sx.toNat
  sy : 2 * ((regs regVstrt).toNat - 0x03 : ℤ) + ((regs regHref).toNat / 64 % 2 : ℕ) =
    window.sy.toNat
  outWidth : 4 * (regs regHOutSize).toNat + (regs regExhch).toNat % 4 = window.width.toNat
  outHeight : 2 * (regs regVOutSize).toNat + (regs regExhch).toNat / 4 % 2 = window.height.toNat

/-- The bits that a window adds to HREF. -/
def hrefBits (window : Window) : UInt8 :=
  (window.width &&& 0x03).toUInt8 ||| ((window.height &&& 0x01) <<< 2).toUInt8 |||
    ((window.sx &&& 0x03) <<< 4).toUInt8 ||| ((window.sy &&& 0x01) <<< 6).toUInt8

/-- The earlier offsets add up to nothing modulo 256, and no earlier window has a low
bit that this one lacks. -/
def Undisturbed (earlier : List Window) (window : Window) : Prop :=
  (earlier.map fun w => w.sx.toNat / 4).sum % 256 = 0 ∧
    (earlier.map fun w => w.sy.toNat / 2).sum % 256 = 0 ∧
    ∀ w ∈ earlier, hrefBits w ||| hrefBits window = hrefBits window

instance (earlier : List Window) (window : Window) : Decidable (Undisturbed earlier window) :=
  inferInstanceAs (Decidable (_ ∧ _ ∧ _))

/-! ### One call -/

section
variable (locals : Locals) (regs : Registers) (window : Window)

theorem sensor_write (address value : UInt8) :
    sccbWriteByte sensor address value regs = (true, Function.update regs address value) := rfl

theorem sensor_read (pBuffer address : UInt8) :
    sccbReadByte sensor pBuffer address regs = ((true, regs address), regs) := rfl

/-- The registers that a call writes. -/
structure WindowWritten (after : Registers) : Prop where
  hstart : after regHstart = regs regHstart + (window.sx >>> 2).toUInt8
  hsize : after regHsize = (window.width >>> 2).toUInt8
  vstrt : after regVstrt = regs regVstrt + (window.sy >>> 1).toUInt8
  vsize : after regVsize = (window.height >>> 1).toUInt8
  href : after regHref = regs regHref ||| hrefBits window
  hOutSize : after regHOutSize = (window.width >>> 2).toUInt8
  vOutSize : after regVOutSize = (window.height >>> 1).toUInt8
  exhch : after regExhch = regs regExhch ||| (window.width &&& 0x03).toUInt8 |||
    ((window.height &&& 0x01) <<< 2).toUInt8

theorem windowSet_written : WindowWritten regs window (windowSet locals regs window) := by
  unfold windowSet ov7725WindowSet
  simp only [bind_run (sensor_write _ _ _), bind_run (sensor_read _ _ _), pure_run]
  constructor <;>
    simp [regCom7, regHstart, regHsize, regVstrt, regVsize, regHref, regHOutSize, regVOutSize,
      regExhch, hrefBits, UInt8.or_assoc]

end

/-! ### The low bits -/

/-- HREF with its four fields. -/
def packHref (width : Fin 4) (height : Fin 2) (sx : Fin 4) (sy : Fin 2) : UInt8 :=
  (UInt16.ofNat width.val).toUInt8 ||| (UInt16.ofNat height.val <<< 2).toUInt8 |||
    (UInt16.ofNat sx.val <<< 4).toUInt8 ||| (UInt16.ofNat sy.val <<< 6).toUInt8

theorem packHref_fielded : ∀ width height sx sy, (packHref width height sx sy).toNat &&& 0x88 = 0 := by
  decide

theorem packHref_toNat : ∀ width height sx sy, (packHref width height sx sy).toNat =
    width.val + 4 * height.val + 16 * sx.val + 64 * sy.val := by
  decide

theorem and_three (x : UInt16) : x &&& 0x03 = UInt16.ofNat (x.toNat % 4) := by
  rw [← UInt16.toNat_inj, UInt16.toNat_and]
  exact (Nat.and_two_pow_sub_one_eq_mod _ 2).trans (Nat.mod_eq_of_lt (by omega)).symm

theorem and_one (x : UInt16) : x &&& 0x01 = UInt16.ofNat (x.toNat % 2) := by
  rw [← UInt16.toNat_inj, UInt16.toNat_and]
  exact (Nat.and_two_pow_sub_one_eq_mod _ 1).trans (Nat.mod_eq_of_lt (by omega)).symm

theorem hrefBits_eq (window : Window) :
    hrefBits window = packHref ⟨window.width.toNat % 4, Nat.mod_lt _ (by decide)⟩
      ⟨window.height.toNat % 2, Nat.mod_lt _ (by decide)⟩
      ⟨window.sx.toNat % 4, Nat.mod_lt _ (by decide)⟩
      ⟨window.sy.toNat % 2, Nat.mod_lt _ (by decide)⟩ := by
  unfold hrefBits
  rw [and_three, and_one, and_three, and_one]
  rfl

theorem hrefBits_toNat (window : Window) :
    (hrefBits window).toNat = window.width.toNat % 4 + 4 * (window.height.toNat % 2) +
      16 * (window.sx.toNat % 4) + 64 * (window.sy.toNat % 2) := by
  rw [hrefBits_eq, packHref_toNat]

/-- The two bits of HREF that belong to no field are 0. -/
def Fielded (bits : UInt8) : Prop := bits.toNat &&& 0x88 = 0

theorem fielded_hrefBits (window : Window) : Fielded (hrefBits window) := by
  rw [Fielded, hrefBits_eq, packHref_fielded]

theorem Fielded.or {a b : UInt8} (ha : Fielded a) (hb : Fielded b) : Fielded (a ||| b) := by
  unfold Fielded at *
  rw [UInt8.toNat_or, Nat.and_or_distrib_right, ha, hb]
  rfl

theorem fields_of_lt_256 : ∀ n < 256, n &&& 0x88 = 0 →
    n = n % 4 + 4 * (n / 4 % 2) + 16 * (n / 16 % 4) + 64 * (n / 64 % 2) := by
  decide +kernel

theorem low_of_lt_256 : ∀ n < 256, (n &&& 0x07) % 4 = n % 4 ∧ (n &&& 0x07) / 4 % 2 = n / 4 % 2 := by
  decide +kernel

/-- The fields of HREF are those of the window exactly if the register holds its bits. -/
theorem href_eq_iff {href : UInt8} (hfielded : Fielded href) (window : Window) :
    href = hrefBits window ↔
      href.toNat % 4 = window.width.toNat % 4 ∧ href.toNat / 4 % 2 = window.height.toNat % 2 ∧
        href.toNat / 16 % 4 = window.sx.toNat % 4 ∧ href.toNat / 64 % 2 = window.sy.toNat % 2 := by
  have hdecode := fields_of_lt_256 href.toNat href.toNat_lt hfielded
  have hbits := hrefBits_toNat window
  rw [← UInt8.toNat_inj, hbits]
  omega

/-! ### Joined bits -/

theorem or_or_eq_iff {a b c : UInt8} : a ||| b ||| c = c ↔ a ||| c = c ∧ b ||| c = c := by
  constructor
  · intro h
    constructor
    · rw [← h, ← UInt8.or_assoc, ← UInt8.or_assoc, UInt8.or_self]
    · rw [← h, UInt8.or_comm a b, ← UInt8.or_assoc, ← UInt8.or_assoc, UInt8.or_self]
  · rintro ⟨ha, hb⟩
    rw [UInt8.or_assoc, hb, ha]

/-- EXHCH takes the lower three of the bits. -/
theorem hrefBits_low (window : Window) :
    (window.width &&& 0x03).toUInt8 ||| ((window.height &&& 0x01) <<< 2).toUInt8 =
      hrefBits window &&& 0x07 := by
  have hpack : ∀ width height sx sy, (UInt16.ofNat (width : Fin 4).val).toUInt8 |||
      (UInt16.ofNat (height : Fin 2).val <<< 2).toUInt8 = packHref width height sx sy &&& 0x07 := by
    decide
  rw [hrefBits_eq, and_three, and_one]
  exact hpack ⟨window.width.toNat % 4, Nat.mod_lt _ (by decide)⟩
    ⟨window.height.toNat % 2, Nat.mod_lt _ (by decide)⟩ _ _

/-! ### Runs -/

section
variable {locals : Locals} {regs : Registers}

theorem shifted_two (x : UInt16) : ((x >>> 2).toUInt8).toNat = x.toNat / 4 % 256 := by
  rw [UInt16.toNat_toUInt8, UInt16.toNat_shiftRight]
  exact congrArg (· % 256) (Nat.shiftRight_eq_div_pow _ 2)

theorem shifted_one (x : UInt16) : ((x >>> 1).toUInt8).toNat = x.toNat / 2 % 256 := by
  rw [UInt16.toNat_toUInt8, UInt16.toNat_shiftRight]
  exact congrArg (· % 256) (Nat.shiftRight_eq_div_pow _ 1)

/-- A register to which every call adds an offset. -/
theorem runs_added {address : UInt8} {offset : Window → ℕ}
    (hadds : ∀ regs window, (windowSet locals regs window address).toNat =
      ((regs address).toNat + offset window) % 256) (windows : List Window) :
    (runs (windowSet locals) regs windows address).toNat =
      ((regs address).toNat + (windows.map offset).sum) % 256 := by
  induction windows generalizing regs with
  | nil =>
    have hsize := (regs address).toNat_lt
    simp
  | cons window windows ih =>
    rw [runs_cons, ih, hadds, List.map_cons, List.sum_cons]
    omega

theorem runs_hstart (windows : List Window) :
    (runs (windowSet locals) regs windows regHstart).toNat =
      ((regs regHstart).toNat + (windows.map fun w => w.sx.toNat / 4).sum) % 256 := by
  apply runs_added
  intro regs window
  rw [(windowSet_written locals regs window).hstart, UInt8.toNat_add, shifted_two]
  omega

theorem runs_vstrt (windows : List Window) :
    (runs (windowSet locals) regs windows regVstrt).toNat =
      ((regs regVstrt).toNat + (windows.map fun w => w.sy.toNat / 2).sum) % 256 := by
  apply runs_added
  intro regs window
  rw [(windowSet_written locals regs window).vstrt, UInt8.toNat_add, shifted_one]
  omega

/-- The low bits are joined. -/
theorem runs_href_iff {bits : UInt8} (windows : List Window) :
    runs (windowSet locals) regs windows regHref ||| bits = bits ↔
      regs regHref ||| bits = bits ∧ ∀ w ∈ windows, hrefBits w ||| bits = bits := by
  induction windows generalizing regs with
  | nil => simp
  | cons window windows ih =>
    rw [runs_cons, ih, (windowSet_written locals regs window).href, or_or_eq_iff, and_assoc,
      List.forall_mem_cons]

/-- HREF has only its fields, and EXHCH shares the lower ones. -/
structure LowBits (regs : Registers) : Prop where
  fielded : Fielded (regs regHref)
  exhch : regs regExhch = regs regHref &&& 0x07

theorem LowBits.windowSet (h : LowBits regs) (window : Window) :
    LowBits (windowSet locals regs window) := by
  have hwritten := windowSet_written locals regs window
  constructor
  · rw [hwritten.href]
    exact h.fielded.or (fielded_hrefBits window)
  · rw [hwritten.href, hwritten.exhch, UInt8.or_assoc, hrefBits_low, h.exhch, ← UInt8.toNat_inj]
    simp only [UInt8.toNat_or, UInt8.toNat_and, Nat.and_or_distrib_right]

theorem LowBits.runs (h : LowBits regs) (windows : List Window) :
    LowBits (runs (CameraSetup.windowSet locals) regs windows) :=
  runs_induction (fun _ window h => h.windowSet window) h windows

end

/-! ### The table -/

theorem writeConfig_sensor (config : List (UInt8 × UInt8)) (regs : Registers) :
    writeConfig sensor config regs =
      (.success, config.foldl (fun regs setting => Function.update regs setting.1 setting.2) regs) := by
  induction config generalizing regs with
  | nil => rfl
  | cons setting config ih =>
    rw [writeConfig, bind_run (sensor_write _ _ _), if_neg (by simp), ih]
    rfl

/-- The last value written to an address stays. -/
theorem foldl_update_apply (config : List (UInt8 × UInt8)) (regs : Registers) (address : UInt8) :
    config.foldl (fun regs setting => Function.update regs setting.1 setting.2) regs address =
      (config.reverse.lookup address).getD (regs address) := by
  induction config using List.reverseRecOn with
  | nil => rfl
  | append_singleton config setting ih =>
    rw [List.foldl_concat, List.reverse_append, List.reverse_singleton, List.singleton_append,
      List.lookup_cons, Function.update_apply, ih]
    by_cases h : address = setting.1
    · simp [h]
    · have hother : (address == setting.1) = false := by simpa using h
      simp [h, hother]

theorem sensorConfig_written {address value : UInt8}
    (h : sensorConfig.reverse.lookup address = some value) (regs : Registers) :
    sensorConfig.foldl (fun regs setting => Function.update regs setting.1 setting.2) regs address =
      value := by
  rw [foldl_update_apply, h, Option.getD_some]

/-- What `OV7725_Init` leaves in the registers of the window. -/
structure Programmed (regs : Registers) : Prop where
  hstart : regs regHstart = 0x3f
  vstrt : regs regVstrt = 0x03
  href : regs regHref = 0x00
  exhch : regs regExhch = 0x00

theorem Programmed.lowBits {regs : Registers} (h : Programmed regs) : LowBits regs := by
  constructor
  · rw [h.href]
    rfl
  · rw [h.href, h.exhch]
    rfl

theorem init_succeeds {regs : Registers} (hid : regs 0x0b = ov7725Id) :
    (ov7725Init sensor regs).1 = .success := by
  have hread : Function.update regs 0x12 0x80 0x0b = ov7725Id := by
    rw [Function.update_of_ne (by decide), hid]
  unfold ov7725Init
  rw [bind_run (sensor_write _ _ _), if_neg (by simp), bind_run (sensor_read _ _ _)]
  dsimp only
  rw [if_neg (by simp), if_pos hread, writeConfig_sensor]

theorem init_programmed {regs : Registers} (h : (ov7725Init sensor regs).1 = .success) :
    Programmed (ov7725Init sensor regs).2 := by
  unfold ov7725Init at h ⊢
  rw [bind_run (sensor_write _ _ _), if_neg (by simp), bind_run (sensor_read _ _ _)] at h ⊢
  dsimp only at h ⊢
  rw [if_neg (by simp)] at h ⊢
  split at h
  case isFalse => cases h
  case isTrue hid =>
    rw [if_pos hid, writeConfig_sensor]
    have hhstart : sensorConfig.reverse.lookup regHstart = some 0x3f := by decide +kernel
    have hvstrt : sensorConfig.reverse.lookup regVstrt = some 0x03 := by decide +kernel
    have hhref : sensorConfig.reverse.lookup regHref = some 0x00 := by decide +kernel
    have hexhch : sensorConfig.reverse.lookup regExhch = some 0x00 := by decide +kernel
    dsimp only
    exact ⟨sensorConfig_written hhstart _, sensorConfig_written hvstrt _,
      sensorConfig_written hhref _, sensorConfig_written hexhch _⟩

/-! ### The last window -/

theorem admitted_bounds {window : Window} (h : window.Admitted) :
    window.sx.toNat + window.width.toNat ≤ 640 ∧ window.sy.toNat + window.height.toNat ≤ 480 := by
  unfold Window.Admitted at h
  split at h <;> omega

/-- After a call the registers encode its window if the offsets and the low bits do. -/
theorem encodes_windowSet_iff {regs : Registers} (h : LowBits regs) (locals : Locals)
    {window : Window} (hwindow : window.Admitted) :
    Encodes (windowSet locals regs window) window ↔
      (windowSet locals regs window regHstart).toNat = 0x3f + window.sx.toNat / 4 ∧
        (windowSet locals regs window regVstrt).toNat = 0x03 + window.sy.toNat / 2 ∧
        windowSet locals regs window regHref = hrefBits window := by
  have hbounds := admitted_bounds hwindow
  have hwritten := windowSet_written locals regs window
  have hlow : LowBits (windowSet locals regs window) := h.windowSet window
  have hexhch := low_of_lt_256 _ (windowSet locals regs window regHref).toNat_lt
  have hsize := shifted_two window.width
  have vsize := shifted_one window.height
  have hshared : (windowSet locals regs window regExhch).toNat =
      (windowSet locals regs window regHref).toNat &&& 0x07 := by
    rw [hlow.exhch, UInt8.toNat_and]
    rfl
  rw [href_eq_iff hlow.fielded]
  constructor
  · intro hencodes
    have hwidth := hencodes.width
    have hheight := hencodes.height
    have hsx := hencodes.sx
    have hsy := hencodes.sy
    rw [hwritten.hsize] at hwidth
    rw [hwritten.vsize] at hheight
    omega
  · rintro ⟨hsx, hsy, hfields⟩
    constructor
    · rw [hwritten.hsize]
      omega
    · rw [hwritten.vsize]
      omega
    · omega
    · omega
    · rw [hwritten.hOutSize, hshared]
      omega
    · rw [hwritten.vOutSize, hshared]
      omega

/-- The last window is encoded exactly if the earlier ones do not disturb it. -/
theorem lastWindow_encoded_iff {regs : Registers} (hinit : (ov7725Init sensor regs).1 = .success)
    (locals : Locals) (earlier : List Window) {window : Window} (hwindow : window.Admitted) :
    Encodes (runs (windowSet locals) (ov7725Init sensor regs).2 (earlier ++ [window])) window ↔
      Undisturbed earlier window := by
  have hprogrammed := init_programmed hinit
  generalize (ov7725Init sensor regs).2 = start at hprogrammed ⊢
  have hlow : LowBits start := hprogrammed.lowBits
  have hbounds := admitted_bounds hwindow
  have hhstart := @runs_hstart locals start (earlier ++ [window])
  have hvstrt := @runs_vstrt locals start (earlier ++ [window])
  have hhref := @runs_href_iff locals start (hrefBits window) earlier
  rw [List.map_append, List.sum_append, hprogrammed.hstart] at hhstart
  rw [List.map_append, List.sum_append, hprogrammed.vstrt] at hvstrt
  rw [hprogrammed.href, UInt8.zero_or, eq_self_iff_true, true_and] at hhref
  rw [runs_append] at hhstart hvstrt ⊢
  simp only [List.map_cons, List.map_nil, List.sum_singleton, runs_cons, runs_nil] at hhstart hvstrt ⊢
  rw [encodes_windowSet_iff (hlow.runs earlier) locals hwindow,
    (windowSet_written locals _ window).href, hhref, hhstart, hvstrt, Undisturbed,
    show UInt8.toNat 63 = 63 from rfl, show UInt8.toNat 3 = 3 from rfl]
  refine and_congr ?_ (and_congr_left' ?_)
  · omega
  · omega

/-- The whole frame, which the start-up sets, and its middle. -/
def frame : Window := ⟨0, 0, 320, 240, 0⟩
def middle : Window := ⟨80, 60, 160, 120, 0⟩

theorem lastWindow_encoded_middle :
    Encodes (runs (windowSet ⟨0, 0, 0⟩) (ov7725Init sensor fun _ => ov7725Id).2 ([frame] ++ [middle]))
      middle :=
  (lastWindow_encoded_iff (init_succeeds rfl) _ [frame] (by decide)).mpr (by decide)

/-- Back to the whole frame, the offsets of the middle stay. -/
theorem frame_afterMiddle :
    (ov7725Init sensor fun _ => ov7725Id).1 = .success ∧ middle.Admitted ∧ frame.Admitted ∧
      ¬Encodes (runs (windowSet ⟨0, 0, 0⟩) (ov7725Init sensor fun _ => ov7725Id).2 [middle, frame])
        frame := by
  have hinit : (ov7725Init sensor fun _ => ov7725Id).1 = .success := init_succeeds rfl
  refine ⟨hinit, by decide, by decide, fun hencodes => ?_⟩
  have hprogrammed := init_programmed hinit
  generalize (ov7725Init sensor fun _ => ov7725Id).2 = start at hprogrammed hencodes
  have hhstart := @runs_hstart ⟨0, 0, 0⟩ start [middle, frame]
  rw [hprogrammed.hstart] at hhstart
  have hmoved : (runs (windowSet ⟨0, 0, 0⟩) start [middle, frame] regHstart).toNat = 83 := hhstart
  have hsx : 4 * ((runs (windowSet ⟨0, 0, 0⟩) start [middle, frame] regHstart).toNat - 0x3f : ℤ) +
      ((runs (windowSet ⟨0, 0, 0⟩) start [middle, frame] regHref).toNat / 16 % 4 : ℕ) = 0 :=
    hencodes.sx
  omega

end WeatherStation.CameraSetup
