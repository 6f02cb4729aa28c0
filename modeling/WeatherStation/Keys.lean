import WeatherStation.MainLoop

/-! The handlers bound to the two keys, and what the boot and the statements
of `mainFunc` do to them. -/
namespace WeatherStation
open Lib Gpio

def World.bound (w : World) (key : Key) : Option Handler := w.pins.fires key.line

/-- The key is enabled, and its slot is either free or in use. -/
structure KeyReady (pins : PinIrqTab Handler) (key : Key) : Prop where
  enabled : pins.enabled key.line = true
  free : (pins.slot key.line).pin = -1 ↔ (pins.slot key.line).hdr = none

def World.KeysReady (w : World) : Prop := ∀ key, KeyReady w.pins key

theorem KeyReady.fires {pins : PinIrqTab Handler} {key : Key} (h : KeyReady pins key) :
    pins.fires key.line = (pins.slot key.line).hdr := by
  unfold PinIrqTab.fires
  rw [if_pos h.enabled]

theorem KeyReady.congr {pins pins' : PinIrqTab Handler} {key : Key} (h : KeyReady pins key)
    (henabled : pins'.enabled key.line = pins.enabled key.line)
    (hslot : pins'.slot key.line = pins.slot key.line) : KeyReady pins' key :=
  ⟨henabled ▸ h.enabled, hslot ▸ h.free⟩

theorem fires_congr {pins pins' : PinIrqTab Handler} {key : Key}
    (henabled : pins'.enabled key.line = pins.enabled key.line)
    (hslot : pins'.slot key.line = pins.slot key.line) :
    pins'.fires key.line = pins.fires key.line := by
  unfold PinIrqTab.fires
  rw [henabled, hslot]

namespace World
variable {w : World} {key other : Key} {handler : Handler}

theorem KeysReady.detachIrq (h : w.KeysReady) : (w.detachIrq key).KeysReady := by
  intro other
  by_cases hother : other = key
  · subst hother
    have hpin := Key.irqIndex_pin other
    by_cases hfree : (w.pins.slot other.line).pin = -1
    · apply (h other).congr
      · exact congrFun detach_enabled _
      · simp only [World.detachIrq, rtPinDetachIrq, hpin, hfree, ↓reduceIte]
    · have hslot := detach_slot_same hpin hfree
      refine ⟨?_, ?_⟩
      · exact (congrFun detach_enabled _).trans (h other).enabled
      · simp only [World.detachIrq, hslot]
  · apply (h other).congr
    · exact congrFun detach_enabled _
    · exact detach_slot_other (Key.irqIndex_pin key) (Key.line_injective hother)

theorem bound_detachIrq (h : w.KeysReady) : (w.detachIrq key).bound key = none := by
  have hready : KeyReady (w.detachIrq key).pins key := h.detachIrq key
  have hpin := Key.irqIndex_pin key
  unfold World.bound
  rw [hready.fires, ← hready.free]
  by_cases hfree : (w.pins.slot key.line).pin = -1
  · simp only [World.detachIrq, rtPinDetachIrq, hpin, hfree, ↓reduceIte]
  · have hslot := detach_slot_same hpin hfree
    simp only [World.detachIrq, hslot]

theorem bound_detachIrq_other (hother : other ≠ key) :
    (w.detachIrq key).bound other = w.bound other := by
  apply fires_congr
  · exact congrFun detach_enabled _
  · exact detach_slot_other (Key.irqIndex_pin key) (Key.line_injective hother)

theorem attachIrq_slot (h : w.KeysReady) (hfree : w.bound key = none) :
    (w.attachIrq key handler).pins.slot key.line =
      ⟨key.pin, pinIrqModeRising, some handler⟩ := by
  have hready := h key
  unfold World.bound at hfree
  rw [hready.fires, ← hready.free] at hfree
  exact attach_slot_same (Key.irqIndex_pin key) hfree

theorem KeysReady.attachIrq (h : w.KeysReady) (hfree : w.bound key = none) :
    (w.attachIrq key handler).KeysReady := by
  intro other
  by_cases hother : other = key
  · subst hother
    refine ⟨?_, ?_⟩
    · exact (congrFun attach_enabled _).trans (h other).enabled
    · rw [attachIrq_slot h hfree]
      cases other <;> simp [Key.pin]
  · apply (h other).congr
    · exact congrFun attach_enabled _
    · exact attach_slot_other (Key.irqIndex_pin key) (Key.line_injective hother)

theorem bound_attachIrq (h : w.KeysReady) (hfree : w.bound key = none) :
    (w.attachIrq key handler).bound key = some handler := by
  have hready : KeyReady (w.attachIrq key handler).pins key := h.attachIrq hfree key
  unfold World.bound
  rw [hready.fires, attachIrq_slot h hfree]

theorem bound_attachIrq_other (hother : other ≠ key) :
    (w.attachIrq key handler).bound other = w.bound other := by
  apply fires_congr
  · exact congrFun attach_enabled _
  · exact attach_slot_other (Key.irqIndex_pin key) (Key.line_injective hother)

/-- The keys are enabled since the boot, so enabling them again does nothing. -/
theorem enableIrq_enabled (h : w.KeysReady) :
    (w.enableIrq key).pins.enabled = w.pins.enabled := by
  simp only [World.enableIrq, rtPinIrqEnable, Key.irqIndex_pin]
  split
  · rfl
  · exact Function.update_eq_self_iff.mpr (h key).enabled.symm

theorem KeysReady.enableIrq (h : w.KeysReady) : (w.enableIrq key).KeysReady := fun other =>
  (h other).congr (congrFun (enableIrq_enabled h) _) (congrFun enable_slot _)

theorem bound_enableIrq (h : w.KeysReady) : (w.enableIrq key).bound other = w.bound other :=
  fires_congr (congrFun (enableIrq_enabled h) _) (congrFun enable_slot _)

theorem press_pins (w : World) (key : Key) : (w.press key).pins = w.pins := by
  unfold World.press
  split <;> rfl

theorem press_ui (hbound : w.bound key = some handler) :
    (w.press key).ui = handler.call w.ui := by
  unfold World.press
  unfold World.bound at hbound
  rw [hbound]

theorem press_history (hbound : w.bound key = some handler) :
    (w.press key).history = [.irq handler] ++ w.history := by
  unfold World.press
  unfold World.bound at hbound
  rw [hbound]
  rfl

theorem press_none (hbound : w.bound key = none) : w.press key = w := by
  unfold World.press
  unfold World.bound at hbound
  rw [hbound]

end World

/-- The pages and the handlers that belong to them. -/
inductive Page where
  | menu | dispData | takePhoto | sdCard | settings | delay
  deriving DecidableEq, Repr

def Page.key1 : Page → Handler
  | menu => .key1IrqMenu
  | dispData => .key1IrqDispData
  | takePhoto => .key1IrqTakePhoto
  | sdCard => .key1IrqSdCard
  | settings => .key1IrqSettingSelect
  | delay => .key1IrqSettingDelaySelect

def Page.key2 : Page → Handler
  | menu => .key2IrqMenu
  | dispData => .key2IrqDispData
  | takePhoto => .key2IrqTakePhoto
  | sdCard => .key2IrqSdCard
  | settings => .key2IrqSettingSelect
  | delay => .key2IrqSettingDelaySelect

/-- The page that the page variables designate. -/
def Ui.page (u : Ui) : Option Page :=
  match u.currScene with
  | .menu => some .menu
  | .dispData => some .dispData
  | .takePhoto => some .takePhoto
  | .sdCard => some .sdCard
  | .settings =>
    match u.currSetting with
    | .no | .back => some .settings
    | .other _ => none
    | _ => some .delay
  | .other _ => none

/-- The pair of handlers that the boot binds stays until the first page. -/
def pageKey1 (page : Option Page) : Handler := page.elim .key1Change Page.key1

def pageKey2 (page : Option Page) : Handler := page.elim .key2Change Page.key2

def bootPins : PinIrqTab Handler := (keyEmbeddedInit (World.powerOn [])).pins

/-- A round that is repeated finds its handlers attached. -/
theorem keyEmbeddedInit_bootPins (w : World) (h : w.pins = bootPins) :
    (keyEmbeddedInit w).pins = bootPins := by
  have hslot : ∀ line, (keyEmbeddedInit { World.powerOn [] with pins := bootPins }).pins.slot line =
      bootPins.slot line := by decide +kernel
  have henabled : ∀ line,
      (keyEmbeddedInit { World.powerOn [] with pins := bootPins }).pins.enabled line =
        bootPins.enabled line := by decide +kernel
  have hpins : (keyEmbeddedInit w).pins =
      (keyEmbeddedInit { World.powerOn [] with pins := bootPins }).pins := by
    simp only [keyEmbeddedInit, World.attachIrq, World.enableIrq, h]
  rw [hpins]
  exact congrArg₂ PinIrqTab.mk (funext hslot) (funext henabled)

theorem keyEmbeddedInit_init (w : World) (h : w.pins = PinIrqTab.init Handler) :
    (keyEmbeddedInit w).pins = bootPins := by
  simp only [bootPins, keyEmbeddedInit, World.attachIrq, World.enableIrq, World.powerOn, h]

/-- During the boot the keys only set flags that nothing reads. -/
structure BootKeys (w : World) : Prop where
  ui : ∃ key1IsChanged key2IsChanged, w.ui = { Ui.init with key1IsChanged, key2IsChanged }
  pins : w.pins = PinIrqTab.init Handler ∨ w.pins = bootPins

theorem bound_bootPins {w : World} (h : w.pins = bootPins) (key : Key) :
    w.bound key = match key with
      | .key1 => some .key1Change
      | .key2 => some .key2Change := by
  unfold World.bound
  rw [h]
  cases key <;> decide +kernel

theorem BootKeys.press {w : World} (h : BootKeys w) (key : Key) : BootKeys (w.press key) := by
  obtain ⟨key1IsChanged, key2IsChanged, hui⟩ := h.ui
  refine ⟨?_, (World.press_pins w key).symm ▸ h.pins⟩
  rcases h.pins with hpins | hpins
  · have hnone : w.bound key = none := by
      unfold World.bound
      rw [hpins]
      rfl
    rw [World.press_none hnone]
    exact h.ui
  · cases key with
    | key1 =>
      rw [World.press_ui (bound_bootPins hpins .key1), hui]
      exact ⟨true, key2IsChanged, rfl⟩
    | key2 =>
      rw [World.press_ui (bound_bootPins hpins .key2), hui]
      exact ⟨key1IsChanged, true, rfl⟩

theorem BootKeys.round {w : World} (h : BootKeys w) (env : InitEnv) :
    BootKeys (mainFuncInit env w).2 ∧ (mainFuncInit env w).2.pins = bootPins := by
  obtain ⟨events, -, hround⟩ := mainFuncInit_quietly env w
  have hpins : (mainFuncInit env w).2.pins = bootPins := by
    rw [hround]
    rcases h.pins with hpins | hpins
    · exact keyEmbeddedInit_init w hpins
    · exact keyEmbeddedInit_bootPins w hpins
  exact ⟨⟨(mainFuncInit_ui env w).symm ▸ h.ui, .inr hpins⟩, hpins⟩

/-- The main loop begins on the menu with every change flag set. -/
theorem Booted.keys {w : World} (h : Booted w) :
    (∃ key1IsChanged key2IsChanged, w.ui = { Ui.init with key1IsChanged, key2IsChanged }) ∧
      w.pins = bootPins := by
  obtain ⟨dataCsv, inputs, env, -, -, rfl⟩ := h
  have hstep : ∀ w input, BootKeys w → BootKeys (bootStep w input) := by
    intro w input h
    cases input with
    | key key => exact h.press key
    | round env => exact (h.round env).1
  have hstart : BootKeys (World.powerOn dataCsv) := ⟨⟨false, false, rfl⟩, .inl rfl⟩
  have hround := (runs_induction hstep hstart inputs).round env
  obtain ⟨key1IsChanged, key2IsChanged, hui⟩ := hround.1.ui
  refine ⟨⟨key1IsChanged, key2IsChanged, ?_⟩, hround.2⟩
  unfold mainStart World.setUi
  rw [hui]
  rfl

theorem keysReady_bootPins {w : World} (h : w.pins = bootPins) : w.KeysReady := by
  intro key
  rw [h]
  cases key
  · exact ⟨by decide +kernel, by decide +kernel⟩
  · exact ⟨by decide +kernel, by decide +kernel⟩

end WeatherStation
