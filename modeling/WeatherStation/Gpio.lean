import Mathlib.Logic.Function.Basic
import Mathlib.Data.Fintype.Pi

/-! The pin-interrupt table of drv_gpio.c.  A key reaches its handler through
the table slot of its EXTI line; every operation on the table runs with
interrupts disabled and is therefore one step. -/
namespace WeatherStation.Gpio

abbrev RtErr := Int

def rtEok : RtErr := 0
def rtError : RtErr := 1
def rtEnosys : RtErr := 6
def rtEbusy : RtErr := 7

/-- EXTI lines, equally the positions in `pin_irq_hdr_tab`. -/
abbrev Line := Fin 16

/-- `pin_irq_hdr_tab` entry; `args` is left out, the application passes RT_NULL
everywhere. -/
structure PinIrqHdr (H : Type) where
  pin : Int
  mode : Nat
  hdr : Option H
  deriving DecidableEq

structure PinIrqTab (H : Type) where
  slot : Line → PinIrqHdr H
  /-- `pin_irq_enable_mask` with the NVIC line it stands for. -/
  enabled : Line → Bool

def PinIrqTab.init (H : Type) : PinIrqTab H :=
  ⟨fun _ => ⟨-1, 0, none⟩, fun _ => false⟩

/-- Ports A to G of the STM32F103VE, 16 pins each. -/
def pinCount : Nat := 112

def pinIrqModeRising : Nat := 0

/-- `get_pin` followed by `bit2bitno`: the pins of `pins[]` carry their bit
number in the low four bits of their index. -/
def irqIndex (pin : Nat) : Option Line :=
  if pin < pinCount then some ⟨pin % 16, Nat.mod_lt _ (by decide)⟩ else none

section
variable {H : Type}

def rtPinAttachIrq [DecidableEq H] (tab : PinIrqTab H) (pin mode : Nat) (hdr : H) : RtErr × PinIrqTab H :=
  match irqIndex pin with
  | none => (rtEnosys, tab)
  | some line =>
    if tab.slot line = ⟨pin, mode, some hdr⟩ then (rtEok, tab)
    else if (tab.slot line).pin ≠ -1 then (rtEbusy, tab)
    else (rtEok, { tab with slot := Function.update tab.slot line ⟨pin, mode, some hdr⟩ })

def rtPinDetachIrq (tab : PinIrqTab H) (pin : Nat) : RtErr × PinIrqTab H :=
  match irqIndex pin with
  | none => (rtEnosys, tab)
  | some line =>
    if (tab.slot line).pin = -1 then (rtEok, tab)
    else (rtEok, { tab with slot := Function.update tab.slot line ⟨-1, 0, none⟩ })

/-- `rt_pin_irq_enable` with PIN_IRQ_ENABLE; the pull and edge settings of the
port are left out. -/
def rtPinIrqEnable (tab : PinIrqTab H) (pin : Nat) : RtErr × PinIrqTab H :=
  match irqIndex pin with
  | none => (rtEnosys, tab)
  | some line =>
    if (tab.slot line).pin = -1 then (rtEnosys, tab)
    else (rtEok, { tab with enabled := Function.update tab.enabled line true })

/-- The handler that an edge on the line runs, if any: `pin_irq_hdr`. -/
def PinIrqTab.fires (tab : PinIrqTab H) (line : Line) : Option H :=
  if tab.enabled line then (tab.slot line).hdr else none

variable {tab : PinIrqTab H} {pin mode : Nat} {hdr : H} {line other : Line}

theorem detach_slot_same (hpin : irqIndex pin = some line)
    (hbound : (tab.slot line).pin ≠ -1) :
    (rtPinDetachIrq tab pin).2.slot line = ⟨-1, 0, none⟩ := by
  simp only [rtPinDetachIrq, hpin, hbound, ↓reduceIte, Function.update_self]

theorem detach_slot_other (hpin : irqIndex pin = some line) (hother : other ≠ line) :
    (rtPinDetachIrq tab pin).2.slot other = tab.slot other := by
  unfold rtPinDetachIrq
  rw [hpin]
  by_cases hfree : (tab.slot line).pin = -1
  · simp only [hfree, ↓reduceIte]
  · simp only [hfree, ↓reduceIte, Function.update_of_ne hother]

@[simp] theorem detach_enabled : (rtPinDetachIrq tab pin).2.enabled = tab.enabled := by
  unfold rtPinDetachIrq
  split
  · rfl
  · split <;> rfl

theorem attach_slot_same [DecidableEq H] (hpin : irqIndex pin = some line) (hfree : (tab.slot line).pin = -1) :
    (rtPinAttachIrq tab pin mode hdr).2.slot line = ⟨pin, mode, some hdr⟩ := by
  have hne : tab.slot line ≠ ⟨pin, mode, some hdr⟩ := by
    intro heq
    rw [heq] at hfree
    exact absurd hfree (by simp)
  simp only [rtPinAttachIrq, hpin, hne, hfree, ↓reduceIte, ne_eq, not_true_eq_false,
    Function.update_self]

theorem attach_slot_other [DecidableEq H] (hpin : irqIndex pin = some line) (hother : other ≠ line) :
    (rtPinAttachIrq tab pin mode hdr).2.slot other = tab.slot other := by
  unfold rtPinAttachIrq
  rw [hpin]
  by_cases heq : tab.slot line = ⟨pin, mode, some hdr⟩
  · simp only [heq, ↓reduceIte]
  · by_cases hbusy : (tab.slot line).pin = -1
    · simp only [heq, hbusy, ↓reduceIte, ne_eq, not_true_eq_false, Function.update_of_ne hother]
    · simp only [heq, hbusy, ↓reduceIte, ne_eq, not_false_eq_true]

@[simp] theorem attach_enabled [DecidableEq H] :
    (rtPinAttachIrq tab pin mode hdr).2.enabled = tab.enabled := by
  unfold rtPinAttachIrq
  split
  · rfl
  · split
    · rfl
    · split <;> rfl

@[simp] theorem enable_slot : (rtPinIrqEnable tab pin).2.slot = tab.slot := by
  unfold rtPinIrqEnable
  split
  · rfl
  · split <;> rfl

end
end WeatherStation.Gpio
