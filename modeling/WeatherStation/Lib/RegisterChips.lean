import Mathlib.Logic.Function.Basic
import WeatherStation.Lib.TwoWire

/-! Chips with registers on one two-wire bus.  The first byte after an address
selects a register; the bytes after it are stored from there on, and reading goes
on from there too. -/
namespace WeatherStation.Lib.TwoWire

/-- The registers at each address that a chip has. -/
abbrev Memory := UInt8 → Option (UInt8 → UInt8)

structure Chips where
  memory : Memory
  /-- The register that each chip has come to. -/
  pointer : UInt8 → UInt8
  current : UInt8
  selecting : Bool

/-- The bytes stored from a register on. -/
def store (regs : UInt8 → UInt8) : UInt8 → List UInt8 → UInt8 → UInt8
  | _, [] => regs
  | reg, data :: rest => store (Function.update regs reg data) (reg + 1) rest

/-- The contents from a register on. -/
def load (regs : UInt8 → UInt8) : UInt8 → ℕ → List UInt8
  | _, 0 => []
  | reg, n + 1 => regs reg :: load regs (reg + 1) n

@[simp] theorem length_load {regs : UInt8 → UInt8} {reg : UInt8} {n : ℕ} :
    (load regs reg n).length = n := by
  induction n generalizing reg with
  | zero => rfl
  | succ n ih => rw [load, List.length_cons, ih]

variable {regs : UInt8 → UInt8} {reg other : UInt8} {data : List UInt8}

theorem store_other (h : data.length ≤ (other - reg).toNat) :
    store regs reg data other = regs other := by
  induction data generalizing regs reg with
  | nil => rfl
  | cons byte data ih =>
    rw [List.length_cons, UInt8.toNat_sub] at h
    have hother := other.toNat_lt
    have hreg := reg.toNat_lt
    have hne : other ≠ reg := by
      rintro rfl
      omega
    have hnext : data.length ≤ (other - (reg + 1)).toNat := by
      rw [UInt8.toNat_sub, UInt8.toNat_add, UInt8.toNat_one]
      omega
    rw [store, ih hnext, Function.update_of_ne hne]

/-- What is stored is loaded again, unless it runs over itself. -/
theorem load_store (h : data.length ≤ 256) : load (store regs reg data) reg data.length = data := by
  induction data generalizing regs reg with
  | nil => rfl
  | cons byte data ih =>
    rw [List.length_cons] at h
    have hfirst : store (Function.update regs reg byte) (reg + 1) data reg = byte := by
      rw [store_other, Function.update_self]
      have hreg := reg.toNat_lt
      rw [UInt8.toNat_sub, UInt8.toNat_add, UInt8.toNat_one]
      omega
    rw [List.length_cons, load, store, hfirst, ih (by omega)]

namespace Chips

/-- The current chip goes on to the next register. -/
def advance (chips : Chips) : Chips :=
  { chips with
    pointer := Function.update chips.pointer chips.current (chips.pointer chips.current + 1) }

def write (byte : UInt8) (chips : Chips) : Chips :=
  if chips.selecting then
    { chips with
      pointer := Function.update chips.pointer chips.current byte
      selecting := false }
  else
    { chips with
      memory := Function.update chips.memory chips.current
        ((chips.memory chips.current).map fun regs =>
          Function.update regs (chips.pointer chips.current) byte) }.advance

def read (chips : Chips) : UInt8 :=
  ((chips.memory chips.current).map fun regs => regs (chips.pointer chips.current)).getD 0xFF

/-- The chip that has been addressed. -/
def select (chip : UInt8) (chips : Chips) : Chips :=
  { chips with current := chip, selecting := true }

/-- The chip has been told a register as well. -/
def atRegister (chip reg : UInt8) (chips : Chips) : Chips :=
  { chips with
    pointer := Function.update chips.pointer chip reg
    current := chip
    selecting := false }

/-- The upper seven bits of an address byte are the address. -/
def device : Device Chips where
  start := id
  stop := id
  address byte chips :=
    ((chips.memory (byte >>> 1)).isSome, chips.select (byte >>> 1))
  write byte chips := (true, chips.write byte)
  read := Chips.read
  answered _ := advance

variable {chips : Chips} {regs : UInt8 → UInt8} {data : List UInt8}

theorem foldl_write (hselecting : chips.selecting = false)
    (hregs : chips.memory chips.current = some regs) :
    (data.foldl (flip write) chips).memory = Function.update chips.memory chips.current
      (some (store regs (chips.pointer chips.current) data)) := by
  induction data generalizing chips regs with
  | nil => rw [List.foldl_nil, store, ← hregs, Function.update_eq_self]
  | cons byte data ih =>
    have hmemory : (chips.write byte).memory = Function.update chips.memory chips.current
        (some (Function.update regs (chips.pointer chips.current) byte)) := by
      rw [write, hselecting, if_neg Bool.false_ne_true, hregs]
      rfl
    have hcurrent : (chips.write byte).current = chips.current := by
      rw [write, hselecting, if_neg Bool.false_ne_true]
      rfl
    have hpointer : (chips.write byte).pointer chips.current = chips.pointer chips.current + 1 := by
      rw [write, hselecting, if_neg Bool.false_ne_true]
      exact Function.update_self ..
    have hselecting' : (chips.write byte).selecting = false := by
      rw [write, hselecting, if_neg Bool.false_ne_true]
      rfl
    rw [List.foldl_cons, flip, ih hselecting' (by rw [hcurrent, hmemory, Function.update_self]),
      hmemory, hcurrent, hpointer, Function.update_idem, store]

/-! ### On a line -/

variable {held : Bool} {byte : UInt8}

theorem send_address : Line.send device byte ⟨held, .hearing true, chips⟩ =
    ((chips.memory (byte >>> 1)).isSome, ⟨true,
      .afterHearing true byte (chips.memory (byte >>> 1)).isSome, chips.select (byte >>> 1)⟩) := by
  rw [Line.send]
  simp only [Device.exchange, Device.hear, if_true, device, Bool.true_and, Bool.not_not]

theorem peek_talking (hregs : chips.memory chips.current = some regs) :
    Line.peek device ⟨held, .talking, chips⟩ = regs (chips.pointer chips.current) := by
  rw [Line.peek]
  simp only [Device.exchange, device, read, hregs, Option.map_some, Option.getD_some, ff_and]

theorem answer_talking {ack : Bool} : Line.answer device ack ⟨held, .talking, chips⟩ =
    ⟨true, if ack then .talking else .silent, chips.advance⟩ := by
  cases ack <;> rfl

theorem foldl_select {chip reg : UInt8} :
    (reg :: data).foldl (flip write) (chips.select chip) =
      data.foldl (flip write) (chips.atRegister chip reg) := rfl

theorem memory_written {chip reg : UInt8} (hregs : chips.memory chip = some regs) :
    (data.foldl (flip write) (chips.atRegister chip reg)).memory =
      Function.update chips.memory chip (some (store regs reg data)) := by
  rw [foldl_write rfl hregs]
  simp only [atRegister, Function.update_self]

theorem advance_memory {n : ℕ} : (advance^[n] chips).memory = chips.memory := by
  induction n generalizing chips with
  | zero => rfl
  | succ n ih => rw [Function.iterate_succ_apply, ih]; rfl

end Chips
end WeatherStation.Lib.TwoWire
