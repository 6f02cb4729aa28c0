import WeatherStation.Boot
import WeatherStation.Effects

/-! The device blocks of the boot loop: a round that repeats a successful
sensor init loses the block of the earlier one. -/
namespace WeatherStation
open Lib Gpio

structure OwnersSound (w : World) : Prop where
  hmc5883l : w.hmc5883l.Sound
  bme280 : w.bme280.Sound
  ltr390 : w.ltr390.Sound

theorem ownersSound_powerOn (dataCsv : List Char) : OwnersSound (World.powerOn dataCsv) :=
  ⟨Owner.sound_null, Owner.sound_null, Owner.sound_null⟩

theorem OwnersSound.press {w : World} (h : OwnersSound w) (key : Key) :
    OwnersSound (w.press key) := by
  have hpress := World.Harmless.press w key
  exact ⟨hpress.hmc5883l ▸ h.hmc5883l, hpress.bme280 ▸ h.bme280, hpress.ltr390 ▸ h.ltr390⟩

theorem OwnersSound.round {w : World} (h : OwnersSound w) (env : InitEnv) :
    OwnersSound (mainFuncInit env w).2 := by
  obtain ⟨events, -, hround⟩ := mainFuncInit_quietly env w
  rw [hround]
  exact ⟨h.hmc5883l.install _ _ _, h.bme280.install _ _ _, h.ltr390.install _ _ _⟩

theorem OwnersSound.bootStep {w : World} (h : OwnersSound w) (input : BootInput) :
    OwnersSound (bootStep w input) := by
  cases input with
  | key key => exact h.press key
  | round env => exact h.round env

def liveBlocks (w : World) : Nat :=
  w.hmc5883l.heap.liveCount + w.bme280.heap.liveCount + w.ltr390.heap.liveCount

def nonNullPointers (w : World) : Nat :=
  w.hmc5883l.pointer.isSome.toNat + w.bme280.pointer.isSome.toNat +
    w.ltr390.pointer.isSome.toNat

/-- What is expected of a boot step: no block is lost, and RT_EOK is the result
of a complete round only. -/
def RoundHonest (w : World) : BootInput → Prop
  | .key _ => True
  | .round env =>
    liveBlocks (mainFuncInit env w).2 = nonNullPointers (mainFuncInit env w).2 ∧
      ((mainFuncInit env w).1 = rtEok →
        ((mainFuncInit env w).2.hmc5883l.pointer.isSome ∧
          (mainFuncInit env w).2.bme280.pointer.isSome ∧
          (mainFuncInit env w).2.ltr390.pointer.isSome) ∧
        env.camera = rtEok ∧ sdcardInit env.dfsMount = rtEok)

/-- A round that finds all three pointers null has nothing to lose. -/
def NothingToLose (w : World) : BootInput → Prop
  | .key _ => True
  | .round _ => w.hmc5883l.pointer = none ∧ w.bme280.pointer = none ∧ w.ltr390.pointer = none

theorem liveBlocks_round {w : World} (h : OwnersSound w) (env : InitEnv) :
    liveBlocks (mainFuncInit env w).2 =
      liveBlocks w + nonNullPointers (mainFuncInit env w).2 := by
  obtain ⟨events, -, hround⟩ := mainFuncInit_quietly env w
  rw [hround]
  have hhmc5883l := Owner.install_liveCount h.hmc5883l.disciplined env.hmc5883l.allocates
    ⟨blankDevice, 0, ⟨0, 0, 0, 0⟩⟩ (hmc5883lMade env.hmc5883l)
  have hbme280 := Owner.install_liveCount h.bme280.disciplined env.bme280.allocates
    ⟨blankDevice, 0, {}⟩ (bme280Made env.bme280)
  have hltr390 := Owner.install_liveCount h.ltr390.disciplined env.ltr390.allocates
    ⟨blankDevice, 0⟩ (ltr390Made env.ltr390)
  simp only [liveBlocks, nonNullPointers, World.addEvents, bareInit, myHmc5883lInit, myBme280Init,
    myLtr390Init, Owner.install_pointer, hhmc5883l, hbme280, hltr390]
  omega

theorem nonNullPointers_eq_zero {w : World} :
    nonNullPointers w = 0 ↔
      w.hmc5883l.pointer = none ∧ w.bme280.pointer = none ∧ w.ltr390.pointer = none := by
  unfold nonNullPointers
  cases w.hmc5883l.pointer <;> cases w.bme280.pointer <;> cases w.ltr390.pointer <;> simp

theorem round_ok {w : World} {env : InitEnv} (h : (mainFuncInit env w).1 = rtEok) :
    ((mainFuncInit env w).2.hmc5883l.pointer.isSome ∧
      (mainFuncInit env w).2.bme280.pointer.isSome ∧
      (mainFuncInit env w).2.ltr390.pointer.isSome) ∧
    env.camera = rtEok ∧ sdcardInit env.dfsMount = rtEok := by
  obtain ⟨hpointers, hcamera, hmount⟩ := (mainFuncInit_ok env w).mp h
  exact ⟨hpointers, hcamera, if_pos hmount⟩

theorem roundHonest_iff {w : World} (hsound : OwnersSound w)
    (hcount : liveBlocks w = nonNullPointers w) (input : BootInput) :
    RoundHonest w input ↔ NothingToLose w input := by
  cases input with
  | key key => exact Iff.rfl
  | round env =>
    have hround := liveBlocks_round hsound env
    constructor
    · intro h
      have hafter := h.1
      apply nonNullPointers_eq_zero.mp
      omega
    · intro h
      have hnone := nonNullPointers_eq_zero.mpr h
      refine ⟨?_, round_ok⟩
      omega

theorem roundHonest_step {w : World} {input : BootInput}
    (hcount : liveBlocks w = nonNullPointers w) (h : RoundHonest w input) :
    liveBlocks (bootStep w input) = nonNullPointers (bootStep w input) := by
  cases input with
  | key key =>
    have hpress := World.Harmless.press w key
    unfold liveBlocks nonNullPointers bootStep
    rw [hpress.hmc5883l, hpress.bme280, hpress.ltr390]
    exact hcount
  | round env => exact h.1

/-- The boot keeps its blocks and its word in exactly the runs in which no
round is repeated after a sensor was there. -/
theorem bootRounds_honest_iff (dataCsv : List Char) (inputs : List BootInput) :
    Along bootStep RoundHonest (World.powerOn dataCsv) inputs ↔
      Along bootStep NothingToLose (World.powerOn dataCsv) inputs := by
  apply along_iff_along fun w => OwnersSound w ∧ liveBlocks w = nonNullPointers w
  · rintro w input ⟨hsound, hcount⟩
    exact roundHonest_iff hsound hcount input
  · rintro w input ⟨hsound, hcount⟩ hnothing
    have hhonest := (roundHonest_iff hsound hcount input).mpr hnothing
    exact ⟨hsound.bootStep input, roundHonest_step hcount hhonest⟩
  · exact ⟨ownersSound_powerOn dataCsv, rfl⟩

/-- Everything answers but the camera. -/
def roundWithoutCamera : InitEnv := { goodRound with camera := -rtError }

/-- The second round allocates three more blocks and forgets the first three. -/
theorem secondRound_leaks :
    ¬∀ (dataCsv : List Char) (inputs : List BootInput),
      Along bootStep BootInput.continues (World.powerOn dataCsv) inputs →
        Along bootStep RoundHonest (World.powerOn dataCsv) inputs := by
  intro h
  have hhonest := h [] [.round roundWithoutCamera, .round roundWithoutCamera]
    ⟨by decide +kernel, by decide +kernel, trivial⟩
  have hcount := hhonest.2.1.1
  revert hcount
  decide +kernel

end WeatherStation
