import WeatherStation.Gpio

/-! The page variables of main.c and the key handlers that write them.  The C
enumerations are integers, so a variable of such a type can hold a value that
is no enumerator; `other` stands for these and `default:` catches them. -/
namespace WeatherStation

inductive Scene where
  | menu | dispData | takePhoto | sdCard | settings
  | other (value : Nat)
  deriving DecidableEq, Repr

namespace Scene

def toNat : Scene → Nat
  | menu => 0
  | dispData => 1
  | takePhoto => 2
  | sdCard => 3
  | settings => 4
  | other value => value

def ofNat : Nat → Scene
  | 0 => menu
  | 1 => dispData
  | 2 => takePhoto
  | 3 => sdCard
  | 4 => settings
  | value => other value

end Scene

inductive SettingSelect where
  | no | hmc5883l | bme280 | ltr390 | gp2y1014au0f | lm386 | autoSave | back
  | other (value : Nat)
  deriving DecidableEq, Repr

namespace SettingSelect

def toNat : SettingSelect → Nat
  | no => 0
  | hmc5883l => 1
  | bme280 => 2
  | ltr390 => 3
  | gp2y1014au0f => 4
  | lm386 => 5
  | autoSave => 6
  | back => 7
  | other value => value

def ofNat : Nat → SettingSelect
  | 0 => no
  | 1 => hmc5883l
  | 2 => bme280
  | 3 => ltr390
  | 4 => gp2y1014au0f
  | 5 => lm386
  | 6 => autoSave
  | 7 => back
  | value => other value

end SettingSelect

inductive DelaySelect where
  | no | d0_5 | d1 | d2 | d5 | d10 | d60 | back
  | other (value : Nat)
  deriving DecidableEq, Repr

namespace DelaySelect

def toNat : DelaySelect → Nat
  | no => 0
  | d0_5 => 1
  | d1 => 2
  | d2 => 3
  | d5 => 4
  | d10 => 5
  | d60 => 6
  | back => 7
  | other value => value

def ofNat : Nat → DelaySelect
  | 0 => no
  | 1 => d0_5
  | 2 => d1
  | 3 => d2
  | 4 => d5
  | 5 => d10
  | 6 => d60
  | 7 => back
  | value => other value

end DelaySelect

/-- The globals that the key handlers and `mainFunc` share.
`takePhoto_isSuccess` and `isEjectSuccess` are never read or written. -/
structure Ui where
  key1IsChanged : Bool
  key2IsChanged : Bool
  currScene : Scene
  prevScene : Scene
  sceneIsChanged : Bool
  selectScene : Scene
  sceneSelectIsChanged : Bool
  isSavingData : Bool
  isEjecting : Bool
  currSetting : SettingSelect
  prevSetting : SettingSelect
  settingIsChanged : Bool
  selectSetting : SettingSelect
  settingSelectIsChanged : Bool
  currDelay : DelaySelect
  prevDelay : DelaySelect
  delayIsChanged : Bool
  selectDelay : DelaySelect
  delaySelectIsChanged : Bool
  deriving DecidableEq, Repr

/-- Static initialisers. -/
def Ui.init : Ui where
  key1IsChanged := false
  key2IsChanged := false
  currScene := .menu
  prevScene := .menu
  sceneIsChanged := true
  selectScene := .dispData
  sceneSelectIsChanged := false
  isSavingData := false
  isEjecting := false
  currSetting := .back
  prevSetting := .back
  settingIsChanged := true
  selectSetting := .hmc5883l
  settingSelectIsChanged := false
  currDelay := .back
  prevDelay := .back
  delayIsChanged := true
  selectDelay := .d0_5
  delaySelectIsChanged := false

inductive Key where
  | key1 | key2
  deriving DecidableEq, Repr

/-- `GET_PIN(A, 0)` and `GET_PIN(C, 13)`. -/
def Key.pin : Key → Nat
  | .key1 => 0
  | .key2 => 45

def Key.line : Key → Gpio.Line
  | .key1 => 0
  | .key2 => 13

@[simp] theorem Key.irqIndex_pin (key : Key) : Gpio.irqIndex key.pin = some key.line := by
  cases key <;> rfl

theorem Key.line_injective {key other : Key} (h : other ≠ key) : other.line ≠ key.line := by
  cases key <;> cases other <;> simp_all [Key.line]

/-- The functions bound to the keys over a run. -/
inductive Handler where
  | key1Change | key2Change
  | key1IrqMenu | key2IrqMenu
  | key1IrqDispData | key2IrqDispData
  | key1IrqTakePhoto | key2IrqTakePhoto
  | key1IrqSdCard | key2IrqSdCard
  | key1IrqSettingSelect | key2IrqSettingSelect
  | key1IrqSettingDelaySelect | key2IrqSettingDelaySelect
  deriving DecidableEq, Repr

namespace Ui
variable (u : Ui)

def key1Change : Ui := { u with key1IsChanged := true }

def key2Change : Ui := { u with key2IsChanged := true }

def key1IrqMenu : Ui :=
  let selected := Scene.ofNat ((u.selectScene.toNat + 1) % 5)
  { u with
    sceneSelectIsChanged := true
    selectScene := if selected = .menu then .dispData else selected }

def key2IrqMenu : Ui :=
  { u with sceneIsChanged := true, prevScene := u.currScene, currScene := u.selectScene }

/-- The common body of the KEY2 handlers of the three pages below the menu. -/
def returnToMenu : Ui :=
  { u with sceneIsChanged := true, prevScene := u.currScene, currScene := .menu }

def key1IrqDispData : Ui := { u with isSavingData := true }

def key2IrqDispData : Ui := returnToMenu u

def key1IrqTakePhoto : Ui := u

def key2IrqTakePhoto : Ui := returnToMenu u

def key1IrqSdCard : Ui := { u with isEjecting := true }

def key2IrqSdCard : Ui := returnToMenu u

def key1IrqSettingSelect : Ui :=
  let selected := SettingSelect.ofNat ((u.selectSetting.toNat + 1) % 8)
  { u with
    settingSelectIsChanged := true
    selectSetting := if selected = .no then .hmc5883l else selected }

def key2IrqSettingSelect : Ui :=
  { u with
    settingIsChanged := true
    prevSetting := u.currSetting
    currSetting := u.selectSetting }

def key1IrqSettingDelaySelect : Ui :=
  let selected := DelaySelect.ofNat ((u.selectDelay.toNat + 1) % 8)
  { u with
    delaySelectIsChanged := true
    selectDelay := if selected = .no then .d0_5 else selected }

def key2IrqSettingDelaySelect : Ui :=
  { u with delayIsChanged := true, prevDelay := u.currDelay, currDelay := u.selectDelay }

end Ui

def Handler.call (handler : Handler) (u : Ui) : Ui :=
  match handler with
  | .key1Change => u.key1Change
  | .key2Change => u.key2Change
  | .key1IrqMenu => u.key1IrqMenu
  | .key2IrqMenu => u.key2IrqMenu
  | .key1IrqDispData => u.key1IrqDispData
  | .key2IrqDispData => u.key2IrqDispData
  | .key1IrqTakePhoto => u.key1IrqTakePhoto
  | .key2IrqTakePhoto => u.key2IrqTakePhoto
  | .key1IrqSdCard => u.key1IrqSdCard
  | .key2IrqSdCard => u.key2IrqSdCard
  | .key1IrqSettingSelect => u.key1IrqSettingSelect
  | .key2IrqSettingSelect => u.key2IrqSettingSelect
  | .key1IrqSettingDelaySelect => u.key1IrqSettingDelaySelect
  | .key2IrqSettingDelaySelect => u.key2IrqSettingDelaySelect

end WeatherStation
