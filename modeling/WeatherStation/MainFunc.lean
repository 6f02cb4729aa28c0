import WeatherStation.Lib.Interference
import WeatherStation.Scenes

/-! `mainFunc` of main.c with `enter_SETTING`, `enter_SETTING_DELAY` and
`config_delay`, statement by statement: a key interrupt can come between any
two of them. -/
namespace WeatherStation
open Lib Gpio Display

/-- The statements that results speak of; all others are `plain`. -/
inductive Stmt where
  | plain
  /-- `scene_isChanged = RT_FALSE` in the case of a scene. -/
  | clearSceneIsChanged (scene : Scene)
  /-- `setting_isChanged = RT_FALSE` in the case of a setting. -/
  | clearSettingIsChanged (setting : SettingSelect)
  /-- `delay_isChanged = RT_FALSE` in the case of DELAY_NO. -/
  | clearDelayIsChanged
  /-- `currSetting = SETTING_NO` when SCENE_SETTINGS is entered. -/
  | prepareSettings
  /-- `currDelay = DELAY_NO` when a peripheral is entered. -/
  | prepareDelay
  /-- `currScene = SCENE_MENU` in the case of SETTING_BACK. -/
  | leaveSettings
  /-- `currSetting = SETTING_NO` on the way back from a delay page. -/
  | leaveDelay
  /-- `rt_pin_detach_irq(KEY2_EMBEDDED)` before this handler is attached. -/
  | detachKey2 (handler : Handler)
  /-- `if (isSavingData == RT_TRUE)`. -/
  | testIsSavingData
  /-- The first statement of `config_delay`. -/
  | configDelay
  | saveCurrData (env : SaveEnv)
  | eject (dfsUnmount : Int)
  deriving DecidableEq

instance : Inhabited Stmt := ⟨.plain⟩

abbrev Prog := Program Stmt World

/-- What one call of `mainFunc` gets from its surroundings; it uses at most
one of these. -/
structure FuncEnv where
  dispDataTick : UInt32
  save : SaveEnv
  dfsUnmount : Int

def World.detachIrq (key : Key) (w : World) : World :=
  { w with pins := (rtPinDetachIrq w.pins key.pin).2 }

def World.attachIrq (key : Key) (handler : Handler) (w : World) : World :=
  { w with pins := (rtPinAttachIrq w.pins key.pin pinIrqModeRising handler).2 }

def World.enableIrq (key : Key) (w : World) : World :=
  { w with pins := (rtPinIrqEnable w.pins key.pin).2 }

def readUi {α : Type} (read : Ui → α) : Prog α := Program.read fun w => read w.ui

def setUi (update : Ui → Ui) : Prog Unit := Program.assign fun w => w.setUi update

def setUiAt (label : Stmt) (update : Ui → Ui) : Prog Unit :=
  Program.assignAt label fun w => w.setUi update

def draw (task : World → World) : Prog Unit := Program.assign task

def rebindKey1 (handler : Handler) : Prog Unit := do
  Program.assign (World.detachIrq .key1)
  Program.assign (World.attachIrq .key1 handler)
  Program.assign (World.enableIrq .key1)

def rebindKey2 (handler : Handler) : Prog Unit := do
  Program.assignAt (.detachKey2 handler) (World.detachIrq .key2)
  Program.assign (World.attachIrq .key2 handler)
  Program.assign (World.enableIrq .key2)

/-- The common start of the five scenes when `scene_isChanged` is set. -/
def clearSceneIsChanged (scene : Scene) : Prog Unit :=
  Program.assignAt (.clearSceneIsChanged scene) fun w =>
    (w.setUi fun u => { u with sceneIsChanged := false }).record (.call (.enter scene))

def sceneMenu : Prog RtErr := do
  if ← readUi (·.sceneIsChanged) then
    clearSceneIsChanged .menu
    rebindKey1 .key1IrqMenu
    rebindKey2 .key2IrqMenu
    draw menuTask
    return rtEok
  else if ← readUi (·.sceneSelectIsChanged) then
    setUi fun u => { u with sceneSelectIsChanged := false }
    draw menuUpdateSelect
    return rtEok
  else return rtEok

/-- The periodic update of the page DISP_DATA. -/
def dispDataPoll (tick : UInt32) : Prog Unit := do
  Program.assign fun w => w.setTimer .dispData (·.sample tick)
  if ← Program.read fun w => (w.timers .dispData).due tick then
    Program.assign fun w => w.setTimer .dispData (·.restart tick)
    draw dispDataUpdateData

/-- The save that KEY1 requests on the page DISP_DATA. -/
def dispDataSave (env : SaveEnv) : Prog Unit := do
  if ← Program.readAt .testIsSavingData fun w => w.ui.isSavingData then
    setUi fun u => { u with isSavingData := false }
    Program.assignAt (.saveCurrData env) fun w =>
      sdcardSaveCurrData env (w.record (.call (.sdcardSaveCurrData true)))

def sceneDispData (env : FuncEnv) : Prog RtErr := do
  if ← readUi (·.sceneIsChanged) then
    clearSceneIsChanged .dispData
    rebindKey1 .key1IrqDispData
    rebindKey2 .key2IrqDispData
    draw (dispDataTask env.dispDataTick)
    return rtEok
  else
    dispDataPoll env.dispDataTick
    dispDataSave env.save
    return rtEok

def sceneTakePhoto : Prog RtErr := do
  if ← readUi (·.sceneIsChanged) then
    clearSceneIsChanged .takePhoto
    rebindKey1 .key1IrqTakePhoto
    rebindKey2 .key2IrqTakePhoto
    return rtEok
  else
    draw takePhotoTask
    return rtEok

/-- The eject that KEY1 requests on the page SD_CARD. -/
def sdCardConfirm (dfsUnmount : Int) : Prog Unit := do
  if ← readUi (·.isEjecting) then
    setUi fun u => { u with isEjecting := false }
    Program.assignAt (.eject dfsUnmount) fun w =>
      sdCardEject dfsUnmount (w.record (.call .sdCardEject))

def sceneSdCard (env : FuncEnv) : Prog RtErr := do
  if ← readUi (·.sceneIsChanged) then
    clearSceneIsChanged .sdCard
    rebindKey1 .key1IrqSdCard
    rebindKey2 .key2IrqSdCard
    draw sdCardTask
    return rtEok
  else
    sdCardConfirm env.dfsUnmount
    return rtEok

def resetDelay : Prog Unit := do
  setUi fun u => { u with currDelay := .back }
  setUi fun u => { u with prevDelay := .back }
  setUi fun u => { u with delayIsChanged := true }
  setUi fun u => { u with selectDelay := .d0_5 }
  setUi fun u => { u with delaySelectIsChanged := false }

/-- Back to the settings page, from `config_delay` and from DELAY_BACK. -/
def returnToSettings : Prog Unit := do
  setUi fun u => { u with prevSetting := u.currSetting }
  setUiAt .leaveDelay fun u => { u with currSetting := .no }
  setUi fun u => { u with settingIsChanged := true }
  resetDelay

/-- No period is assigned. -/
def configDelay : Prog Unit := do
  Program.assignAt .configDelay fun w =>
    (w.record (.call (.configDelay w.ui.currSetting w.ui.currDelay))).lcd [.setTextColor .green]
  draw fun w => w.lcd [.dispStringLine 12 " Delay for this peripheral is changed!"]
  returnToSettings

/-- After `config_delay` the function ends without a return value. -/
def enterSettingDelay : Prog (Option RtErr) := do
  match ← readUi (·.currDelay) with
  | .no =>
    if ← readUi (·.delayIsChanged) then
      setUiAt .clearDelayIsChanged fun u => { u with delayIsChanged := false }
      rebindKey1 .key1IrqSettingDelaySelect
      rebindKey2 .key2IrqSettingDelaySelect
      draw settingsDelayTask
      return some rtEok
    else if ← readUi (·.delaySelectIsChanged) then
      setUi fun u => { u with delaySelectIsChanged := false }
      draw settingsDelayUpdateSelect
      return some rtEok
    else return some rtEok
  | .d0_5 | .d1 | .d2 | .d5 | .d10 | .d60 =>
    configDelay
    return none
  | .back =>
    returnToSettings
    return some rtEok
  | .other _ => return some (-rtError)

/-- Back to the menu, from SETTING_BACK. -/
def leaveSettings : Prog Unit := do
  setUi fun u => { u with prevScene := u.currScene }
  setUiAt .leaveSettings fun u => { u with currScene := .menu }
  setUi fun u => { u with sceneIsChanged := true }
  setUi fun u => { u with currSetting := .back }
  setUi fun u => { u with prevSetting := .back }
  setUi fun u => { u with settingIsChanged := true }
  setUi fun u => { u with selectSetting := .hmc5883l }
  setUi fun u => { u with settingSelectIsChanged := false }
  resetDelay

def enterSetting : Prog RtErr := do
  let setting ← readUi (·.currSetting)
  match setting with
  | .no =>
    if ← readUi (·.settingIsChanged) then
      setUiAt (.clearSettingIsChanged .no) fun u => { u with settingIsChanged := false }
      rebindKey1 .key1IrqSettingSelect
      rebindKey2 .key2IrqSettingSelect
      draw settingsTask
      return rtEok
    else if ← readUi (·.settingSelectIsChanged) then
      setUi fun u => { u with settingSelectIsChanged := false }
      draw settingsUpdateSelect
      return rtEok
    else return rtEok
  | .hmc5883l | .bme280 | .ltr390 | .gp2y1014au0f | .lm386 | .autoSave =>
    if ← readUi (·.settingIsChanged) then
      setUiAt (.clearSettingIsChanged setting) fun u => { u with settingIsChanged := false }
      setUi fun u => { u with prevDelay := u.currDelay }
      setUiAt .prepareDelay fun u => { u with currDelay := .no }
      setUi fun u => { u with delaySelectIsChanged := true }
      return rtEok
    else
      let _ ← enterSettingDelay
      return rtEok
  | .back =>
    leaveSettings
    return rtEok
  | .other _ => return -rtError

def sceneSettings : Prog RtErr := do
  if ← readUi (·.sceneIsChanged) then
    clearSceneIsChanged .settings
    setUi fun u => { u with prevSetting := u.currSetting }
    setUiAt .prepareSettings fun u => { u with currSetting := .no }
    setUi fun u => { u with settingSelectIsChanged := true }
    return rtEok
  else
    let _ ← enterSetting
    return rtEok

def mainFunc (env : FuncEnv) : Prog RtErr := do
  match ← readUi (·.currScene) with
  | .menu => sceneMenu
  | .dispData => sceneDispData env
  | .takePhoto => sceneTakePhoto
  | .sdCard => sceneSdCard env
  | .settings => sceneSettings
  | .other _ => return -rtError

end WeatherStation
