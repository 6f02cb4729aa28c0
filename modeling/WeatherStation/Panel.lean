import WeatherStation.Keys

/-! What one uninterrupted call of `mainFunc` does to the page variables and the
bound keys, whatever the sensors and the card do. -/
namespace WeatherStation
open Lib Gpio

/-- The page variables and the page whose handlers are bound, if any is. -/
structure Panel where
  ui : Ui
  bound : Option Page
  deriving DecidableEq

namespace Panel

/-- A statement or more that write page variables only. -/
def setUi (p : Panel) (update : Ui → Ui) : Panel := { p with ui := update p.ui }

/-- The entry action of a scene that binds its handlers. -/
def enter (p : Panel) (page : Page) : Panel :=
  ⟨{ p.ui with sceneIsChanged := false }, some page⟩

/-- Back to the settings page. -/
def returned (u : Ui) : Ui :=
  { u with
    prevSetting := u.currSetting
    currSetting := .no
    settingIsChanged := true
    currDelay := .back
    prevDelay := .back
    delayIsChanged := true
    selectDelay := .d0_5
    delaySelectIsChanged := false }

/-- Back to the menu. -/
def left (u : Ui) : Ui :=
  { u with
    prevScene := u.currScene
    currScene := .menu
    sceneIsChanged := true
    currSetting := .back
    prevSetting := .back
    settingIsChanged := true
    selectSetting := .hmc5883l
    settingSelectIsChanged := false
    currDelay := .back
    prevDelay := .back
    delayIsChanged := true
    selectDelay := .d0_5
    delaySelectIsChanged := false }

def menu (p : Panel) : Panel :=
  if p.ui.sceneIsChanged then p.enter .menu
  else if p.ui.sceneSelectIsChanged then p.setUi fun u => { u with sceneSelectIsChanged := false }
  else p

def dispData (p : Panel) : Panel :=
  if p.ui.sceneIsChanged then p.enter .dispData
  else if p.ui.isSavingData then p.setUi fun u => { u with isSavingData := false }
  else p

def takePhoto (p : Panel) : Panel := if p.ui.sceneIsChanged then p.enter .takePhoto else p

def sdCard (p : Panel) : Panel :=
  if p.ui.sceneIsChanged then p.enter .sdCard
  else if p.ui.isEjecting then p.setUi fun u => { u with isEjecting := false }
  else p

def delay (p : Panel) : Panel :=
  match p.ui.currDelay with
  | .no =>
    if p.ui.delayIsChanged then ⟨{ p.ui with delayIsChanged := false }, some .delay⟩
    else if p.ui.delaySelectIsChanged then p.setUi fun u => { u with delaySelectIsChanged := false }
    else p
  | .other _ => p
  | _ => p.setUi returned

def setting (p : Panel) : Panel :=
  match p.ui.currSetting with
  | .no =>
    if p.ui.settingIsChanged then ⟨{ p.ui with settingIsChanged := false }, some .settings⟩
    else if p.ui.settingSelectIsChanged then
      p.setUi fun u => { u with settingSelectIsChanged := false }
    else p
  | .back => p.setUi left
  | .other _ => p
  | _ =>
    if p.ui.settingIsChanged then
      p.setUi fun u => { u with
        settingIsChanged := false
        prevDelay := u.currDelay
        currDelay := .no
        delaySelectIsChanged := true }
    else p.delay

def settings (p : Panel) : Panel :=
  if p.ui.sceneIsChanged then
    p.setUi fun u => { u with
      sceneIsChanged := false
      prevSetting := u.currSetting
      currSetting := .no
      settingSelectIsChanged := true }
  else p.setting

/-- One call of `mainFunc`. -/
def call (p : Panel) : Panel :=
  match p.ui.currScene with
  | .menu => p.menu
  | .dispData => p.dispData
  | .takePhoto => p.takePhoto
  | .sdCard => p.sdCard
  | .settings => p.settings
  | .other _ => p

def press (p : Panel) : Key → Panel
  | .key1 => p.setUi (pageKey1 p.bound).call
  | .key2 => p.setUi (pageKey2 p.bound).call

end Panel

/-- The world shows a panel: its page variables are these, and the keys run the
handlers of this page. -/
structure World.Shows (w : World) (p : Panel) : Prop where
  ui : w.ui = p.ui
  ready : w.KeysReady
  key1 : w.bound .key1 = some (pageKey1 p.bound)
  key2 : w.bound .key2 = some (pageKey2 p.bound)

namespace World.Shows
variable {w w' : World} {p : Panel}

theorem congr (h : w.Shows p) (hui : w'.ui = w.ui) (hpins : w'.pins = w.pins) : w'.Shows p := by
  refine ⟨hui.trans h.ui, ?_, ?_, ?_⟩
  · intro key
    rw [hpins]
    exact h.ready key
  · rw [World.bound, hpins]
    exact h.key1
  · rw [World.bound, hpins]
    exact h.key2

theorem quietly (h : w.Shows p) (hw : w.Quietly w') : w'.Shows p := by
  obtain ⟨events, -, rfl⟩ := hw
  exact h.congr rfl rfl

theorem setUi (h : w.Shows p) (update : Ui → Ui) : (w.setUi update).Shows (p.setUi update) :=
  ⟨congrArg update h.ui, h.ready, h.key1, h.key2⟩

theorem record (h : w.Shows p) (event : Event) : (w.record event).Shows p := h.congr rfl rfl

theorem press (h : w.Shows p) (key : Key) : (w.press key).Shows (p.press key) := by
  have hpressed : ∀ handler : Handler, w.bound key = some handler →
      (w.press key).Shows (p.setUi handler.call) := by
    intro handler hbound
    have hset := h.setUi handler.call
    exact hset.congr (press_ui hbound) (press_pins w key)
  cases key with
  | key1 => exact hpressed _ h.key1
  | key2 => exact hpressed _ h.key2

theorem polls (h : w.Shows p) (env : PollEnv) : (polls env w).Shows p :=
  h.congr (polls_panel env w).1 (polls_panel env w).2

/-- The three statements that bind a key. -/
def rebind (key : Key) (handler : Handler) (w : World) : World :=
  ((w.detachIrq key).attachIrq key handler).enableIrq key

theorem rebind_ready (hw : w.KeysReady) (key : Key) (handler : Handler) :
    (rebind key handler w).KeysReady :=
  (hw.detachIrq.attachIrq (bound_detachIrq hw)).enableIrq

theorem rebind_bound (hw : w.KeysReady) (key : Key) (handler : Handler) :
    (rebind key handler w).bound key = some handler := by
  have hfree : (w.detachIrq key).bound key = none := bound_detachIrq hw
  rw [rebind, bound_enableIrq (hw.detachIrq.attachIrq hfree), bound_attachIrq hw.detachIrq hfree]

theorem rebind_other (hw : w.KeysReady) {key other : Key} (hother : other ≠ key)
    (handler : Handler) : (rebind key handler w).bound other = w.bound other := by
  have hfree : (w.detachIrq key).bound key = none := bound_detachIrq hw
  rw [rebind, bound_enableIrq (hw.detachIrq.attachIrq hfree), bound_attachIrq_other hother,
    bound_detachIrq_other hother]

theorem rebind_page (h : w.Shows p) (page : Page) :
    (rebind .key2 page.key2 (rebind .key1 page.key1 w)).Shows { p with bound := some page } := by
  have hready := rebind_ready h.ready .key1 page.key1
  refine ⟨h.ui, rebind_ready hready _ _, ?_, rebind_bound hready _ _⟩
  rw [rebind_other hready (by decide), rebind_bound h.ready]
  rfl

end World.Shows

/-- The uninterrupted program takes the panel to another one. -/
def Takes {α : Type} (program : Prog α) (p p' : Panel) : Prop :=
  ∀ w : World, w.Shows p → (program.exec w).Shows p'

namespace Takes
variable {α β : Type} {p p' p'' : Panel}

theorem bind {program : Prog α} {rest : α → Prog β} (hprogram : Takes program p p')
    (hrest : ∀ a, Takes (rest a) p' p'') : Takes (program >>= rest) p p'' := by
  intro w hw
  rw [Program.exec, Program.run_bind]
  exact hrest _ _ (hprogram w hw)

theorem pure (a : α) : Takes (Pure.pure a) p p := fun _ hw => hw

theorem setUi (update : Ui → Ui) : Takes (setUi update) p (p.setUi update) :=
  fun _ hw => hw.setUi update

theorem setUiAt (label : Stmt) (update : Ui → Ui) :
    Takes (setUiAt label update) p (p.setUi update) := fun _ hw => hw.setUi update

theorem draw {task : World → World} (htask : ∀ w : World, w.Quietly (task w)) :
    Takes (draw task) p p := fun w hw => hw.quietly (htask w)

theorem draws {task : World → World} (htask : ∀ w : World, w.Draws (task w)) :
    Takes (WeatherStation.draw task) p p := draw fun w => (htask w).quietly

theorem assignAt {label : Stmt} {update : World → World}
    (hupdate : ∀ w : World, w.Shows p → (update w).Shows p') :
    Takes (Program.assignAt label update) p p' := hupdate

theorem read (read : World → α) : Takes (Program.read read) p p := fun _ hw => hw

theorem readUi {read : Ui → α} {rest : α → Prog β} (hrest : Takes (rest (read p.ui)) p p') :
    Takes (readUi read >>= rest) p p' := by
  intro w hw
  rw [Program.exec, Program.run_bind]
  have hread : (WeatherStation.readUi read).run w = (read p.ui, w) := by
    rw [← hw.ui]
    rfl
  rw [hread]
  exact hrest w hw

theorem ite {c : Prop} [Decidable c] {left right : Prog α} {l r : Panel}
    (hleft : c → Takes left p l) (hright : ¬c → Takes right p r) :
    Takes (if c then left else right) p (if c then l else r) := by
  split
  · exact hleft ‹_›
  · exact hright ‹_›

theorem rebind (page : Page) {rest : Prog α} (hrest : Takes rest { p with bound := some page } p') :
    Takes (do
      rebindKey1 page.key1
      rebindKey2 page.key2
      rest) p p' := fun _ hw => hrest _ (hw.rebind_page page)

theorem enter (scene : Scene) (page : Page) {rest : Prog α} (hrest : Takes rest (p.enter page) p') :
    Takes (do
      clearSceneIsChanged scene
      rebindKey1 page.key1
      rebindKey2 page.key2
      rest) p p' := by
  intro w hw
  have hclear := hw.setUi fun u => { u with sceneIsChanged := false }
  exact rebind page hrest _ (hclear.record (.call (.enter scene)))

end Takes

theorem sceneMenu_takes (p : Panel) : Takes sceneMenu p p.menu := by
  apply Takes.readUi
  apply Takes.ite
  · exact fun _ => .enter .menu .menu (.bind (.draws menuTask_draws) fun _ => .pure _)
  · intro _
    apply Takes.readUi
    apply Takes.ite
    · exact fun _ => .bind (.setUi _) fun _ => .bind (.draws menuUpdateSelect_draws) fun _ => .pure _
    · exact fun _ => .pure _

theorem sceneTakePhoto_takes (p : Panel) : Takes sceneTakePhoto p p.takePhoto := by
  apply Takes.readUi
  apply Takes.ite
  · exact fun _ => .enter .takePhoto .takePhoto (.pure _)
  · exact fun _ => .bind (.draws takePhotoTask_draws) fun _ => .pure _

theorem dispDataTask_takes (tick : UInt32) (p : Panel) : Takes (draw (dispDataTask tick)) p p := by
  intro w hw
  have hframe := hw.quietly (dispDataFrame_draws w).quietly
  have htimer : ((w.lcd dispDataFrame).setTimer .dispData (·.sample tick)).Shows p :=
    hframe.congr rfl rfl
  exact htimer.quietly (dispDataUpdateData_quietly _)

theorem dispDataPoll_takes (tick : UInt32) (p : Panel) : Takes (dispDataPoll tick) p p := by
  have htimer : ∀ (update : Timer → Timer) (w : World), w.Shows p →
      (w.setTimer .dispData update).Shows p := fun _ _ hw => hw.congr rfl rfl
  apply Takes.bind (.assignAt (htimer _))
  intro _
  apply Takes.bind (.read _)
  intro due
  cases due with
  | false => exact .pure _
  | true =>
    exact .bind (.assignAt (htimer _)) fun _ => .draw dispDataUpdateData_quietly

theorem World.Shows.save {w : World} {p : Panel} (h : w.Shows p) (env : SaveEnv) (manual : Bool) :
    (sdcardSaveCurrData env (w.record (.call (.sdcardSaveCurrData manual)))).Shows p := by
  rw [sdcardSaveCurrData_eq]
  exact h.congr rfl rfl

theorem World.Shows.eject {w : World} {p : Panel} (h : w.Shows p) (dfsUnmount : Int) :
    (sdCardEject dfsUnmount (w.record (.call .sdCardEject))).Shows p := by
  rw [sdCardEject_eq]
  exact h.congr rfl rfl

theorem dispDataSave_takes (env : SaveEnv) (p : Panel) :
    Takes (dispDataSave env) p
      (if p.ui.isSavingData then p.setUi fun u => { u with isSavingData := false } else p) := by
  apply Takes.readUi
  apply Takes.ite
  · exact fun _ => .bind (.setUi _) fun _ => .assignAt fun _ hw => hw.save env true
  · exact fun _ => .pure _

theorem sdCardConfirm_takes (dfsUnmount : Int) (p : Panel) :
    Takes (sdCardConfirm dfsUnmount) p
      (if p.ui.isEjecting then p.setUi fun u => { u with isEjecting := false } else p) := by
  apply Takes.readUi
  apply Takes.ite
  · exact fun _ => .bind (.setUi _) fun _ => .assignAt fun _ hw => hw.eject dfsUnmount
  · exact fun _ => .pure _

theorem sceneDispData_takes (env : FuncEnv) (p : Panel) :
    Takes (sceneDispData env) p p.dispData := by
  apply Takes.readUi
  apply Takes.ite
  · exact fun _ => .enter .dispData .dispData (.bind (dispDataTask_takes _ _) fun _ => .pure _)
  · exact fun _ => .bind (dispDataPoll_takes _ _) fun _ =>
      .bind (dispDataSave_takes _ _) fun _ => .pure _

theorem sceneSdCard_takes (env : FuncEnv) (p : Panel) : Takes (sceneSdCard env) p p.sdCard := by
  apply Takes.readUi
  apply Takes.ite
  · exact fun _ => .enter .sdCard .sdCard (.bind (.draws sdCardTask_draws) fun _ => .pure _)
  · exact fun _ => .bind (sdCardConfirm_takes _ _) fun _ => .pure _

theorem returnToSettings_exec (w : World) :
    returnToSettings.exec w = w.setUi Panel.returned := by
  simp only [returnToSettings, resetDelay, setUi, setUiAt, Program.exec, Program.run_bind,
    Program.run_assign, Program.run_assignAt, World.setUi, Panel.returned]

theorem leaveSettings_exec (w : World) : leaveSettings.exec w = w.setUi Panel.left := by
  simp only [leaveSettings, resetDelay, setUi, setUiAt, Program.exec, Program.run_bind,
    Program.run_assign, Program.run_assignAt, World.setUi, Panel.left]

theorem returnToSettings_takes (p : Panel) :
    Takes returnToSettings p (p.setUi Panel.returned) := by
  intro w hw
  rw [returnToSettings_exec]
  exact hw.setUi Panel.returned

theorem leaveSettings_takes (p : Panel) : Takes leaveSettings p (p.setUi Panel.left) := by
  intro w hw
  rw [leaveSettings_exec]
  exact hw.setUi Panel.left

theorem configDelay_takes (p : Panel) : Takes configDelay p (p.setUi Panel.returned) := by
  intro w hw
  apply returnToSettings_takes
  exact hw.congr rfl rfl

theorem enterSettingDelay_takes (p : Panel) : Takes enterSettingDelay p p.delay := by
  apply Takes.readUi
  unfold Panel.delay
  cases p.ui.currDelay with
  | no =>
    apply Takes.readUi
    apply Takes.ite
    · exact fun _ => .bind (.setUiAt _ _) fun _ =>
        .rebind .delay (.bind (.draws settingsDelayTask_draws) fun _ => .pure _)
    · intro _
      apply Takes.readUi
      apply Takes.ite
      · exact fun _ => .bind (.setUi _) fun _ =>
          .bind (.draws settingsDelayUpdateSelect_draws) fun _ => .pure _
      · exact fun _ => .pure _
  | back => exact .bind (returnToSettings_takes _) fun _ => .pure _
  | other value => exact .pure _
  | _ => exact .bind (configDelay_takes _) fun _ => .pure _

theorem enterSetting_takes (p : Panel) : Takes enterSetting p p.setting := by
  apply Takes.readUi
  unfold Panel.setting
  cases p.ui.currSetting with
  | no =>
    apply Takes.readUi
    apply Takes.ite
    · exact fun _ => .bind (.setUiAt _ _) fun _ =>
        .rebind .settings (.bind (.draws settingsTask_draws) fun _ => .pure _)
    · intro _
      apply Takes.readUi
      apply Takes.ite
      · exact fun _ => .bind (.setUi _) fun _ =>
          .bind (.draws settingsUpdateSelect_draws) fun _ => .pure _
      · exact fun _ => .pure _
  | back => exact .bind (leaveSettings_takes _) fun _ => .pure _
  | other value => exact .pure _
  | _ =>
    apply Takes.readUi
    apply Takes.ite
    · exact fun _ => .bind (.setUiAt _ _) fun _ => .bind (.setUi _) fun _ =>
        .bind (.setUiAt _ _) fun _ => .bind (.setUi _) fun _ => .pure _
    · exact fun _ => .bind (enterSettingDelay_takes _) fun _ => .pure _

theorem sceneSettings_takes (p : Panel) : Takes sceneSettings p p.settings := by
  apply Takes.readUi
  apply Takes.ite
  · have hclear : ∀ w : World, w.Shows p →
        ((w.setUi fun u => { u with sceneIsChanged := false }).record
          (.call (.enter .settings))).Shows (p.setUi fun u => { u with sceneIsChanged := false }) :=
      fun _ hw => (hw.setUi _).record _
    exact fun _ => .bind (.assignAt hclear) fun _ => .bind (.setUi _) fun _ =>
      .bind (.setUiAt _ _) fun _ => .bind (.setUi _) fun _ => .pure _
  · exact fun _ => .bind (enterSetting_takes _) fun _ => .pure _

/-- An uninterrupted call of `mainFunc` is one call of the panel. -/
theorem mainFunc_takes (env : FuncEnv) (p : Panel) : Takes (mainFunc env) p p.call := by
  apply Takes.readUi
  unfold Panel.call
  cases p.ui.currScene with
  | menu => exact sceneMenu_takes p
  | dispData => exact sceneDispData_takes env p
  | takePhoto => exact sceneTakePhoto_takes p
  | sdCard => exact sceneSdCard_takes env p
  | settings => exact sceneSettings_takes p
  | other value => exact .pure _

/-- Whatever state it starts in, the uninterrupted program returns this. -/
def Returns {α : Type} (program : Prog α) (a : α) : Prop := ∀ w : World, (program.run w).1 = a

namespace Returns
variable {α β : Type} {a : α}

theorem bind {program : Prog β} {rest : β → Prog α} (hrest : ∀ b, Returns (rest b) a) :
    Returns (program >>= rest) a := by
  intro w
  rw [Program.run_bind]
  exact hrest _ _

theorem pure (a : α) : Returns (Pure.pure a) a := fun _ => rfl

theorem ite {c : Prop} [Decidable c] {left right : Prog α} (hleft : Returns left a)
    (hright : Returns right a) : Returns (if c then left else right) a := by
  split
  · exact hleft
  · exact hright

theorem readUi {read : Ui → β} {rest : β → Prog α} {w : World}
    (hrest : Returns (rest (read w.ui)) a) : ((WeatherStation.readUi read >>= rest).run w).1 = a := by
  rw [Program.run_bind]
  exact hrest w

end Returns

theorem sceneMenu_returns : Returns sceneMenu rtEok :=
  .bind fun _ => .ite (.bind fun _ => .bind fun _ => .bind fun _ => .bind fun _ => .pure _)
    (.bind fun _ => .ite (.bind fun _ => .bind fun _ => .pure _) (.pure _))

theorem sceneDispData_returns (env : FuncEnv) : Returns (sceneDispData env) rtEok :=
  .bind fun _ => .ite (.bind fun _ => .bind fun _ => .bind fun _ => .bind fun _ => .pure _)
    (.bind fun _ => .bind fun _ => .pure _)

theorem sceneTakePhoto_returns : Returns sceneTakePhoto rtEok :=
  .bind fun _ => .ite (.bind fun _ => .bind fun _ => .bind fun _ => .pure _)
    (.bind fun _ => .pure _)

theorem sceneSdCard_returns (env : FuncEnv) : Returns (sceneSdCard env) rtEok :=
  .bind fun _ => .ite (.bind fun _ => .bind fun _ => .bind fun _ => .bind fun _ => .pure _)
    (.bind fun _ => .pure _)

/-- The result of `enter_SETTING` is dropped. -/
theorem sceneSettings_returns : Returns sceneSettings rtEok :=
  .bind fun _ => .ite (.bind fun _ => .bind fun _ => .bind fun _ => .bind fun _ => .pure _)
    (.bind fun _ => .pure _)

theorem mainFunc_returns (env : FuncEnv) {w : World}
    (h : ∀ value, w.ui.currScene ≠ .other value) : ((mainFunc env).run w).1 = rtEok := by
  apply Returns.readUi
  cases hscene : w.ui.currScene with
  | menu => exact sceneMenu_returns
  | dispData => exact sceneDispData_returns env
  | takePhoto => exact sceneTakePhoto_returns
  | sdCard => exact sceneSdCard_returns env
  | settings => exact sceneSettings_returns
  | other value => exact absurd hscene (h value)

theorem enterSetting_returns {w : World} (h : ∀ value, w.ui.currSetting ≠ .other value) :
    (enterSetting.run w).1 = rtEok := by
  apply Returns.readUi
  cases hsetting : w.ui.currSetting with
  | no =>
    exact .bind fun _ => .ite
      (.bind fun _ => .bind fun _ => .bind fun _ => .bind fun _ => .pure _)
      (.bind fun _ => .ite (.bind fun _ => .bind fun _ => .pure _) (.pure _))
  | back => exact .bind fun _ => .pure _
  | other value => exact absurd hsetting (h value)
  | _ =>
    exact .bind fun _ => .ite
      (.bind fun _ => .bind fun _ => .bind fun _ => .bind fun _ => .pure _)
      (.bind fun _ => .pure _)

end WeatherStation
