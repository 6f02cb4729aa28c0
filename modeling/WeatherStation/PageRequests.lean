import WeatherStation.Keys

/-! The page changes that KEY2 requests.  The entry actions test a page variable
and clear its flag in separate statements, so a press in between can be consumed
by the action of another page. -/
namespace WeatherStation
open Lib Gpio

/-- The condition on the statements: an entry action clears a flag only while
the page variable has the value of its case, and resets the variable of an inner
page only while nothing was selected on that page. -/
def EntersOwnPage (label : Stmt) (w : World) : Prop :=
  match label with
  | .clearSceneIsChanged scene => w.ui.currScene = scene
  | .clearSettingIsChanged setting => w.ui.currSetting = setting
  | .clearDelayIsChanged => w.ui.currDelay = .no
  | .leaveSettings => w.ui.currSetting = .back
  | .prepareSettings => w.bound .key2 = some .key2IrqSettingSelect → w.ui.currSetting = .no
  | .prepareDelay => w.bound .key2 = some .key2IrqSettingDelaySelect → w.ui.currDelay = .no
  | .detachKey2 handler => handler = .key2IrqSettingSelect → w.ui.currScene = .settings
  | _ => True

instance (label : Stmt) (w : World) : Decidable (EntersOwnPage label w) := by
  unfold EntersOwnPage
  split <;> infer_instance

theorem Ui.scene_of_delay {u : Ui} (h : u.page = some .delay) : u.currScene = .settings := by
  unfold Ui.page at h
  split at h
  · cases h
  · cases h
  · cases h
  · cases h
  · assumption
  · cases h

theorem Ui.setting_of_delay {u : Ui} (h : u.page = some .delay) :
    u.currSetting ≠ .no ∧ u.currSetting ≠ .back := by
  unfold Ui.page at h
  rw [Ui.scene_of_delay h] at h
  constructor
  · intro hno
    rw [hno] at h
    cases h
  · intro hback
    rw [hback] at h
    cases h

/-- What KEY2 has requested and no entry action has taken yet. -/
structure Requested where
  scene : Option Scene
  setting : Option SettingSelect
  delay : Option DelaySelect
  deriving DecidableEq

namespace Requested

def nothing : Requested := ⟨none, none, none⟩

/-- The handlers of the inner pages request a page only while the page variables
designate their own. -/
def press (handler : Handler) (u : Ui) (requested : Requested) : Requested :=
  match handler with
  | .key2IrqMenu => ⟨some u.selectScene, none, none⟩
  | .key2IrqDispData | .key2IrqTakePhoto | .key2IrqSdCard => ⟨some .menu, none, none⟩
  | .key2IrqSettingSelect =>
    if u.currScene = .settings then
      { requested with setting := some u.selectSetting, delay := none }
    else requested
  | .key2IrqSettingDelaySelect =>
    if u.page = some .delay then { requested with delay := some u.selectDelay } else requested
  | _ => requested

/-- An entry action takes the request of its level, whatever was requested. -/
def take (label : Stmt) (requested : Requested) : Requested :=
  match label with
  | .clearSceneIsChanged _ => { requested with scene := none }
  | .clearSettingIsChanged _ | .leaveSettings => { requested with setting := none }
  | .clearDelayIsChanged | .leaveDelay => { requested with delay := none }
  | _ => requested

/-- The statement takes a request for its own page, or none.  Every delay that KEY2
selects leads back to the settings page, so that `leaveDelay` may take any. -/
def Own (label : Stmt) (requested : Requested) : Prop :=
  match label with
  | .clearSceneIsChanged scene => ∀ target ∈ requested.scene, target = scene
  | .clearSettingIsChanged setting => ∀ target ∈ requested.setting, target = setting
  | .leaveSettings => ∀ target ∈ requested.setting, target = .back
  | .clearDelayIsChanged => ∀ target ∈ requested.delay, target = .no
  | _ => True

instance (label : Stmt) (requested : Requested) : Decidable (requested.Own label) := by
  unfold Own
  split <;> infer_instance

end Requested

/-- The page variables with the requests beside them. -/
structure Asked extends Ui where
  requested : Requested

namespace Asked

def press (handler : Handler) (a : Asked) : Asked :=
  ⟨handler.call a.toUi, a.requested.press handler a.toUi⟩

def assign (label : Stmt) (update : Ui → Ui) (a : Asked) : Asked :=
  ⟨update a.toUi, a.requested.take label⟩

/-- A request stands in its page variable, with the flag raised. -/
structure Waits (a : Asked) : Prop where
  scene : ∀ target ∈ a.requested.scene, a.sceneIsChanged = true ∧ a.currScene = target
  setting : ∀ target ∈ a.requested.setting,
    a.settingIsChanged = true ∧ a.currSetting = target ∧ a.currScene = .settings
  delay : ∀ target ∈ a.requested.delay,
    a.delayIsChanged = true ∧ a.currDelay = target ∧ a.page = some .delay

/-- A press replaces the requests of its level and of those inside it. -/
theorem Waits.press {a : Asked} (h : a.Waits) (handler : Handler) : (a.press handler).Waits := by
  have hscene : ∀ scene target : Scene, target ∈ some scene → true = true ∧ scene = target :=
    fun _ _ htarget => ⟨rfl, Option.some.inj htarget⟩
  cases handler with
  | key2IrqMenu => exact ⟨hscene _, nofun, nofun⟩
  | key2IrqDispData => exact ⟨hscene _, nofun, nofun⟩
  | key2IrqTakePhoto => exact ⟨hscene _, nofun, nofun⟩
  | key2IrqSdCard => exact ⟨hscene _, nofun, nofun⟩
  | key2IrqSettingSelect =>
    by_cases hcurr : a.currScene = .settings
    · have hpressed : (a.press .key2IrqSettingSelect).requested =
          { a.requested with setting := some a.selectSetting, delay := none } := if_pos hcurr
      refine ⟨?_, ?_, ?_⟩ <;> rw [hpressed]
      · exact h.scene
      · exact fun target htarget => ⟨rfl, Option.some.inj htarget, hcurr⟩
      · exact nofun
    · have hpressed : (a.press .key2IrqSettingSelect).requested = a.requested := if_neg hcurr
      refine ⟨?_, ?_, ?_⟩ <;> rw [hpressed]
      · exact h.scene
      · exact fun target htarget => absurd (h.setting target htarget).2.2 hcurr
      · exact fun target htarget => absurd (Ui.scene_of_delay (h.delay target htarget).2.2) hcurr
  | key2IrqSettingDelaySelect =>
    by_cases hpage : a.page = some .delay
    · have hpressed : (a.press .key2IrqSettingDelaySelect).requested =
          { a.requested with delay := some a.selectDelay } := if_pos hpage
      refine ⟨?_, ?_, ?_⟩ <;> rw [hpressed]
      · exact h.scene
      · exact h.setting
      · exact fun target htarget => ⟨rfl, Option.some.inj htarget, hpage⟩
    · have hpressed : (a.press .key2IrqSettingDelaySelect).requested = a.requested := if_neg hpage
      refine ⟨?_, ?_, ?_⟩ <;> rw [hpressed]
      · exact h.scene
      · exact h.setting
      · exact fun target htarget => absurd (h.delay target htarget).2.2 hpage
  | _ => exact ⟨h.scene, h.setting, h.delay⟩

/-- No request waits for a page inside the settings. -/
def NoneInside (a : Asked) : Prop := a.requested.setting = none ∧ a.requested.delay = none

theorem Waits.noDelay {a : Asked} (h : a.Waits) (hpage : a.page ≠ some .delay) :
    a.requested.delay = none := by
  cases hdelay : a.requested.delay with
  | none => rfl
  | some target => exact absurd (h.delay target hdelay).2.2 hpage

theorem Waits.noneInside {a : Asked} (h : a.Waits) (hscene : a.currScene ≠ .settings) :
    a.NoneInside := by
  refine ⟨?_, h.noDelay fun hpage => hscene (Ui.scene_of_delay hpage)⟩
  cases hsetting : a.requested.setting with
  | none => rfl
  | some target => exact absurd (h.setting target hsetting).2.2 hscene

/-- At a statement that the condition admits, a waiting request is its own. -/
theorem Waits.own {w : World} {requested : Requested} (h : Waits ⟨w.ui, requested⟩) {label : Stmt}
    (hgranted : EntersOwnPage label w) : requested.Own label := by
  cases label with
  | clearSceneIsChanged scene =>
    exact fun target htarget => (h.scene target htarget).2.symm.trans hgranted
  | clearSettingIsChanged setting =>
    exact fun target htarget => (h.setting target htarget).2.1.symm.trans hgranted
  | leaveSettings => exact fun target htarget => (h.setting target htarget).2.1.symm.trans hgranted
  | clearDelayIsChanged =>
    exact fun target htarget => (h.delay target htarget).2.1.symm.trans hgranted
  | _ => trivial

end Asked

/-- The loop with the requests beside it. -/
structure Watched where
  config : Config
  requested : Requested

namespace Watched

def start (w : World) : Watched := ⟨.start w, .nothing⟩

def step (c : Watched) (input : Input) : Watched where
  config := c.config.step input
  requested :=
    match input with
    | .key key =>
      (c.config.world.bound key).elim c.requested fun handler =>
        c.requested.press handler c.config.world.ui
    | .advance _ =>
      match c.config.thread with
      | .running (.step label _ _) => c.requested.take label
      | _ => c.requested

@[simp] theorem step_polls (w : World) (requested : Requested) (env : IterEnv) :
    step ⟨⟨.polls, w⟩, requested⟩ (.advance env) = ⟨⟨.ready, polls env.poll w⟩, requested⟩ := rfl

@[simp] theorem step_ready (w : World) (requested : Requested) (env : IterEnv) :
    step ⟨⟨.ready, w⟩, requested⟩ (.advance env) =
      ⟨⟨.running (mainFunc env.func), w⟩, requested⟩ := rfl

/-- The step takes no request for another page. -/
def TakesOwn (c : Watched) (input : Input) : Prop :=
  c.config.Granted (fun label _ => c.requested.Own label) (fun _ _ => True) input

instance (c : Watched) (input : Input) : Decidable (c.TakesOwn input) :=
  inferInstanceAs (Decidable (c.config.Granted _ _ input))

end Watched
end WeatherStation
