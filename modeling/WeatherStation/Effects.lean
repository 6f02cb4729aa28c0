import WeatherStation.MainFunc

/-! What the statements of `mainFunc` can change: apart from a save and an
eject, only the page variables, the key bindings, the timer of DISP_DATA and
the panel. -/
namespace WeatherStation
open Lib Gpio Display

/-- Events that say nothing about sensors, saving or ejecting. -/
def Event.harmless : Event → Bool
  | .irq _ => true
  | .call (.enter _) => true
  | .call (.configDelay _ _) => true
  | event => event.quiet

theorem Event.harmless_of_quiet {event : Event} (h : event.quiet = true) :
    event.harmless = true := by
  unfold Event.harmless
  split
  · rfl
  · rfl
  · rfl
  · exact h

/-- The second state keeps sensors, file and periods of the first one. -/
structure World.Harmless (w w' : World) : Prop where
  hmc5883l : w'.hmc5883l = w.hmc5883l
  bme280 : w'.bme280 = w.bme280
  ltr390 : w'.ltr390 = w.ltr390
  adc : w'.adc = w.adc
  measured : w'.measured = w.measured
  isFirstSave : w'.isFirstSave = w.isFirstSave
  dataCsv : w'.dataCsv = w.dataCsv
  timers : ∀ clock, clock ≠ .dispData → w'.timers clock = w.timers clock
  history : ∃ events : List Event, (∀ event ∈ events, event.harmless = true) ∧
    w'.history = events ++ w.history

namespace World.Harmless
variable {w w' w'' : World}

theorem refl (w : World) : w.Harmless w :=
  ⟨rfl, rfl, rfl, rfl, rfl, rfl, rfl, fun _ _ => rfl, [], by simp, rfl⟩

theorem trans (h : w.Harmless w') (h' : w'.Harmless w'') : w.Harmless w'' where
  hmc5883l := h'.hmc5883l.trans h.hmc5883l
  bme280 := h'.bme280.trans h.bme280
  ltr390 := h'.ltr390.trans h.ltr390
  adc := h'.adc.trans h.adc
  measured := h'.measured.trans h.measured
  isFirstSave := h'.isFirstSave.trans h.isFirstSave
  dataCsv := h'.dataCsv.trans h.dataCsv
  timers clock hclock := (h'.timers clock hclock).trans (h.timers clock hclock)
  history := History.extend_trans h.history h'.history

theorem record (event : Event) (hevent : event.harmless = true) : w.Harmless (w.record event) :=
  { refl w with history := ⟨[event], by simpa using hevent, rfl⟩ }

theorem setUi (update : Ui → Ui) : w.Harmless (w.setUi update) :=
  ⟨rfl, rfl, rfl, rfl, rfl, rfl, rfl, fun _ _ => rfl, [], by simp, rfl⟩

theorem setPins (pins : PinIrqTab Handler) : w.Harmless { w with pins } :=
  ⟨rfl, rfl, rfl, rfl, rfl, rfl, rfl, fun _ _ => rfl, [], by simp, rfl⟩

theorem setTimer (update : Timer → Timer) : w.Harmless (w.setTimer .dispData update) :=
  { refl w with timers := fun _ hclock => Function.update_of_ne hclock _ _ }

theorem of_quietly (h : w.Quietly w') : w.Harmless w' := by
  obtain ⟨events, hevents, rfl⟩ := h
  exact { refl w with
    history := ⟨events, fun event hevent => Event.harmless_of_quiet (hevents event hevent), rfl⟩ }

theorem press (w : World) (key : Key) : w.Harmless (w.press key) := by
  unfold World.press
  split
  · exact refl w
  · rename_i handler _
    exact (setUi handler.call).trans (record (.irq handler) rfl)

theorem dispDataTask (tick : UInt32) : w.Harmless (dispDataTask tick w) :=
  (of_quietly (dispDataFrame_draws w).quietly).trans
    ((setTimer _).trans (of_quietly (dispDataUpdateData_quietly _)))

end World.Harmless

def World.Ejected (w : World) : Prop := .call .sdCardEject ∈ w.history

instance (w : World) : Decidable w.Ejected :=
  inferInstanceAs (Decidable (Event.call .sdCardEject ∈ w.history))

theorem World.ejected_append {w w' : World} {events : List Event}
    (hhistory : w'.history = events ++ w.history)
    (hevents : ∀ event ∈ events, event ≠ .call .sdCardEject) : w'.Ejected ↔ w.Ejected := by
  unfold World.Ejected
  rw [hhistory, List.mem_append]
  constructor
  · rintro (hnew | hold)
    · exact absurd rfl (hevents _ hnew)
    · exact hold
  · exact .inr

theorem World.Harmless.ejected {w w' : World} (h : w.Harmless w') : w'.Ejected ↔ w.Ejected := by
  obtain ⟨events, hevents, hhistory⟩ := h.history
  apply World.ejected_append hhistory
  rintro event hevent rfl
  exact absurd (hevents _ hevent) Bool.false_ne_true

/-- What the statements between two reads do at most: they raise no request,
and all that they record is quiet. -/
structure World.Calm (w w' : World) : Prop where
  harmless : w.Harmless w'
  isSavingData : w'.ui.isSavingData = true → w.ui.isSavingData = true
  isEjecting : w'.ui.isEjecting = true → w.ui.isEjecting = true
  history : ∃ events : List Event, (∀ event ∈ events, event.quiet = true) ∧
    w'.history = events ++ w.history

namespace World.Calm
variable {w w' w'' : World}

theorem refl (w : World) : w.Calm w := ⟨.refl w, id, id, [], by simp, rfl⟩

theorem trans (h : w.Calm w') (h' : w'.Calm w'') : w.Calm w'' where
  harmless := h.harmless.trans h'.harmless
  isSavingData hraised := h.isSavingData (h'.isSavingData hraised)
  isEjecting hraised := h.isEjecting (h'.isEjecting hraised)
  history := History.extend_trans h.history h'.history

theorem setUi {update : Ui → Ui}
    (h : ∀ u, (update u).isSavingData = u.isSavingData ∧ (update u).isEjecting = u.isEjecting) :
    w.Calm (w.setUi update) :=
  ⟨.setUi update, fun hraised => (h w.ui).1 ▸ hraised, fun hraised => (h w.ui).2 ▸ hraised,
    [], by simp, rfl⟩

theorem setPins (pins : PinIrqTab Handler) : w.Calm { w with pins } :=
  ⟨.setPins pins, id, id, [], by simp, rfl⟩

theorem setTimer (update : Timer → Timer) : w.Calm (w.setTimer .dispData update) :=
  ⟨.setTimer update, id, id, [], by simp, rfl⟩

theorem of_quietly (h : w.Quietly w') : w.Calm w' := by
  have hharmless := World.Harmless.of_quietly h
  obtain ⟨events, hevents, rfl⟩ := h
  exact ⟨hharmless, id, id, events, hevents, rfl⟩

theorem dispDataTask (tick : UInt32) : w.Calm (dispDataTask tick w) :=
  (of_quietly (dispDataFrame_draws w).quietly).trans
    ((setTimer _).trans (of_quietly (dispDataUpdateData_quietly _)))

end World.Calm

/-- What is known by its label of a statement that neither saves nor ejects. -/
def Ordinary (label : Stmt) (update : World → World) : Prop :=
  match label with
  | .clearSceneIsChanged scene =>
    update = fun w =>
      (w.setUi fun u => { u with sceneIsChanged := false }).record (.call (.enter scene))
  | .configDelay =>
    update = fun w => (w.record (.call (.configDelay w.ui.currSetting w.ui.currDelay))).lcd
      [.setTextColor .green]
  | .saveCurrData _ => False
  | .eject _ => False
  | _ => ∀ w : World, w.Calm (update w)

theorem Ordinary.harmless {label : Stmt} {update : World → World} (h : Ordinary label update)
    (w : World) : w.Harmless (update w) := by
  cases label with
  | clearSceneIsChanged scene =>
    obtain rfl := h
    exact (World.Harmless.setUi _).trans (.record _ rfl)
  | configDelay =>
    obtain rfl := h
    exact (World.Harmless.record _ rfl).trans (.of_quietly (World.Quietly.lcd (by decide)))
  | saveCurrData env => exact h.elim
  | eject dfsUnmount => exact h.elim
  | _ => exact (h w).harmless

/-- The second state has the timer of DISP_DATA, and the page was not refreshed. -/
structure World.Unrefreshed (w w' : World) : Prop where
  timer : w'.timers .dispData = w.timers .dispData
  history : ∃ events : List Event, (∀ event ∈ events, event ≠ .call .dispDataUpdateData) ∧
    w'.history = events ++ w.history

namespace World.Unrefreshed
variable {w w' w'' : World}

theorem trans (h : w.Unrefreshed w') (h' : w'.Unrefreshed w'') : w.Unrefreshed w'' where
  timer := h'.timer.trans h.timer
  history := History.extend_trans h.history h'.history

theorem of_same (htimers : w'.timers = w.timers) (hhistory : w'.history = w.history) :
    w.Unrefreshed w' := ⟨by rw [htimers], [], by simp, hhistory⟩

theorem record (event : Event) (hevent : event ≠ .call .dispDataUpdateData) :
    w.Unrefreshed (w.record event) := ⟨rfl, [event], by simpa using hevent, rfl⟩

theorem of_draws (h : w.Draws w') : w.Unrefreshed w' := by
  obtain ⟨events, hevents, rfl⟩ := h
  exact ⟨rfl, events, fun event hevent => (hevents event hevent).2, rfl⟩

theorem press (w : World) (key : Key) : w.Unrefreshed (w.press key) := by
  unfold World.press
  split
  · exact of_same rfl rfl
  · exact ⟨rfl, [.irq _], by simp, rfl⟩

end World.Unrefreshed

/-- The statements outside the scene DISP_DATA that neither save nor eject. -/
def Aside (label : Stmt) (update : World → World) : Prop :=
  Ordinary label update ∧ ∀ w : World, w.Unrefreshed (update w)

namespace Aside

theorem plain {update : World → World} (hcalm : ∀ w : World, w.Calm (update w))
    (h : ∀ w : World, w.Unrefreshed (update w)) : Aside .plain update := ⟨hcalm, h⟩

theorem read {α : Type} (read : World → α) : Program.Every Aside (Program.read read) :=
  .readAt (plain World.Calm.refl fun _ => .of_same rfl rfl)

theorem setUi {update : Ui → Ui}
    (h : ∀ u, (update u).isSavingData = u.isSavingData ∧ (update u).isEjecting = u.isEjecting) :
    Program.Every Aside (setUi update) :=
  .assignAt (plain (fun _ => .setUi h) fun _ => .of_same rfl rfl)

/-- The assignments to the page variables that are labelled. -/
theorem setUiAt {label : Stmt} {update : Ui → Ui}
    (hlabel : (∀ w : World, w.Calm (w.setUi update)) → Ordinary label fun w => w.setUi update)
    (h : ∀ u, (update u).isSavingData = u.isSavingData ∧ (update u).isEjecting = u.isEjecting) :
    Program.Every Aside (setUiAt label update) :=
  .assignAt ⟨hlabel fun _ => .setUi h, fun _ => .of_same rfl rfl⟩

theorem draw {task : World → World} (htask : ∀ w : World, w.Draws (task w)) :
    Program.Every Aside (draw task) :=
  .assignAt (plain (fun w => .of_quietly (htask w).quietly) fun w => .of_draws (htask w))

theorem setPins {update : World → PinIrqTab Handler} :
    Aside .plain fun w => { w with pins := update w } :=
  plain (fun _ => .setPins _) fun _ => .of_same rfl rfl

theorem rebindKey1 (handler : Handler) : Program.Every Aside (rebindKey1 handler) :=
  .bind (.assignAt setPins) fun _ => .bind (.assignAt setPins) fun _ => .assignAt setPins

theorem rebindKey2 (handler : Handler) : Program.Every Aside (rebindKey2 handler) :=
  .bind (.assignAt ⟨fun _ => .setPins _, fun _ => .of_same rfl rfl⟩) fun _ =>
    .bind (.assignAt setPins) fun _ => .assignAt setPins

theorem clearSceneIsChanged (scene : Scene) :
    Program.Every Aside (clearSceneIsChanged scene) := by
  apply Program.Every.assignAt
  refine ⟨rfl, fun w => ?_⟩
  have hflag : w.Unrefreshed (w.setUi fun u => { u with sceneIsChanged := false }) :=
    .of_same rfl rfl
  exact hflag.trans (.record _ (by simp))

/-- The entry action of a scene, with or without a drawing. -/
theorem enterScene (scene : Scene) (handler1 handler2 : Handler) {rest : Prog RtErr}
    (hrest : Program.Every Aside rest) :
    Program.Every Aside (do
      WeatherStation.clearSceneIsChanged scene
      WeatherStation.rebindKey1 handler1
      WeatherStation.rebindKey2 handler2
      rest) :=
  .bind (clearSceneIsChanged scene) fun _ => .bind (rebindKey1 handler1) fun _ =>
    .bind (rebindKey2 handler2) fun _ => hrest

theorem sceneMenu : Program.Every Aside sceneMenu := by
  apply Program.Every.bind (read _)
  intro changed
  split
  · exact enterScene _ _ _ (.bind (draw menuTask_draws) fun _ => .pure _)
  · apply Program.Every.bind (read _)
    intro selected
    split
    · exact .bind (setUi fun _ => ⟨rfl, rfl⟩) fun _ =>
        .bind (draw menuUpdateSelect_draws) fun _ => .pure _
    · exact .pure _

theorem sceneTakePhoto : Program.Every Aside sceneTakePhoto := by
  apply Program.Every.bind (read _)
  intro changed
  split
  · exact enterScene _ _ _ (.pure _)
  · exact .bind (draw takePhotoTask_draws) fun _ => .pure _

theorem resetDelay : Program.Every Aside resetDelay :=
  .bind (setUi fun _ => ⟨rfl, rfl⟩) fun _ =>
    .bind (setUi fun _ => ⟨rfl, rfl⟩) fun _ =>
    .bind (setUi fun _ => ⟨rfl, rfl⟩) fun _ =>
    .bind (setUi fun _ => ⟨rfl, rfl⟩) fun _ => setUi fun _ => ⟨rfl, rfl⟩

theorem returnToSettings : Program.Every Aside returnToSettings :=
  .bind (setUi fun _ => ⟨rfl, rfl⟩) fun _ =>
    .bind (setUiAt id fun _ => ⟨rfl, rfl⟩) fun _ =>
    .bind (setUi fun _ => ⟨rfl, rfl⟩) fun _ => resetDelay

theorem leaveSettings : Program.Every Aside leaveSettings :=
  .bind (setUi fun _ => ⟨rfl, rfl⟩) fun _ =>
    .bind (setUiAt id fun _ => ⟨rfl, rfl⟩) fun _ =>
    .bind (setUi fun _ => ⟨rfl, rfl⟩) fun _ =>
    .bind (setUi fun _ => ⟨rfl, rfl⟩) fun _ =>
    .bind (setUi fun _ => ⟨rfl, rfl⟩) fun _ =>
    .bind (setUi fun _ => ⟨rfl, rfl⟩) fun _ =>
    .bind (setUi fun _ => ⟨rfl, rfl⟩) fun _ =>
    .bind (setUi fun _ => ⟨rfl, rfl⟩) fun _ => resetDelay

theorem confirm : Aside .configDelay fun w =>
    (w.record (.call (.configDelay w.ui.currSetting w.ui.currDelay))).lcd [.setTextColor .green] :=
  ⟨rfl, fun _ => (World.Unrefreshed.record _ (by simp)).trans (.of_draws (.lcd (by decide)))⟩

theorem configDelay : Program.Every Aside configDelay :=
  .bind (.assignAt confirm) fun _ =>
    .bind (draw fun _ => World.Draws.lcd (by decide)) fun _ => returnToSettings

theorem enterSettingDelay : Program.Every Aside enterSettingDelay := by
  apply Program.Every.bind (read _)
  intro delay
  cases delay with
  | no =>
    apply Program.Every.bind (read _)
    intro changed
    split
    · exact .bind (setUiAt id fun _ => ⟨rfl, rfl⟩) fun _ => .bind (rebindKey1 _) fun _ =>
        .bind (rebindKey2 _) fun _ => .bind (draw settingsDelayTask_draws) fun _ => .pure _
    · apply Program.Every.bind (read _)
      intro selected
      split
      · exact .bind (setUi fun _ => ⟨rfl, rfl⟩) fun _ =>
          .bind (draw settingsDelayUpdateSelect_draws) fun _ => .pure _
      · exact .pure _
  | back => exact .bind returnToSettings fun _ => .pure _
  | other _ => exact .pure _
  | _ => exact .bind configDelay fun _ => .pure _

theorem enterSetting : Program.Every Aside enterSetting := by
  apply Program.Every.bind (read _)
  intro setting
  cases setting with
  | no =>
    apply Program.Every.bind (read _)
    intro changed
    split
    · exact .bind (setUiAt id fun _ => ⟨rfl, rfl⟩) fun _ => .bind (rebindKey1 _) fun _ =>
        .bind (rebindKey2 _) fun _ => .bind (draw settingsTask_draws) fun _ => .pure _
    · apply Program.Every.bind (read _)
      intro selected
      split
      · exact .bind (setUi fun _ => ⟨rfl, rfl⟩) fun _ =>
          .bind (draw settingsUpdateSelect_draws) fun _ => .pure _
      · exact .pure _
  | back => exact .bind leaveSettings fun _ => .pure _
  | other _ => exact .pure _
  | _ =>
    apply Program.Every.bind (read _)
    intro changed
    split
    · exact .bind (setUiAt id fun _ => ⟨rfl, rfl⟩) fun _ =>
        .bind (setUi fun _ => ⟨rfl, rfl⟩) fun _ => .bind (setUiAt id fun _ => ⟨rfl, rfl⟩) fun _ =>
        .bind (setUi fun _ => ⟨rfl, rfl⟩) fun _ => .pure _
    · exact .bind enterSettingDelay fun _ => .pure _

theorem sceneSettings : Program.Every Aside sceneSettings := by
  apply Program.Every.bind (read _)
  intro changed
  split
  · exact .bind (clearSceneIsChanged _) fun _ => .bind (setUi fun _ => ⟨rfl, rfl⟩) fun _ =>
      .bind (setUiAt id fun _ => ⟨rfl, rfl⟩) fun _ => .bind (setUi fun _ => ⟨rfl, rfl⟩) fun _ =>
      .pure _
  · exact .bind enterSetting fun _ => .pure _

end Aside

namespace Ordinary

theorem of_aside {α : Type} {program : Prog α} (h : Program.Every Aside program) :
    Program.Every Ordinary program := h.mono fun _ _ haside => haside.1

theorem assign {update : World → World} (h : ∀ w : World, w.Calm (update w)) :
    Program.Every Ordinary (Program.assign update) :=
  .assignAt (show Ordinary .plain update from h)

theorem dispDataPoll (tick : UInt32) : Program.Every Ordinary (dispDataPoll tick) := by
  apply Program.Every.bind (assign fun _ => .setTimer _)
  intro _
  apply Program.Every.bind (of_aside (Aside.read _))
  intro due
  split
  · exact .bind (assign fun _ => .setTimer _) fun _ =>
      assign fun w => .of_quietly (dispDataUpdateData_quietly w)
  · exact .pure _

end Ordinary

/-- What is known of any statement of `mainFunc` by its label. -/
def Statement (label : Stmt) (update : World → World) : Prop :=
  match label with
  | .saveCurrData env =>
    update = fun w => sdcardSaveCurrData env (w.record (.call (.sdcardSaveCurrData true)))
  | .eject dfsUnmount =>
    update = fun w => sdCardEject dfsUnmount (w.record (.call .sdCardEject))
  | label => Ordinary label update

theorem Statement.cases {label : Stmt} {update : World → World} (h : Statement label update) :
    Ordinary label update ∨
      (∃ env, label = .saveCurrData env ∧
        update = fun w => sdcardSaveCurrData env (w.record (.call (.sdcardSaveCurrData true)))) ∨
      ∃ dfsUnmount, label = .eject dfsUnmount ∧
        update = fun w => sdCardEject dfsUnmount (w.record (.call .sdCardEject)) := by
  cases label with
  | saveCurrData env => exact .inr (.inl ⟨env, rfl, h⟩)
  | eject dfsUnmount => exact .inr (.inr ⟨dfsUnmount, rfl, h⟩)
  | _ => exact .inl h

theorem Ordinary.statement {label : Stmt} {update : World → World} (h : Ordinary label update) :
    Statement label update := by
  cases label with
  | saveCurrData env => exact h.elim
  | eject dfsUnmount => exact h.elim
  | _ => exact h

theorem ordinary_every {α : Type} {program : Prog α} (h : Program.Every Ordinary program) :
    Program.Every Statement program := h.mono fun _ _ => Ordinary.statement

theorem aside_every {α : Type} {program : Prog α} (h : Program.Every Aside program) :
    Program.Every Statement program := ordinary_every (Ordinary.of_aside h)

theorem World.Calm.clearRequest {w : World} {update : Ui → Ui}
    (hsaving : ∀ u, (update u).isSavingData = true → u.isSavingData = true)
    (hejecting : ∀ u, (update u).isEjecting = true → u.isEjecting = true) :
    w.Calm (w.setUi update) := ⟨.setUi update, hsaving w.ui, hejecting w.ui, [], by simp, rfl⟩

theorem dispDataSave_statements (env : SaveEnv) : Program.Every Statement (dispDataSave env) := by
  have hclear : Program.Every Statement
      (setUi fun u => { u with isSavingData := false }) := by
    apply Program.Every.assignAt (show Ordinary .plain _ from fun _ => World.Calm.clearRequest _ _)
    · exact fun _ _ hraised => absurd hraised Bool.false_ne_true
    · exact fun _ _ hraised => hraised
  apply Program.Every.bind (.readAt World.Calm.refl)
  intro saving
  split
  · exact hclear.bind fun _ => .assignAt rfl
  · exact .pure _

theorem sdCardConfirm_statements (dfsUnmount : Int) :
    Program.Every Statement (sdCardConfirm dfsUnmount) := by
  have hclear : Program.Every Statement (setUi fun u => { u with isEjecting := false }) := by
    apply Program.Every.assignAt (show Ordinary .plain _ from fun _ => World.Calm.clearRequest _ _)
    · exact fun _ _ hraised => hraised
    · exact fun _ _ hraised => absurd hraised Bool.false_ne_true
  have hread : Program.Every Statement (readUi (·.isEjecting)) := aside_every (Aside.read _)
  apply hread.bind
  intro ejecting
  split
  · exact hclear.bind fun _ => .assignAt rfl
  · exact .pure _

theorem sceneDispData_enter (tick : UInt32) : Program.Every Ordinary (do
    clearSceneIsChanged .dispData
    rebindKey1 .key1IrqDispData
    rebindKey2 .key2IrqDispData
    draw (dispDataTask tick)
    return rtEok) :=
  .bind (Ordinary.of_aside (Aside.clearSceneIsChanged _)) fun _ =>
    .bind (Ordinary.of_aside (Aside.rebindKey1 _)) fun _ =>
    .bind (Ordinary.of_aside (Aside.rebindKey2 _)) fun _ =>
    .bind (Ordinary.assign fun _ => .dispDataTask _) fun _ => .pure _

theorem sceneSdCard_enter : Program.Every Aside (do
    clearSceneIsChanged .sdCard
    rebindKey1 .key1IrqSdCard
    rebindKey2 .key2IrqSdCard
    draw sdCardTask
    return rtEok) :=
  Aside.enterScene _ _ _ (.bind (Aside.draw sdCardTask_draws) fun _ => .pure _)

/-- Whatever key interrupts come in between, `mainFunc` executes only
statements of these kinds. -/
theorem mainFunc_statements (func : FuncEnv) : Program.Every Statement (mainFunc func) := by
  have hread : Program.Every Statement (readUi (·.currScene)) := aside_every (Aside.read _)
  have hchanged : Program.Every Statement (readUi (·.sceneIsChanged)) :=
    aside_every (Aside.read _)
  apply hread.bind
  intro scene
  cases scene with
  | menu => exact aside_every Aside.sceneMenu
  | dispData =>
    apply hchanged.bind
    intro changed
    split
    · exact ordinary_every (sceneDispData_enter _)
    · exact .bind (ordinary_every (Ordinary.dispDataPoll _)) fun _ =>
        .bind (dispDataSave_statements _) fun _ => .pure _
  | takePhoto => exact aside_every Aside.sceneTakePhoto
  | sdCard =>
    apply hchanged.bind
    intro changed
    split
    · exact aside_every sceneSdCard_enter
    · exact .bind (sdCardConfirm_statements _) fun _ => .pure _
  | settings => exact aside_every Aside.sceneSettings
  | other _ => exact .pure _

section
variable {env : Surroundings Stmt World} {invariant : Assertion env}

/-- The save on request: what is known when the flag was found set must
survive its clearing and allow the save. -/
theorem dispDataSave_triple (requested : Assertion env) {save : SaveEnv}
    (htest : ∀ w, invariant w → env.grants .testIsSavingData w → w.ui.isSavingData = true →
      requested w)
    (hclear : ∀ w, requested w → requested (w.setUi fun u => { u with isSavingData := false }))
    (hsave : ∀ w, requested w → env.grants (.saveCurrData save) w →
      invariant (sdcardSaveCurrData save (w.record (.call (.sdcardSaveCurrData true))))) :
    (dispDataSave save).Triple invariant fun _ => invariant := by
  have hread : (Program.readAt .testIsSavingData fun w : World => w.ui.isSavingData :
      Prog Bool).Triple invariant fun saving => if saving then requested else invariant := by
    apply Program.Triple.readAt
    intro w hw hgranted
    cases hsaving : w.ui.isSavingData with
    | false => exact hw
    | true => exact htest w hw hgranted hsaving
  apply hread.bind
  intro saving
  cases saving with
  | false => exact .pure fun _ hw => hw
  | true =>
    have hset : (setUi fun u => { u with isSavingData := false }).Triple requested
        fun _ => requested := .assign hclear
    exact hset.bind fun _ => .assignAt hsave

/-- The eject on request. -/
theorem sdCardConfirm_triple (requested : Assertion env) {dfsUnmount : Int}
    (htest : ∀ w, invariant w → w.ui.isEjecting = true → requested w)
    (hclear : ∀ w, requested w → requested (w.setUi fun u => { u with isEjecting := false }))
    (heject : ∀ w, requested w → env.grants (.eject dfsUnmount) w →
      invariant (sdCardEject dfsUnmount (w.record (.call .sdCardEject)))) :
    (sdCardConfirm dfsUnmount).Triple invariant fun _ => invariant := by
  have hread : (readUi (·.isEjecting)).Triple invariant
      fun ejecting => if ejecting then requested else invariant := by
    apply Program.Triple.read
    intro w hw
    dsimp only
    cases hejecting : w.ui.isEjecting with
    | false => exact hw
    | true => exact htest w hw hejecting
  apply hread.bind
  intro ejecting
  cases ejecting with
  | false => exact .pure fun _ hw => hw
  | true =>
    have hset : (setUi fun u => { u with isEjecting := false }).Triple requested
        fun _ => requested := .assign hclear
    exact hset.bind fun _ => .assignAt heject

variable (hordinary : ∀ label update w, Ordinary label update → env.grants label w → invariant w →
    invariant (update w))
include hordinary

theorem sceneDispData_triple (func : FuncEnv)
    (hsave : (dispDataSave func.save).Triple invariant fun _ => invariant) :
    (sceneDispData func).Triple invariant fun _ => invariant := by
  have hread : (readUi (·.sceneIsChanged)).Triple invariant fun _ => invariant :=
    (Ordinary.of_aside (Aside.read _)).triple hordinary
  apply hread.bind
  intro changed
  apply Program.Triple.ite
  · exact fun _ => (sceneDispData_enter _).triple hordinary
  · intro _
    exact ((Ordinary.dispDataPoll _).triple hordinary).bind fun _ => hsave.bind fun _ =>
      .pure fun _ hw => hw

theorem sceneSdCard_triple (func : FuncEnv)
    (heject : (sdCardConfirm func.dfsUnmount).Triple invariant fun _ => invariant) :
    (sceneSdCard func).Triple invariant fun _ => invariant := by
  have hread : (readUi (·.sceneIsChanged)).Triple invariant fun _ => invariant :=
    (Ordinary.of_aside (Aside.read _)).triple hordinary
  apply hread.bind
  intro changed
  apply Program.Triple.ite
  · exact fun _ => (Ordinary.of_aside sceneSdCard_enter).triple hordinary
  · intro _
    exact heject.bind fun _ => .pure fun _ hw => hw

/-- What the ordinary statements, the save and the eject keep is kept by
`mainFunc`, whatever interrupts come in between. -/
theorem mainFunc_triple (func : FuncEnv)
    (hsave : (dispDataSave func.save).Triple invariant fun _ => invariant)
    (heject : (sdCardConfirm func.dfsUnmount).Triple invariant fun _ => invariant) :
    (mainFunc func).Triple invariant fun _ => invariant := by
  have hread : (readUi (·.currScene)).Triple invariant fun _ => invariant :=
    (Ordinary.of_aside (Aside.read _)).triple hordinary
  apply hread.bind
  intro scene
  cases scene with
  | menu => exact (Ordinary.of_aside Aside.sceneMenu).triple hordinary
  | dispData => exact sceneDispData_triple hordinary func hsave
  | takePhoto => exact (Ordinary.of_aside Aside.sceneTakePhoto).triple hordinary
  | sdCard => exact sceneSdCard_triple hordinary func heject
  | settings => exact (Ordinary.of_aside Aside.sceneSettings).triple hordinary
  | other _ => exact .pure fun _ hw => hw

end
end WeatherStation
