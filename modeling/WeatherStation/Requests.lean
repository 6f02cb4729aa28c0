import WeatherStation.Keys
import WeatherStation.Lib.History

/-! Ejects and saves on request: the flag that a press raises survives the page,
so it can be carried out on a later visit. -/
namespace WeatherStation
open Lib Gpio History

def Event.enters (scene : Scene) (event : Event) : Bool := event = .call (.enter scene)

/-- An eject, and a save from the page DISP_DATA, needs a press of KEY1 since
the entry into its scene. -/
def RequestedInVisit : Event → List Event → Prop
  | .call .sdCardEject, earlier => .irq .key1IrqSdCard ∈ since (Event.enters .sdCard) earlier
  | .call (.sdcardSaveCurrData true), earlier =>
    .irq .key1IrqDispData ∈ since (Event.enters .dispData) earlier
  | _, _ => True

instance (event : Event) (earlier : List Event) :
    Decidable (RequestedInVisit event earlier) := by
  unfold RequestedInVisit
  split <;> infer_instance

/-- A scene is entered without a request that is left over. -/
def FreshEntry (label : Stmt) (w : World) : Prop :=
  match label with
  | .clearSceneIsChanged .sdCard => w.ui.isEjecting = false
  | .clearSceneIsChanged .dispData => w.ui.isSavingData = false
  | _ => True

instance (label : Stmt) (w : World) : Decidable (FreshEntry label w) := by
  unfold FreshEntry
  split <;> infer_instance

structure Requests (w : World) : Prop where
  justified : Justified RequestedInVisit w.history
  isEjecting : w.ui.isEjecting = true →
    .irq .key1IrqSdCard ∈ since (Event.enters .sdCard) w.history
  isSavingData : w.ui.isSavingData = true →
    .irq .key1IrqDispData ∈ since (Event.enters .dispData) w.history

/-- Events that start no visit and need no request. -/
def Event.free : Event → Bool
  | .call (.enter _) => false
  | .call .sdCardEject => false
  | .call (.sdcardSaveCurrData true) => false
  | _ => true

theorem RequestedInVisit.of_free {event : Event} (h : event.free = true) (earlier : List Event) :
    RequestedInVisit event earlier := by
  unfold Event.free at h
  unfold RequestedInVisit
  split <;> simp_all

theorem Event.free_enters {event : Event} (h : event.free = true) (scene : Scene) :
    event.enters scene = false := by
  unfold Event.enters
  apply decide_eq_false
  rintro rfl
  exact nomatch h

theorem Event.free_of_quiet {event : Event} (h : event.quiet = true) : event.free = true := by
  unfold Event.free
  split <;> simp_all [Event.quiet]

theorem Requests.extend {w w' : World} {events : List Event} (h : Requests w)
    (hhistory : w'.history = events ++ w.history) (hfree : ∀ event ∈ events, event.free = true)
    (hejecting : w'.ui.isEjecting = true →
      w.ui.isEjecting = true ∨ .irq .key1IrqSdCard ∈ events)
    (hsaving : w'.ui.isSavingData = true →
      w.ui.isSavingData = true ∨ .irq .key1IrqDispData ∈ events) : Requests w' := by
  have hsince : ∀ scene, since (Event.enters scene) w'.history =
      events ++ since (Event.enters scene) w.history := by
    intro scene
    rw [hhistory]
    exact since_append fun event hevent => Event.free_enters (hfree event hevent) scene
  refine ⟨?_, fun hraised => ?_, fun hraised => ?_⟩
  · rw [hhistory]
    exact h.justified.append fun event hevent => RequestedInVisit.of_free (hfree event hevent)
  · rw [hsince, List.mem_append]
    exact (hejecting hraised).symm.imp_right h.isEjecting
  · rw [hsince, List.mem_append]
    exact (hsaving hraised).symm.imp_right h.isSavingData

theorem Requests.calm {w w' : World} (h : Requests w) (hw : w.Calm w') : Requests w' := by
  obtain ⟨events, hevents, hhistory⟩ := hw.history
  apply h.extend hhistory
  · exact fun event hevent => Event.free_of_quiet (hevents event hevent)
  · exact fun hraised => .inl (hw.isEjecting hraised)
  · exact fun hraised => .inl (hw.isSavingData hraised)

theorem Handler.call_isEjecting (handler : Handler) {u : Ui}
    (h : (handler.call u).isEjecting = true) :
    u.isEjecting = true ∨ .irq .key1IrqSdCard ∈ [Event.irq handler] := by
  cases handler <;> first | exact .inl h | exact .inr List.mem_cons_self

theorem Handler.call_isSavingData (handler : Handler) {u : Ui}
    (h : (handler.call u).isSavingData = true) :
    u.isSavingData = true ∨ .irq .key1IrqDispData ∈ [Event.irq handler] := by
  cases handler <;> first | exact .inl h | exact .inr List.mem_cons_self

theorem Requests.press {w : World} (h : Requests w) (key : Key) : Requests (w.press key) := by
  cases hbound : w.bound key with
  | none =>
    rw [World.press_none hbound]
    exact h
  | some handler =>
    apply h.extend (World.press_history hbound)
    · simp [Event.free]
    · rw [World.press_ui hbound]
      exact handler.call_isEjecting
    · rw [World.press_ui hbound]
      exact handler.call_isSavingData

theorem SaveEnv.events_free (env : SaveEnv) (w : World) :
    ∀ event ∈ env.events w, event.free = true := by
  unfold SaveEnv.events SaveEnv.appends
  split <;> simp [Event.free]

theorem Requests.polls {w : World} (h : Requests w) (env : PollEnv) : Requests (polls env w) := by
  have hevents := polls_events env w (SaveEnv.events_free env.save _) rfl fun _ _ _ => rfl
  obtain ⟨events, hfree, hhistory⟩ := hevents
  have hui := (polls_panel env w).1
  apply h.extend hhistory hfree
  · rw [hui]
    exact .inl
  · rw [hui]
    exact .inl

theorem since_enter {scene other : Scene} (h : scene ≠ other) (history : List Event) :
    since (Event.enters other) (.call (.enter scene) :: history) =
      .call (.enter scene) :: since (Event.enters other) history := by
  have hstarts : Event.enters other (.call (.enter scene)) = false := by simp [Event.enters, h]
  rw [since_cons, hstarts, if_neg Bool.false_ne_true]

/-- The entry into a scene starts a visit, so a request must not be pending. -/
theorem Requests.enter {w : World} (h : Requests w) {scene : Scene}
    (hfresh : FreshEntry (.clearSceneIsChanged scene) w) :
    Requests ((w.setUi fun u => { u with sceneIsChanged := false }).record
      (.call (.enter scene))) where
  justified := justified_cons.mpr ⟨trivial, h.justified⟩
  isEjecting hraised := by
    have hejecting : w.ui.isEjecting = true := hraised
    by_cases hscene : scene = .sdCard
    · subst hscene
      exact absurd hejecting (by rw [hfresh]; decide)
    · rw [World.record, since_enter hscene]
      exact List.mem_cons_of_mem _ (h.isEjecting hejecting)
  isSavingData hraised := by
    have hsaving : w.ui.isSavingData = true := hraised
    by_cases hscene : scene = .dispData
    · subst hscene
      exact absurd hsaving (by rw [hfresh]; decide)
    · rw [World.record, since_enter hscene]
      exact List.mem_cons_of_mem _ (h.isSavingData hsaving)

abbrev requestKeys : Surroundings Stmt World :=
  keys FreshEntry fun w => Justified RequestedInVisit w.history

def requestAssertion : Assertion requestKeys where
  holds := Requests
  stable := by
    rintro w _ h ⟨key, rfl⟩
    exact h.press key
  guaranteed _ h := h.justified

/-- A press of this visit stays in the history whatever the keys do. -/
def pressedInVisit (handler : Handler) (scene : Scene) : Assertion requestKeys where
  holds w := Requests w ∧ .irq handler ∈ since (Event.enters scene) w.history
  stable := by
    rintro w _ ⟨h, hpressed⟩ ⟨key, rfl⟩
    refine ⟨h.press key, ?_⟩
    cases hbound : w.bound key with
    | none =>
      rw [World.press_none hbound]
      exact hpressed
    | some other =>
      rw [World.press_history hbound, since_append (by simp [Event.enters])]
      exact List.mem_append_right _ hpressed
  guaranteed _ h := h.1.justified

theorem Requests.ordinary {label : Stmt} {update : World → World} {w : World} (h : Requests w)
    (hlabel : Ordinary label update) (hfresh : FreshEntry label w) : Requests (update w) := by
  cases label with
  | clearSceneIsChanged scene =>
    obtain rfl := hlabel
    exact h.enter hfresh
  | configDelay =>
    obtain rfl := hlabel
    have hfree : ∀ event ∈ [.lcd (.setTextColor .green),
        .call (.configDelay w.ui.currSetting w.ui.currDelay)], Event.free event = true := by
      simp [Event.free]
    exact h.extend rfl hfree .inl .inl
  | saveCurrData env => exact hlabel.elim
  | eject dfsUnmount => exact hlabel.elim
  | _ => exact h.calm (hlabel w)

/-- A save or an eject that was requested in this visit is justified. -/
theorem Requests.requested {w w' : World} {events : List Event} (h : Requests w) (event : Event)
    (hevent : RequestedInVisit event w.history)
    (hstarts : ∀ scene, event.enters scene = false)
    (hhistory : w'.history = events ++ event :: w.history) (hui : w'.ui = w.ui)
    (hfree : ∀ event ∈ events, event.free = true) : Requests w' := by
  have hsince : ∀ scene, since (Event.enters scene) (event :: w.history) =
      event :: since (Event.enters scene) w.history := by
    intro scene
    rw [since_cons, hstarts, if_neg Bool.false_ne_true]
  have hrecord : Requests (w.record event) := by
    refine ⟨justified_cons.mpr ⟨hevent, h.justified⟩, fun hraised => ?_, fun hraised => ?_⟩
    · rw [World.record, hsince]
      exact List.mem_cons_of_mem _ (h.isEjecting hraised)
    · rw [World.record, hsince]
      exact List.mem_cons_of_mem _ (h.isSavingData hraised)
  apply hrecord.extend hhistory hfree
  · rw [hui]
    exact .inl
  · rw [hui]
    exact .inl

theorem requestAssertion_mainFunc (func : FuncEnv) :
    (mainFunc func).Triple requestAssertion fun _ => requestAssertion := by
  apply mainFunc_triple
  · exact fun label update w hlabel hgranted hw => Requests.ordinary hw hlabel hgranted
  · apply dispDataSave_triple (pressedInVisit .key1IrqDispData .dispData)
    · exact fun w hw _ hsaving => ⟨hw, hw.isSavingData hsaving⟩
    · exact fun w hw => ⟨hw.1.calm ⟨.setUi _, nofun, id, [], by simp, rfl⟩, hw.2⟩
    · intro w hw _
      rw [sdcardSaveCurrData_eq]
      refine hw.1.requested (.call (.sdcardSaveCurrData true)) hw.2 (fun _ => rfl) rfl rfl ?_
      exact SaveEnv.events_free func.save _
  · apply sdCardConfirm_triple (pressedInVisit .key1IrqSdCard .sdCard)
    · exact fun w hw hejecting => ⟨hw, hw.isEjecting hejecting⟩
    · exact fun w hw => ⟨hw.1.calm ⟨.setUi _, id, nofun, [], by simp, rfl⟩, hw.2⟩
    · intro w hw _
      rw [sdCardEject_eq]
      refine hw.1.requested (.call .sdCardEject) hw.2 (fun _ => rfl) rfl rfl ?_
      simp [ejectEvents, Event.free]

theorem Requests.booted {w : World} (h : Booted w) : Requests w := by
  apply h.induction
  · exact fun dataCsv => ⟨justified_nil, nofun, nofun⟩
  · exact fun w key hw => hw.press key
  · intro env w hw
    obtain ⟨events, hevents, hhistory⟩ := mainFuncInit_history env w
    apply hw.extend hhistory
    · exact fun event hevent => Event.free_of_quiet (hevents event hevent)
    · rw [mainFuncInit_ui]
      exact .inl
    · rw [mainFuncInit_ui]
      exact .inl
  · exact fun w hw => hw.calm (.setUi fun _ => ⟨rfl, rfl⟩)

/-- In a run in which no scene is entered with a request left over, every eject
and every save on request was requested in its visit. -/
theorem requestedInVisit {w : World} (h : Booted w) (inputs : List Input)
    (hinputs : Along Config.step (Config.Granted FreshEntry fun _ _ => True) (.start w) inputs) :
    Always Config.step (fun c => Justified RequestedInVisit c.world.history) (.start w) inputs := by
  refine always_of_along (Config.Sound requestAssertion) ?_ ?_ (Requests.booted h) hinputs
  · exact fun c hc => hc.guaranteed
  · intro c input hc hgranted
    exact hc.step (fun env w _ hw => Requests.polls hw env) requestAssertion_mainFunc hgranted

/-- A save that is requested and carried out on the first visit. -/
theorem requestedInVisit_firstVisit :
    Always Config.step (fun c => Justified RequestedInVisit c.world.history) (.start bootedWorld)
      (List.replicate 13 (.advance (silentPass 0)) ++ .key .key2 ::
        (List.replicate 13 (.advance (silentPass 0)) ++ .key .key1 ::
          List.replicate 13 (.advance (silentPass 0)))) :=
  requestedInVisit booted_bootedWorld _ (by decide +kernel)

/-- KEY1 and KEY2 are pressed on the page DISP_DATA before it is polled again,
and KEY2 once more on the menu. -/
def hastyVisit : List Input :=
  List.replicate 13 (.advance (silentPass 0)) ++ .key .key2 ::
    (List.replicate 13 (.advance (silentPass 0)) ++ .key .key1 :: .key .key2 ::
      (List.replicate 13 (.advance (silentPass 0)) ++ .key .key2 ::
        List.replicate 23 (.advance (silentPass 0))))

/-- The save waits for the next visit. -/
theorem hastyVisit_leftOver :
    ¬∀ (w : World) (inputs : List Input), Booted w →
      Along Config.step KeysBetweenCalls (.start w) inputs →
      Always Config.step (fun c => Justified RequestedInVisit c.world.history) (.start w)
        inputs := by
  intro h
  apply absurd (h bootedWorld hastyVisit booted_bootedWorld (by decide +kernel))
  apply not_always_of_last
  decide +kernel

end WeatherStation
