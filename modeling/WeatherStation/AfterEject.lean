import WeatherStation.Keys
import WeatherStation.Lib.History

/-! After an eject nothing is to be saved: the eject makes the period of the
automatic saves as long as it can be, and nothing more. -/
namespace WeatherStation
open Lib Gpio History

def Event.isSave : Event → Bool
  | .call (.sdcardSaveCurrData _) => true
  | _ => false

def SavedBeforeEject (event : Event) (earlier : List Event) : Prop :=
  event.isSave = true → .call .sdCardEject ∉ earlier

instance (event : Event) (earlier : List Event) : Decidable (SavedBeforeEject event earlier) :=
  inferInstanceAs (Decidable (_ → _))

/-- No save is requested when the page DISP_DATA looks for a request after an
eject. -/
def NoRequestAfterEject (label : Stmt) (w : World) : Prop :=
  label = .testIsSavingData → w.Ejected → w.ui.isSavingData = false

instance (label : Stmt) (w : World) : Decidable (NoRequestAfterEject label w) :=
  inferInstanceAs (Decidable (_ → _ → _))

/-- `my_sd_card_test` does not come exactly 2³² - 1 milliseconds after the last
automatic save. -/
def NotDueAfterEject (env : PollEnv) (w : World) : Prop :=
  w.Ejected → env.dataTick - (w.timers .data).prevMilli ≠ uint32Max

instance (env : PollEnv) (w : World) : Decidable (NotDueAfterEject env w) :=
  inferInstanceAs (Decidable (_ → _ ≠ _))

structure SavesStopped (w : World) : Prop where
  justified : Justified SavedBeforeEject w.history
  delay : w.Ejected → (w.timers .data).delay = uint32Max

/-- The longest period is over in one of 2³² milliseconds. -/
theorem Timer.due_uint32Max {timer : Timer} (h : timer.delay = uint32Max) (tick : UInt32) :
    timer.due tick = true ↔ tick - timer.prevMilli = uint32Max := by
  unfold Timer.due
  rw [h, decide_eq_true_iff, ge_iff_le, UInt32.le_iff_toNat_le, ← UInt32.toNat_inj]
  have hbound := (tick - timer.prevMilli).toNat_lt
  have hmax : uint32Max.toNat = 4294967295 := rfl
  omega

def Event.leavesCard : Event → Bool
  | .call (.sdcardSaveCurrData _) => false
  | .call .sdCardEject => false
  | _ => true

theorem Event.leavesCard_of_harmless {event : Event} (h : event.harmless = true) :
    event.leavesCard = true := by
  unfold Event.leavesCard
  split <;> simp_all [Event.harmless, Event.quiet]

theorem SavedBeforeEject.of_leavesCard {event : Event} (h : event.leavesCard = true)
    (earlier : List Event) : SavedBeforeEject event earlier := by
  intro hsave
  unfold Event.isSave at hsave
  split at hsave
  · exact absurd h Bool.false_ne_true
  · exact absurd hsave Bool.false_ne_true

namespace SavesStopped
variable {w w' : World} {events : List Event}

theorem extend (h : SavesStopped w) (hhistory : w'.history = events ++ w.history)
    (hevents : ∀ event ∈ events, event.leavesCard = true)
    (hdelay : (w'.timers .data).delay = (w.timers .data).delay) : SavesStopped w' where
  justified := by
    rw [hhistory]
    exact h.justified.append fun event hevent => SavedBeforeEject.of_leavesCard (hevents event hevent)
  delay hejected := by
    rw [hdelay]
    apply h.delay
    apply (World.ejected_append hhistory ?_).mp hejected
    rintro event hevent rfl
    exact absurd (hevents _ hevent) Bool.false_ne_true

theorem harmless (h : SavesStopped w) (hw : w.Harmless w') : SavesStopped w' := by
  obtain ⟨events, hevents, hhistory⟩ := hw.history
  apply h.extend hhistory
  · exact fun event hevent => Event.leavesCard_of_harmless (hevents event hevent)
  · rw [hw.timers .data (by decide)]

theorem saveEvents_leavesCard (env : SaveEnv) (w : World) :
    ∀ event ∈ env.events w, event.leavesCard = true := by
  unfold SaveEnv.events SaveEnv.appends
  split <;> simp [Event.leavesCard]

theorem save (h : SavesStopped w) (hejected : ¬w.Ejected) {env : SaveEnv} {v : World}
    {manual : Bool}
    (hhistory : w'.history = env.events v ++ .call (.sdcardSaveCurrData manual) :: w.history) :
    SavesStopped w' where
  justified := by
    rw [hhistory]
    have hcall : Justified SavedBeforeEject (.call (.sdcardSaveCurrData manual) :: w.history) :=
      justified_cons.mpr ⟨fun _ => hejected, h.justified⟩
    exact hcall.append fun event hevent =>
      SavedBeforeEject.of_leavesCard (saveEvents_leavesCard env v event hevent)
  delay hafter := by
    have hcall : w'.history =
        (env.events v ++ [.call (.sdcardSaveCurrData manual)]) ++ w.history := by
      rw [hhistory, List.append_assoc, List.singleton_append]
    refine absurd ((World.ejected_append hcall ?_).mp hafter) hejected
    rintro event hevent rfl
    rcases List.mem_append.mp hevent with hsave | hcall
    · exact absurd (saveEvents_leavesCard env v _ hsave) Bool.false_ne_true
    · exact absurd (List.mem_singleton.mp hcall) (by simp)

theorem eject (h : SavesStopped w) (dfsUnmount : Int) :
    SavesStopped (sdCardEject dfsUnmount (w.record (.call .sdCardEject))) where
  justified := by
    rw [sdCardEject_eq]
    have hcall : Justified SavedBeforeEject (.call .sdCardEject :: w.history) :=
      justified_cons.mpr ⟨fun hsave => absurd hsave Bool.false_ne_true, h.justified⟩
    have hevents : ∀ event ∈ ejectEvents dfsUnmount, event.leavesCard = true := by
      simp [ejectEvents, Event.leavesCard]
    exact hcall.append fun event hevent => SavedBeforeEject.of_leavesCard (hevents event hevent)
  delay _ := by
    rw [sdCardEject_eq]
    simp

theorem polls (h : SavesStopped w) {env : PollEnv} (hdue : NotDueAfterEject env w) :
    SavesStopped (polls env w) := by
  have hhistory := polls_history env w
  have hdelay := polls_delay env w .data
  obtain ⟨events, hevents, hsensed⟩ := (World.Sensed.sensorPolls (w := w) env).history
  have hleaves : ∀ event ∈ events, event.leavesCard = true := by
    intro event hevent
    obtain ⟨sensor, block, live, rfl⟩ := hevents event hevent
    rfl
  by_cases hdata : (w.timers .data).due env.dataTick = true
  · have hejected : ¬w.Ejected := fun hejected =>
      hdue hejected ((Timer.due_uint32Max (h.delay hejected) _).mp hdata)
    have hmeasured : SavesStopped (sensorPolls env w) :=
      h.extend hsensed hleaves ((World.Sensed.sensorPolls env).delay .data)
    have hstill : ¬(sensorPolls env w).Ejected := by
      rw [World.ejected_append hsensed]
      · exact hejected
      · rintro event hevent rfl
        exact absurd (hleaves _ hevent) Bool.false_ne_true
    apply hmeasured.save hstill
    rw [hhistory, if_pos hdata, List.append_assoc, List.singleton_append]
  · apply h.extend (by rw [hhistory, if_neg hdata, List.nil_append, hsensed]) hleaves hdelay

end SavesStopped

abbrev ejectKeys : Surroundings Stmt World :=
  keys NoRequestAfterEject fun w => Justified SavedBeforeEject w.history

def ejectAssertion : Assertion ejectKeys where
  holds := SavesStopped
  stable := by
    rintro w _ h ⟨key, rfl⟩
    exact h.harmless (World.Harmless.press w key)
  guaranteed _ h := h.justified

/-- Between the test of the request and its save no eject can come. -/
def notEjected : Assertion ejectKeys where
  holds w := SavesStopped w ∧ ¬w.Ejected
  stable := by
    rintro w _ ⟨h, hejected⟩ ⟨key, rfl⟩
    rw [(World.Harmless.press w key).ejected]
    exact ⟨h.harmless (World.Harmless.press w key), hejected⟩
  guaranteed _ h := h.1.justified

theorem ejectAssertion_mainFunc (func : FuncEnv) :
    (mainFunc func).Triple ejectAssertion fun _ => ejectAssertion := by
  apply mainFunc_triple
  · exact fun label update w hlabel _ hw => SavesStopped.harmless hw (hlabel.harmless w)
  · apply dispDataSave_triple notEjected
    · intro w hw hgranted hsaving
      refine ⟨hw, fun hejected => ?_⟩
      rw [hgranted rfl hejected] at hsaving
      exact absurd hsaving Bool.false_ne_true
    · exact fun w hw => ⟨hw.1.harmless (.setUi _), hw.2⟩
    · intro w hw _
      rw [sdcardSaveCurrData_eq]
      exact hw.1.save hw.2 rfl
  · apply sdCardConfirm_triple ejectAssertion
    · exact fun w hw _ => hw
    · exact fun w hw => SavesStopped.harmless hw (.setUi _)
    · exact fun w hw _ => SavesStopped.eject hw func.dfsUnmount

theorem SavesStopped.booted {w : World} (h : Booted w) : SavesStopped w where
  justified := by
    have hnothing : Justified SavedBeforeEject (w.history ++ []) :=
      justified_nil.append fun event hevent =>
        SavedBeforeEject.of_leavesCard (Event.leavesCard_of_harmless (h.harmless event hevent))
    rwa [List.append_nil] at hnothing
  delay hejected := absurd (h.harmless _ hejected) Bool.false_ne_true

/-- After an eject nothing is saved in a run in which no request is pending then
and `my_sd_card_test` misses the one millisecond at which it is due. -/
theorem savedBeforeEject {w : World} (h : Booted w) (inputs : List Input)
    (hinputs : Along Config.step (Config.Granted NoRequestAfterEject NotDueAfterEject)
      (.start w) inputs) :
    Always Config.step (fun c => Justified SavedBeforeEject c.world.history) (.start w) inputs := by
  refine always_of_along (Config.Sound ejectAssertion) ?_ ?_ (SavesStopped.booted h) hinputs
  · exact fun c hc => hc.guaranteed
  · intro c input hc hgranted
    exact hc.step (fun env w hdue hw => SavesStopped.polls hw hdue) ejectAssertion_mainFunc hgranted

/-- The card is ejected: on the menu KEY1 moves the marker to SD_CARD. -/
def ejecting : List Input :=
  List.replicate 13 (.advance (silentPass 0)) ++
    .key .key1 :: .key .key1 :: .key .key2 ::
      (List.replicate 13 (.advance (silentPass 0)) ++
        .key .key1 :: List.replicate 13 (.advance (silentPass 0)))

theorem savedBeforeEject_ejecting :
    Always Config.step (fun c => Justified SavedBeforeEject c.world.history)
      (.start bootedWorld) ejecting :=
  savedBeforeEject booted_bootedWorld _ (by decide +kernel)

/-- Back on the menu and on to the page DISP_DATA, where KEY1 requests a save. -/
def ejectingThenSaving : List Input :=
  ejecting ++ .key .key2 :: (List.replicate 13 (.advance (silentPass 0)) ++
    .key .key1 :: .key .key1 :: .key .key2 :: (List.replicate 13 (.advance (silentPass 0)) ++
      .key .key1 :: List.replicate 13 (.advance (silentPass 0))))

theorem saveAfterEject :
    ¬∀ (w : World) (inputs : List Input), Booted w →
      Always Config.step (fun c => Justified SavedBeforeEject c.world.history) (.start w)
        inputs := by
  intro h
  apply absurd (h bootedWorld ejectingThenSaving booted_bootedWorld)
  apply not_always_of_last
  decide +kernel

end WeatherStation
