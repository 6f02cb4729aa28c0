import WeatherStation.Keys
import WeatherStation.Lib.History

/-! The choices of the delay pages and the periods of the timers: `config_delay`
assigns no period. -/
namespace WeatherStation
open Lib Gpio History

/-- The timer whose period a settings entry is about. -/
def SettingSelect.clock : SettingSelect → Option Clock
  | hmc5883l => some .hmc5883l
  | bme280 => some .bme280
  | ltr390 => some .ltr390
  | gp2y1014au0f => some .gp2y1014au0f
  | lm386 => some .lm386
  | autoSave => some .data
  | _ => none

def DelaySelect.milliseconds : DelaySelect → Option UInt32
  | d0_5 => some 500
  | d1 => some 1000
  | d2 => some 2000
  | d5 => some 5000
  | d10 => some 10000
  | d60 => some 60000
  | _ => none

/-- The period that a call of `config_delay` confirms for a timer. -/
def Event.confirms (clock : Clock) : Event → Option UInt32
  | .call (.configDelay setting delay) =>
    if setting.clock = some clock then delay.milliseconds else none
  | _ => none

def lastConfirmed (clock : Clock) (history : List Event) : UInt32 :=
  latest (Event.confirms clock) clock.initialDelay history

/-- An eject takes the timer of the automatic saves out of the user's hands. -/
def World.Governed (w : World) (clock : Clock) : Prop := clock = .data → ¬w.Ejected

instance (w : World) (clock : Clock) : Decidable (w.Governed clock) :=
  inferInstanceAs (Decidable (_ → _))

def PeriodsFollow (w : World) : Prop :=
  ∀ setting clock, SettingSelect.clock setting = some clock → w.Governed clock →
    (w.timers clock).delay = lastConfirmed clock w.history

/-- What `config_delay` is to confirm is the initial period anyway. -/
def ConfirmsInitial (label : Stmt) (w : World) : Prop :=
  label = .configDelay → ∀ clock ∈ w.ui.currSetting.clock,
    ∀ delay ∈ w.ui.currDelay.milliseconds, w.Governed clock → delay = clock.initialDelay

instance (label : Stmt) (w : World) : Decidable (ConfirmsInitial label w) :=
  have (clock : Clock) : Decidable (∀ delay ∈ w.ui.currDelay.milliseconds,
      w.Governed clock → delay = clock.initialDelay) := Option.decidableForallMem _
  have : Decidable (∀ clock ∈ w.ui.currSetting.clock, ∀ delay ∈ w.ui.currDelay.milliseconds,
      w.Governed clock → delay = clock.initialDelay) := Option.decidableForallMem _
  inferInstanceAs (Decidable (label = .configDelay → _))

theorem SettingSelect.clock_ne_dispData {setting : SettingSelect} {clock : Clock}
    (h : setting.clock = some clock) : clock ≠ .dispData := by
  rintro rfl
  cases setting <;> exact nomatch h

/-- The periods are the initial ones, and no choice says otherwise. -/
structure InitialPeriods (w : World) : Prop where
  delay : ∀ clock, clock ≠ .dispData → w.Governed clock →
    (w.timers clock).delay = clock.initialDelay
  confirmed : ∀ clock, w.Governed clock → lastConfirmed clock w.history = clock.initialDelay

theorem InitialPeriods.follow {w : World} (h : InitialPeriods w) : PeriodsFollow w := by
  intro setting clock hclock hgoverned
  rw [h.delay clock (SettingSelect.clock_ne_dispData hclock) hgoverned,
    h.confirmed clock hgoverned]

theorem World.Governed.earlier {w w' : World} {clock : Clock} {events : List Event}
    (h : w'.Governed clock) (hhistory : w'.history = events ++ w.history) : w.Governed clock := by
  intro hclock hejected
  apply h hclock
  rw [World.Ejected, hhistory]
  exact List.mem_append_right _ hejected

theorem InitialPeriods.extend {w w' : World} {events : List Event} (h : InitialPeriods w)
    (hhistory : w'.history = events ++ w.history)
    (hevents : ∀ event ∈ events, ∀ clock, event.confirms clock = none)
    (hdelay : ∀ clock, clock ≠ .dispData → w'.Governed clock →
      (w'.timers clock).delay = (w.timers clock).delay) : InitialPeriods w' where
  delay clock hclock hgoverned := by
    rw [hdelay clock hclock hgoverned]
    exact h.delay clock hclock (hgoverned.earlier hhistory)
  confirmed clock hgoverned := by
    rw [lastConfirmed, hhistory, latest_append fun event hevent => hevents event hevent clock]
    exact h.confirmed clock (hgoverned.earlier hhistory)

theorem Event.confirms_of_quiet {event : Event} (h : event.quiet = true) (clock : Clock) :
    event.confirms clock = none := by
  unfold Event.confirms
  split
  · exact nomatch h
  · rfl

theorem InitialPeriods.calm {w w' : World} (h : InitialPeriods w) (hw : w.Calm w') :
    InitialPeriods w' := by
  obtain ⟨events, hevents, hhistory⟩ := hw.history
  apply h.extend hhistory
  · exact fun event hevent => Event.confirms_of_quiet (hevents event hevent)
  · intro clock hclock _
    rw [hw.harmless.timers clock hclock]

theorem SaveEnv.events_confirms (env : SaveEnv) (w : World) :
    ∀ event ∈ env.events w, ∀ clock, event.confirms clock = none := by
  unfold SaveEnv.events SaveEnv.appends
  split <;> simp [Event.confirms]

section
variable {w : World}

theorem InitialPeriods.press (h : InitialPeriods w) (key : Key) : InitialPeriods (w.press key) := by
  have hdelay : ∀ clock, clock ≠ .dispData → (w.press key).Governed clock →
      ((w.press key).timers clock).delay = (w.timers clock).delay := by
    intro clock hclock _
    rw [(World.Harmless.press w key).timers clock hclock]
  cases hbound : w.bound key with
  | none =>
    rw [World.press_none hbound]
    exact h
  | some handler =>
    apply h.extend (World.press_history hbound) _ hdelay
    simp [Event.confirms]

theorem InitialPeriods.polls (h : InitialPeriods w) (env : PollEnv) :
    InitialPeriods (polls env w) := by
  have hevents := polls_events env w (SaveEnv.events_confirms env.save _) (fun _ => rfl)
    fun _ _ _ _ => rfl
  obtain ⟨events, hnothing, hhistory⟩ := hevents
  exact h.extend hhistory hnothing fun clock _ _ => polls_delay env w clock

theorem InitialPeriods.eject (h : InitialPeriods w) (dfsUnmount : Int) :
    InitialPeriods (sdCardEject dfsUnmount (w.record (.call .sdCardEject))) := by
  rw [sdCardEject_eq]
  have hhistory : ejectEvents dfsUnmount ++ .call .sdCardEject :: w.history =
      (ejectEvents dfsUnmount ++ [.call .sdCardEject]) ++ w.history := by
    rw [List.append_assoc, List.singleton_append]
  apply h.extend hhistory
  · simp [ejectEvents, Event.confirms]
  · intro clock _ hgoverned
    have hclock : clock ≠ .data := by
      intro hclock
      apply hgoverned hclock
      exact List.mem_append_right _ List.mem_cons_self
    exact congrArg Timer.delay (Function.update_of_ne hclock _ _)

theorem InitialPeriods.save (h : InitialPeriods w) (env : SaveEnv) :
    InitialPeriods (sdcardSaveCurrData env (w.record (.call (.sdcardSaveCurrData true)))) := by
  rw [sdcardSaveCurrData_eq]
  have hhistory : ∀ v, env.events v ++ .call (.sdcardSaveCurrData true) :: w.history =
      (env.events v ++ [.call (.sdcardSaveCurrData true)]) ++ w.history := by
    intro v
    rw [List.append_assoc, List.singleton_append]
  apply h.extend (hhistory _)
  · rw [List.forall_mem_append, List.forall_mem_singleton]
    exact ⟨SaveEnv.events_confirms env _, fun _ => rfl⟩
  · exact fun _ _ _ => rfl

/-- The call of `config_delay`, where only the history changes. -/
def World.confirm (w : World) : World :=
  (w.record (.call (.configDelay w.ui.currSetting w.ui.currDelay))).lcd [.setTextColor .green]

theorem lastConfirmed_confirm (w : World) (clock : Clock) :
    lastConfirmed clock w.confirm.history =
      ((Event.call (.configDelay w.ui.currSetting w.ui.currDelay)).confirms clock).getD
        (lastConfirmed clock w.history) := by
  have hhistory : w.confirm.history = [.lcd (.setTextColor .green)] ++
      .call (.configDelay w.ui.currSetting w.ui.currDelay) :: w.history := rfl
  unfold lastConfirmed
  rw [hhistory, latest_append (by simp [Event.confirms]), latest_cons]

theorem confirmsInitial_iff (w : World) :
    ConfirmsInitial .configDelay w ↔ ∀ clock, w.Governed clock →
      ∀ delay ∈ (Event.call (.configDelay w.ui.currSetting w.ui.currDelay)).confirms clock,
        delay = clock.initialDelay := by
  unfold ConfirmsInitial Event.confirms
  constructor
  · intro h clock hgoverned delay hdelay
    dsimp only at hdelay
    split at hdelay
    · rename_i hclock
      exact h rfl clock hclock delay hdelay hgoverned
    · exact nomatch hdelay
  · intro h _ clock hclock delay hdelay hgoverned
    apply h clock hgoverned
    dsimp only
    rw [if_pos (Option.mem_def.mp hclock)]
    exact hdelay

theorem confirm_harmless (w : World) : w.Harmless w.confirm := by
  have hlabel : Ordinary .configDelay World.confirm := rfl
  exact hlabel.harmless w

theorem confirm_governed (w : World) (clock : Clock) :
    w.confirm.Governed clock ↔ w.Governed clock := by
  unfold World.Governed
  rw [(confirm_harmless w).ejected]

theorem InitialPeriods.confirm (h : InitialPeriods w) (hinitial : ConfirmsInitial .configDelay w) :
    InitialPeriods w.confirm where
  delay clock hclock hgoverned := by
    rw [(confirm_harmless w).timers clock hclock]
    exact h.delay clock hclock ((confirm_governed w clock).mp hgoverned)
  confirmed clock hafter := by
    have hgoverned := (confirm_governed w clock).mp hafter
    rw [lastConfirmed_confirm, h.confirmed clock hgoverned]
    have hdelay := (confirmsInitial_iff w).mp hinitial clock hgoverned
    cases hconfirms : (Event.call (.configDelay w.ui.currSetting w.ui.currDelay)).confirms clock with
    | none => rfl
    | some delay => exact hdelay delay hconfirms

/-- Another choice than the initial period is not followed. -/
theorem InitialPeriods.confirm_follow (h : InitialPeriods w) (hfollow : PeriodsFollow w.confirm) :
    ConfirmsInitial .configDelay w := by
  rw [confirmsInitial_iff]
  intro clock hgoverned delay hdelay
  have hsetting : w.ui.currSetting.clock = some clock := by
    by_contra hother
    have hnone : (Event.call (.configDelay w.ui.currSetting w.ui.currDelay)).confirms clock =
        none := if_neg hother
    rw [hnone] at hdelay
    exact nomatch hdelay
  have hclock := SettingSelect.clock_ne_dispData hsetting
  have hafter := hfollow w.ui.currSetting clock hsetting ((confirm_governed w clock).mpr hgoverned)
  rw [lastConfirmed_confirm, Option.mem_def.mp hdelay, (confirm_harmless w).timers clock hclock,
    h.delay clock hclock hgoverned] at hafter
  exact hafter.symm

end

theorem InitialPeriods.statement {label : Stmt} {update : World → World}
    (hlabel : Statement label update) {w : World} (h : InitialPeriods w)
    (hinitial : ConfirmsInitial label w) : InitialPeriods (update w) := by
  rcases hlabel.cases with hordinary | ⟨env, rfl, rfl⟩ | ⟨dfsUnmount, rfl, rfl⟩
  · cases label with
    | clearSceneIsChanged scene =>
      obtain rfl := hordinary
      have hevents : ∀ event ∈ [.call (.enter scene)], ∀ clock, Event.confirms clock event = none := by
        simp [Event.confirms]
      exact h.extend rfl hevents fun _ _ _ => rfl
    | configDelay =>
      obtain rfl := hordinary
      exact h.confirm hinitial
    | saveCurrData env => exact hordinary.elim
    | eject dfsUnmount => exact hordinary.elim
    | _ => exact h.calm (hordinary w)
  · exact h.save env
  · exact h.eject dfsUnmount

theorem InitialPeriods.statement_follow {label : Stmt} {update : World → World}
    (hlabel : Statement label update) {w : World} (h : InitialPeriods w)
    (hfollow : PeriodsFollow (update w)) : ConfirmsInitial label w := by
  rintro rfl
  obtain rfl : update = World.confirm := hlabel
  exact h.confirm_follow hfollow rfl

abbrev periodKeys : Surroundings Stmt World := keys ConfirmsInitial InitialPeriods

def periodAssertion : Assertion periodKeys where
  holds := InitialPeriods
  stable := by
    rintro w _ h ⟨key, rfl⟩
    exact h.press key
  guaranteed _ h := h

theorem periodAssertion_mainFunc (func : FuncEnv) :
    (mainFunc func).Triple periodAssertion fun _ => periodAssertion :=
  (mainFunc_statements func).triple fun _ _ _ hlabel hgranted h =>
    InitialPeriods.statement hlabel h hgranted

theorem InitialPeriods.booted {w : World} (h : Booted w) : InitialPeriods w where
  delay clock _ _ := h.delay clock
  confirmed clock _ := by
    have hnothing : lastConfirmed clock (w.history ++ []) = lastConfirmed clock [] := by
      apply latest_append
      intro event hevent
      rcases h.events event hevent with hquiet | ⟨handler, rfl⟩
      · exact Event.confirms_of_quiet hquiet clock
      · rfl
    rw [List.append_nil] at hnothing
    exact hnothing

/-- The periods are the last choices in exactly the runs that confirm nothing
but the initial periods. -/
theorem periodsFollow_iff {w : World} (h : Booted w) (inputs : List Input) :
    Always Config.step (fun c => PeriodsFollow c.world) (.start w) inputs ↔
      Along Config.step (Config.Granted ConfirmsInitial fun _ _ => True) (.start w) inputs := by
  apply always_iff_along fun c => Config.Sound periodAssertion c ∧ c.Statements
  · exact fun c hc => hc.1.guaranteed.follow
  · intro c input hc hgranted
    exact ⟨hc.1.step (fun env w _ hw => InitialPeriods.polls hw env) periodAssertion_mainFunc
      hgranted, hc.2.step input⟩
  · intro c input hc hafter
    have hw := hc.1.guaranteed
    obtain ⟨thread, w⟩ := c
    cases input with
    | key key => exact Config.granted_key.mpr trivial
    | advance env =>
      cases thread with
      | polls => exact Config.granted_polls.mpr trivial
      | ready => exact Config.granted_ready.mpr trivial
      | running program =>
        cases program with
        | done a => exact Config.granted_done.mpr trivial
        | step label update rest =>
          simp only [Config.step_step] at hafter
          exact Config.granted_step.mpr (InitialPeriods.statement_follow hc.2.1 hw hafter)
  · exact ⟨InitialPeriods.booted h, trivial⟩

/-- The menu's marker goes to SETTINGS, and KEY2 opens the delay page of the
HMC5883L. -/
def openingDelayPage : List Input :=
  List.replicate 13 (.advance (silentPass 0)) ++
    .key .key1 :: .key .key1 :: .key .key1 :: .key .key2 ::
      (List.replicate 60 (.advance (silentPass 0)) ++
        .key .key2 :: List.replicate 60 (.advance (silentPass 0)))

/-- The second delay is one second, the initial period. -/
theorem periodsFollow_iff_oneSecond :
    Always Config.step (fun c => PeriodsFollow c.world) (.start bootedWorld)
      (openingDelayPage ++ .key .key1 :: .key .key2 ::
        List.replicate 60 (.advance (silentPass 0))) :=
  (periodsFollow_iff booted_bootedWorld _).mpr (by decide +kernel)

/-- Half a second is confirmed, and the period stays as it was. -/
theorem halfSecond_ignored :
    ¬∀ (w : World) (inputs : List Input), Booted w →
      Always Config.step (fun c => PeriodsFollow c.world) (.start w) inputs := by
  intro h
  have hrun := h bootedWorld (openingDelayPage ++ .key .key2 ::
    List.replicate 60 (.advance (silentPass 0))) booted_bootedWorld
  have hperiod := hrun.last .hmc5883l .hmc5883l rfl (by decide +kernel)
  revert hperiod
  decide +kernel

end WeatherStation
