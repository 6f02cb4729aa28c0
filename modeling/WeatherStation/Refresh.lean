import Mathlib.Data.List.Chain
import Mathlib.Data.List.TakeDrop
import WeatherStation.Lib.Periodic
import WeatherStation.PollTiming

/-! The refreshes of the page DISP_DATA and the times between them.  The refresh on entry
does not restart the timer of the later ones. -/
namespace WeatherStation
open Lib Gpio

/-- The times of the refreshes of a visit, newest first, after the events of a call at this
time.  The entry action of a scene begins a new visit. -/
def refreshes (time : ℕ) (before : List ℕ) : List Event → List ℕ
  | [] => before
  | .call (.enter _) :: _ => []
  | .call .dispDataUpdateData :: events => time :: refreshes time before events
  | _ :: events => refreshes time before events

/-- When `mainFunc` was called last, and the history and the refreshes of the visit then. -/
structure Moment where
  time : ℕ
  history : List Event
  before : List ℕ

def Moment.refreshes (moment : Moment) (w : World) : List ℕ :=
  WeatherStation.refreshes moment.time moment.before
    (w.history.take (w.history.length - moment.history.length))

/-- The main loop under the true time. -/
structure Timed where
  config : Config
  moment : Moment

namespace Timed

/-- The refreshes of the current visit. -/
def refreshes (s : Timed) : List ℕ := s.moment.refreshes s.config.world

def start (w : World) (time : ℕ) : Timed := ⟨.start w, ⟨time, w.history, []⟩⟩

/-- A call of `mainFunc` takes place at one moment; the keys interrupt it without any
regard to the time. -/
def step (s : Timed) (input : ℕ × Input) : Timed :=
  match s.config.thread, input.2 with
  | .ready, .advance _ =>
    ⟨s.config.step input.2, ⟨input.1, s.config.world.history, s.refreshes⟩⟩
  | _, _ => { s with config := s.config.step input.2 }

/-- The calls of `mainFunc` are less than 2³¹ milliseconds apart and see their times. -/
def OnTime (s : Timed) : ℕ × Input → Prop
  | (_, .key _) => True
  | (time, .advance env) => s.config.thread.isReady = true →
      s.moment.time ≤ time ∧ time - s.moment.time < 2 ^ 31 ∧ env.func.dispDataTick = seen time

end Timed

/-- `DISP_DATA_DELAY`. -/
def dispDataDelay : ℕ := (Clock.initialDelay .dispData).toNat

/-- No two refreshes of a visit are closer than `DISP_DATA_DELAY`. -/
def Spaced (refreshes : List ℕ) : Prop :=
  refreshes.IsChain fun later earlier => earlier + dispDataDelay ≤ later

/-- The visit has had no refresh but one, less than `DISP_DATA_DELAY` ago. -/
def justEntered (time : ℕ) : List ℕ → Bool
  | [entry] => time < entry + dispDataDelay
  | _ => false

/-- A call on the page just after the refresh on entry does not find the timer due, which
was last restarted in an earlier visit. -/
def Timed.EntryAwaited (s : Timed) : ℕ × Input → Prop
  | (_, .key _) => True
  | (time, .advance env) => s.config.thread.isReady = true →
      s.config.world.ui.currScene = .dispData → s.config.world.ui.sceneIsChanged = false →
      justEntered time s.refreshes = true →
      (s.config.world.timers .dispData).due env.func.dispDataTick = false

instance (s : Timed) : ∀ input, Decidable (s.OnTime input)
  | (_, .key _) => isTrue trivial
  | (_, .advance _) => inferInstanceAs (Decidable (_ → _))

instance (s : Timed) : ∀ input, Decidable (s.EntryAwaited input)
  | (_, .key _) => isTrue trivial
  | (_, .advance _) => inferInstanceAs (Decidable (_ → _))

instance (refreshes : List ℕ) : Decidable (Spaced refreshes) :=
  inferInstanceAs (Decidable (List.IsChain _ _))

/-! ### The refreshes of a call -/

section
variable {time : ℕ} {before : List ℕ}

theorem refreshes_append (new old : List Event) :
    refreshes time before (new ++ old) = refreshes time (refreshes time before old) new := by
  induction new with
  | nil => rfl
  | cons event new ih =>
    rw [List.cons_append]
    unfold refreshes
    split <;> simp_all

theorem refreshes_of_none {events : List Event}
    (h : ∀ event ∈ events, event ≠ .call .dispDataUpdateData) :
    refreshes time before events = before ∨ refreshes time before events = [] := by
  induction events with
  | nil => exact .inl rfl
  | cons event events ih =>
    obtain ⟨hevent, hevents⟩ := List.forall_mem_cons.mp h
    unfold refreshes
    split
    · exact .inl rfl
    · exact .inr rfl
    · simp_all
    · simp_all

end

namespace Moment
variable {moment : Moment} {w w' : World}

theorem refreshes_self (time : ℕ) (before : List ℕ) (w : World) :
    Moment.refreshes ⟨time, w.history, before⟩ w = before := by
  rw [Moment.refreshes, Nat.sub_self, List.take_zero]
  rfl

/-- Later events come on top. -/
theorem refreshes_of_history {events : List Event} (hbase : moment.history <:+ w.history)
    (hhistory : w'.history = events ++ w.history) :
    moment.refreshes w' =
      WeatherStation.refreshes moment.time (moment.refreshes w) events := by
  obtain ⟨old, hold⟩ := hbase
  have hw : w.history.take (w.history.length - moment.history.length) = old := by
    rw [← hold, List.length_append, Nat.add_sub_cancel, List.take_left]
  have hw' : w'.history.take (w'.history.length - moment.history.length) = events ++ old := by
    rw [hhistory, ← hold, ← List.append_assoc, List.length_append, Nat.add_sub_cancel,
      List.take_left]
  rw [Moment.refreshes, Moment.refreshes, hw, hw', refreshes_append]

theorem refreshes_unrefreshed (hbase : moment.history <:+ w.history) (h : w.Unrefreshed w') :
    moment.refreshes w' = moment.refreshes w ∨ moment.refreshes w' = [] := by
  obtain ⟨events, hevents, hhistory⟩ := h.history
  rw [refreshes_of_history hbase hhistory]
  exact refreshes_of_none hevents

end Moment

/-! ### Stages of a visit -/

/-- What is known of the refreshes of the visit and of their timer, or of a new visit. -/
structure Stage where
  holds : List ℕ → Timer → Prop
  spaced : ∀ refreshes timer, holds refreshes timer → Spaced refreshes
  anew : ∀ refreshes timer, holds refreshes timer → holds [] timer

abbrev refreshKeys (moment : Moment) : Surroundings Stmt World :=
  keys (fun _ _ => True) fun w => Spaced (moment.refreshes w)

/-- The stage that a call has reached. -/
structure Stage.At (stage : Stage) (moment : Moment) (w : World) : Prop where
  base : moment.history <:+ w.history
  holds : stage.holds (moment.refreshes w) (w.timers .dispData)

theorem Stage.At.unrefreshed {stage : Stage} {moment : Moment} {w w' : World}
    (h : stage.At moment w) (hw : w.Unrefreshed w') : stage.At moment w' where
  base := by
    obtain ⟨events, -, hhistory⟩ := hw.history
    rw [hhistory]
    exact h.base.trans (List.suffix_append _ _)
  holds := by
    rw [hw.timer]
    rcases moment.refreshes_unrefreshed h.base hw with hkept | hanew
    · rw [hkept]
      exact h.holds
    · rw [hanew]
      exact stage.anew _ _ h.holds

namespace Stage
variable {moment : Moment}

def reached (stage : Stage) (moment : Moment) : Assertion (refreshKeys moment) where
  holds := stage.At moment
  stable := by
    rintro w _ h ⟨key, rfl⟩
    exact h.unrefreshed (.press w key)
  guaranteed _ h := stage.spaced _ _ h.holds

/-- A stage, and a further one while the page variables allow it. -/
def reachedWhile (stage further : Stage) (moment : Moment) (condition : Ui → Prop)
    (hcondition : ∀ handler u, condition (Handler.call handler u) → condition u) :
    Assertion (refreshKeys moment) where
  holds w := stage.At moment w ∧ (condition w.ui → further.At moment w)
  stable := by
    rintro w _ ⟨h, hfurther⟩ ⟨key, rfl⟩
    refine ⟨h.unrefreshed (.press w key), fun hw => (hfurther ?_).unrefreshed (.press w key)⟩
    revert hw
    unfold World.press
    split
    · exact id
    · exact hcondition _ _
  guaranteed _ h := stage.spaced _ _ h.1.holds

/-- What refreshes nothing ends in the stage where it began. -/
theorem triple {α : Type} {program : Prog α} (stage : Stage)
    (h : Program.Every (fun _ update => ∀ w : World, w.Unrefreshed (update w)) program) :
    program.Triple (stage.reached moment) fun _ => stage.reached moment :=
  h.triple fun _ _ w hupdate _ hw => hw.unrefreshed (hupdate w)

theorem aside {α : Type} {program : Prog α} (stage : Stage) (h : Program.Every Aside program) :
    program.Triple (stage.reached moment) fun _ => stage.reached moment :=
  stage.triple (h.mono fun _ _ haside => haside.2)

end Stage

theorem spaced_cons {time : ℕ} {refreshes : List ℕ} :
    Spaced (time :: refreshes) ↔
      (∀ latest ∈ refreshes.head?, latest + dispDataDelay ≤ time) ∧ Spaced refreshes :=
  List.isChain_cons

/-- Between the refreshes.  Only a later refresh than the one on entry restarts the timer. -/
structure Kept (time : ℕ) (refreshes : List ℕ) (timer : Timer) : Prop where
  delay : timer.delay = Clock.initialDelay .dispData
  spaced : Spaced refreshes
  past : ∀ latest ∈ refreshes.head?, latest ≤ time
  restarted : ∀ latest earlier rest, refreshes = latest :: earlier :: rest →
    timer.prevMilli = UInt32.ofNat latest

namespace Kept
variable {time : ℕ} {refreshes : List ℕ} {timer : Timer}

theorem nil (hdelay : timer.delay = Clock.initialDelay .dispData) : Kept time [] timer :=
  ⟨hdelay, .nil, by simp, by simp⟩

theorem singleton (hdelay : timer.delay = Clock.initialDelay .dispData) :
    Kept time [time] timer := ⟨hdelay, .singleton _, by simp, by simp⟩

theorem later {later : ℕ} (h : Kept time refreshes timer) (hle : time ≤ later) :
    Kept later refreshes timer where
  delay := h.delay
  spaced := h.spaced
  past latest hlatest := (h.past latest hlatest).trans hle
  restarted := h.restarted

theorem sample (h : Kept time refreshes timer) (tick : UInt32) :
    Kept time refreshes (timer.sample tick) := ⟨h.delay, h.spaced, h.past, h.restarted⟩

end Kept

/-- A timer that is due was restarted a period ago or earlier. -/
theorem le_of_due {timer : Timer} {latest time : ℕ}
    (hdelay : timer.delay = Clock.initialDelay .dispData)
    (hrestarted : timer.prevMilli = UInt32.ofNat latest) (hle : latest ≤ time)
    (hdue : timer.due (seen time) = true) : latest + dispDataDelay ≤ time := by
  have hperiod : timer.delay.toNat ≤ (UInt32.ofNat time - UInt32.ofNat latest).toNat := by
    rw [Timer.due, decide_eq_true_eq, seen_eq, hrestarted] at hdue
    exact UInt32.le_iff_toNat_le.mp hdue
  have hgap := toNat_ofNat_sub_ofNat_le hle
  rw [hdelay] at hperiod
  unfold dispDataDelay
  omega

def Stage.idle (time : ℕ) : Stage where
  holds := Kept time
  spaced _ _ h := h.spaced
  anew _ _ h := .nil h.delay

/-- The entry action of a scene has begun. -/
def Stage.entered (time : ℕ) : Stage where
  holds refreshes timer := refreshes = [] ∧ Kept time refreshes timer
  spaced _ _ h := h.2.spaced
  anew _ _ h := ⟨rfl, .nil h.2.delay⟩

/-- The timer is not due too early. -/
def Stage.awaited (time : ℕ) : Stage where
  holds refreshes timer := Kept time refreshes timer ∧
    (justEntered time refreshes = true → timer.due (seen time) = false)
  spaced _ _ h := h.1.spaced
  anew _ _ h := ⟨.nil h.1.delay, Bool.noConfusion⟩

/-- The next refresh may come. -/
def Stage.due (time : ℕ) : Stage where
  holds refreshes timer := timer.delay = Clock.initialDelay .dispData ∧ Spaced (time :: refreshes)
  spaced _ _ h := (spaced_cons.mp h.2).2
  anew _ _ h := ⟨h.1, .singleton _⟩

/-- It is about to come. -/
def Stage.restarted (time : ℕ) : Stage where
  holds refreshes timer := timer.delay = Clock.initialDelay .dispData ∧
    Spaced (time :: refreshes) ∧ timer.prevMilli = UInt32.ofNat time
  spaced _ _ h := (spaced_cons.mp h.2.1).2
  anew _ _ h := ⟨h.1, .singleton _, h.2.2⟩

/-- If the timer is due, the last refresh is a period ago. -/
theorem spaced_of_due {time : ℕ} {refreshes : List ℕ} {timer : Timer}
    (h : Kept time refreshes timer)
    (hawaited : justEntered time refreshes = true → timer.due (seen time) = false)
    (hdue : timer.due (seen time) = true) : Spaced (time :: refreshes) := by
  refine spaced_cons.mpr ⟨fun latest hlatest => ?_, h.spaced⟩
  have hpast := h.past latest hlatest
  match refreshes, hlatest with
  | [entry], hlatest =>
    obtain rfl : entry = latest := Option.some.inj hlatest
    by_contra hearly
    have hentered : justEntered time [entry] = true := by
      rw [justEntered, decide_eq_true_eq]
      omega
    rw [hawaited hentered] at hdue
    exact Bool.false_ne_true hdue
  | first :: earlier :: rest, hlatest =>
    obtain rfl : first = latest := Option.some.inj hlatest
    exact le_of_due h.delay (h.restarted _ _ _ rfl) hpast hdue

/-! ### The scene DISP_DATA -/

section
variable {moment : Moment} {stage stage' : Stage} {w : World}

theorem refreshes_drawn {time : ℕ} {before : List ℕ} {events : List Event}
    (h : ∀ event ∈ events, ∃ op, event = .lcd op) : refreshes time before events = before := by
  induction events with
  | nil => rfl
  | cons event events ih =>
    obtain ⟨⟨op, rfl⟩, hevents⟩ := List.forall_mem_cons.mp h
    exact ih hevents

theorem dispDataUpdateData_history (w : World) :
    ∃ events : List Event, (∀ event ∈ events, ∃ op, event = .lcd op) ∧
      (dispDataUpdateData w).history = events ++ ([.call .dispDataUpdateData] ++ w.history) := by
  refine ⟨_, fun event hevent => ?_, rfl⟩
  rw [List.mem_reverse, List.mem_map] at hevent
  obtain ⟨op, -, rfl⟩ := hevent
  exact ⟨op, rfl⟩

theorem Stage.At.refresh (h : stage.At moment w)
    (hholds : ∀ refreshes timer, stage.holds refreshes timer →
      stage'.holds (moment.time :: refreshes) timer) : stage'.At moment (dispDataUpdateData w) := by
  obtain ⟨events, hevents, hhistory⟩ := dispDataUpdateData_history w
  rw [← List.append_assoc] at hhistory
  constructor
  · rw [hhistory]
    exact h.base.trans (List.suffix_append _ _)
  · rw [moment.refreshes_of_history h.base hhistory, refreshes_append, refreshes_drawn hevents]
    exact hholds _ _ h.holds

theorem Stage.At.setTimer {update : Timer → Timer} (h : stage.At moment w)
    (hholds : ∀ refreshes timer, stage.holds refreshes timer →
      stage'.holds refreshes (update timer)) : stage'.At moment (w.setTimer .dispData update) where
  base := h.base
  holds := by
    have htimer : (w.setTimer .dispData update).timers .dispData = update (w.timers .dispData) := by
      simp [World.setTimer]
    rw [htimer]
    exact hholds _ _ h.holds

theorem Stage.At.mono (h : stage.At moment w)
    (hholds : ∀ refreshes timer, stage.holds refreshes timer → stage'.holds refreshes timer) :
    stage'.At moment w := ⟨h.base, hholds _ _ h.holds⟩

/-- The entry action of a scene starts the record of a visit. -/
theorem Stage.At.enter (h : (Stage.idle moment.time).At moment w) (scene : Scene) :
    (Stage.entered moment.time).At moment
      ((w.setUi fun u => { u with sceneIsChanged := false }).record (.call (.enter scene))) where
  base := h.base.trans (List.suffix_cons _ _)
  holds := by
    have hhistory : ((w.setUi fun u => { u with sceneIsChanged := false }).record
        (.call (.enter scene))).history = [.call (.enter scene)] ++ w.history := rfl
    rw [moment.refreshes_of_history h.base hhistory]
    exact ⟨rfl, .nil h.holds.delay⟩

theorem sceneDispData_enter_triple :
    Program.Triple ((Stage.idle moment.time).reached moment) (do
      clearSceneIsChanged .dispData
      rebindKey1 .key1IrqDispData
      rebindKey2 .key2IrqDispData
      draw (dispDataTask (seen moment.time))
      return rtEok) fun _ => (Stage.idle moment.time).reached moment := by
  have hclear : (clearSceneIsChanged .dispData).Triple ((Stage.idle moment.time).reached moment)
      fun _ => (Stage.entered moment.time).reached moment :=
    .assignAt fun w hw _ => hw.enter .dispData
  have htask : (draw (dispDataTask (seen moment.time))).Triple
      ((Stage.entered moment.time).reached moment)
      fun _ => (Stage.idle moment.time).reached moment := by
    apply Program.Triple.assign
    intro w hw
    have hframe : (Stage.entered moment.time).At moment (w.lcd dispDataFrame) :=
      hw.unrefreshed (.of_draws (dispDataFrame_draws w))
    have hsample : (Stage.entered moment.time).At moment
        ((w.lcd dispDataFrame).setTimer .dispData (·.sample (seen moment.time))) :=
      hframe.setTimer fun _ _ h => ⟨h.1, h.2.sample _⟩
    apply hsample.refresh
    rintro _ timer ⟨rfl, h⟩
    exact .singleton h.delay
  exact hclear.bind fun _ => (Stage.aside _ (Aside.rebindKey1 _)).bind fun _ =>
    (Stage.aside _ (Aside.rebindKey2 _)).bind fun _ => htask.bind fun _ => .pure fun _ hw => hw

theorem dispDataPoll_triple :
    (dispDataPoll (seen moment.time)).Triple ((Stage.awaited moment.time).reached moment)
      fun _ => (Stage.idle moment.time).reached moment := by
  have hsample : (Program.assign fun w : World => w.setTimer .dispData (·.sample (seen moment.time)) :
      Prog Unit).Triple ((Stage.awaited moment.time).reached moment)
      fun _ => (Stage.awaited moment.time).reached moment :=
    .assign fun w hw => hw.setTimer fun _ _ h => ⟨h.1.sample _, h.2⟩
  have hread : (Program.read fun w : World => (w.timers .dispData).due (seen moment.time) :
      Prog Bool).Triple ((Stage.awaited moment.time).reached moment)
      fun due => if due then (Stage.due moment.time).reached moment
        else (Stage.idle moment.time).reached moment := by
    apply Program.Triple.read
    intro w hw
    cases hdue : (w.timers .dispData).due (seen moment.time) with
    | false => exact hw.mono fun _ _ h => h.1
    | true => exact ⟨hw.base, hw.holds.1.delay, spaced_of_due hw.holds.1 hw.holds.2 hdue⟩
  have hrestart : (Program.assign fun w : World =>
      w.setTimer .dispData (·.restart (seen moment.time)) : Prog Unit).Triple
      ((Stage.due moment.time).reached moment)
      fun _ => (Stage.restarted moment.time).reached moment :=
    .assign fun w hw => hw.setTimer fun _ _ h => ⟨h.1, h.2, seen_eq _⟩
  have hdraw : (draw dispDataUpdateData).Triple ((Stage.restarted moment.time).reached moment)
      fun _ => (Stage.idle moment.time).reached moment := by
    apply Program.Triple.assign
    intro w hw
    apply hw.refresh
    intro refreshes timer ⟨hdelay, hspaced, hrestarted⟩
    refine ⟨hdelay, hspaced, by simp, fun latest _ _ hlatest => ?_⟩
    rw [hrestarted, (List.cons.inj hlatest).1]
  apply hsample.bind
  intro _
  apply hread.bind
  intro due
  cases due with
  | false => exact .pure fun _ hw => hw
  | true => exact hrestart.bind fun _ => hdraw

end

/-! ### The other statements -/

theorem SaveEnv.events_unrefreshed (env : SaveEnv) (w : World) :
    ∀ event ∈ env.events w, event ≠ .call .dispDataUpdateData := by
  unfold SaveEnv.events SaveEnv.appends
  split <;> simp

theorem saveCurrData_unrefreshed (env : SaveEnv) (w : World) :
    w.Unrefreshed (sdcardSaveCurrData env (w.record (.call (.sdcardSaveCurrData true)))) := by
  apply World.Unrefreshed.trans (.record (.call (.sdcardSaveCurrData true)) (by simp))
  rw [sdcardSaveCurrData_eq]
  exact ⟨rfl, env.events _, env.events_unrefreshed _, rfl⟩

theorem sdCardEject_unrefreshed (dfsUnmount : Int) (w : World) :
    w.Unrefreshed (sdCardEject dfsUnmount (w.record (.call .sdCardEject))) := by
  apply World.Unrefreshed.trans (.record (.call .sdCardEject) (by simp))
  rw [sdCardEject_eq]
  have hclock : Clock.dispData ≠ .data := by decide
  refine ⟨?_, ejectEvents dfsUnmount, by simp [ejectEvents], rfl⟩
  dsimp only
  rw [Function.update_of_ne hclock]

theorem testAll_dispData (env : PollEnv) (order : List Poll) (w : World) :
    (Poll.testAll env order w).timers .dispData = w.timers .dispData := by
  induction order generalizing w with
  | nil => rfl
  | cons poll order ih =>
    refine (ih _).trans ?_
    rw [Poll.test_timers, Function.update_of_ne poll.clock_ne_dispData.symm]

theorem polls_unrefreshed (env : PollEnv) (w : World) : w.Unrefreshed (polls env w) where
  timer := by
    have hoff : ∀ w : World, (id w).timers = w.timers := fun _ => rfl
    rw [polls_eq_testAll, mainOutput, pollDue_timers hoff, Function.update_of_ne (by decide),
      testAll_dispData]
  history := polls_events env w (env.save.events_unrefreshed _) (by simp) (by simp)

section
variable {moment : Moment}

theorem Stage.dispDataSave (env : SaveEnv) (stage : Stage) :
    (dispDataSave env).Triple (stage.reached moment) fun _ => stage.reached moment := by
  apply stage.triple
  apply Program.Every.bind (.readAt fun w => .of_same rfl rfl)
  intro saving
  split
  · exact .bind (.assignAt fun w => .of_same rfl rfl) fun _ =>
      .assignAt (saveCurrData_unrefreshed env)
  · exact .pure _

theorem Stage.sdCardConfirm (dfsUnmount : Int) (stage : Stage) :
    (sdCardConfirm dfsUnmount).Triple (stage.reached moment) fun _ => stage.reached moment := by
  apply stage.triple
  apply Program.Every.bind (.readAt fun w => .of_same rfl rfl)
  intro ejecting
  split
  · exact .bind (.assignAt fun w => .of_same rfl rfl) fun _ =>
      .assignAt (sdCardEject_unrefreshed dfsUnmount)
  · exact .pure _

theorem Stage.sceneSdCard (func : FuncEnv) (stage : Stage) :
    (sceneSdCard func).Triple (stage.reached moment) fun _ => stage.reached moment := by
  apply (stage.aside (Aside.read _)).bind
  intro changed
  apply Program.Triple.ite
  · exact fun _ => stage.aside sceneSdCard_enter
  · exact fun _ => (stage.sdCardConfirm func.dfsUnmount).bind fun _ => .pure fun _ hw => hw

/-! ### A call of `mainFunc` -/

theorem Handler.call_unchanged (handler : Handler) (u : Ui)
    (h : (handler.call u).sceneIsChanged = false) :
    u.sceneIsChanged = false ∧ (handler.call u).currScene = u.currScene := by
  cases handler <;> first | exact ⟨h, rfl⟩ | exact nomatch h

/-- The flag of the entry action is not set. -/
def flagged (moment : Moment) : Assertion (refreshKeys moment) :=
  (Stage.idle moment.time).reachedWhile (Stage.awaited moment.time) moment
    (fun u => u.sceneIsChanged = false) fun handler u h => (handler.call_unchanged u h).1

/-- The call is to poll on the page DISP_DATA. -/
def called (moment : Moment) : Assertion (refreshKeys moment) :=
  (Stage.idle moment.time).reachedWhile (Stage.awaited moment.time) moment
    (fun u => u.currScene = .dispData ∧ u.sceneIsChanged = false) fun handler u h => by
      have hflag := handler.call_unchanged u h.2
      exact ⟨hflag.2 ▸ h.1, hflag.1⟩

theorem sceneDispData_refreshes {func : FuncEnv} (htick : func.dispDataTick = seen moment.time) :
    (sceneDispData func).Triple (flagged moment)
      fun _ => (Stage.idle moment.time).reached moment := by
  have hread : (readUi (·.sceneIsChanged)).Triple (flagged moment)
      fun changed => if changed = true then (Stage.idle moment.time).reached moment
        else (Stage.awaited moment.time).reached moment := by
    apply Program.Triple.read
    intro w hw
    dsimp only
    cases hchanged : w.ui.sceneIsChanged with
    | false => exact hw.2 hchanged
    | true => exact hw.1
  unfold sceneDispData
  rw [htick]
  apply hread.bind
  intro changed
  cases changed with
  | true => exact sceneDispData_enter_triple
  | false =>
    exact dispDataPoll_triple.bind fun _ => (Stage.dispDataSave _ _).bind fun _ =>
      .pure fun _ hw => hw

theorem mainFunc_refreshes {func : FuncEnv} (htick : func.dispDataTick = seen moment.time) :
    (mainFunc func).Triple (called moment) fun _ => (Stage.idle moment.time).reached moment := by
  have hread : (readUi (·.currScene)).Triple (called moment)
      fun scene => if scene = .dispData then flagged moment
        else (Stage.idle moment.time).reached moment := by
    apply Program.Triple.read
    intro w hw
    by_cases hscene : w.ui.currScene = .dispData
    · rw [if_pos hscene]
      exact ⟨hw.1, fun hchanged => hw.2 ⟨hscene, hchanged⟩⟩
    · rw [if_neg hscene]
      exact hw.1
  apply hread.bind
  intro scene
  cases scene with
  | menu => exact Stage.aside _ Aside.sceneMenu
  | dispData => exact sceneDispData_refreshes htick
  | takePhoto => exact Stage.aside _ Aside.sceneTakePhoto
  | sdCard => exact Stage.sceneSdCard func _
  | settings => exact Stage.aside _ Aside.sceneSettings
  | other _ => exact .pure fun _ hw => hw

end

/-! ### Runs -/

namespace Timed

/-- At the top of the loop and before the call the visit is idle, and a running call leads there. -/
def Sound (s : Timed) : Prop :=
  s.config.Sound ((Stage.idle s.moment.time).reached s.moment)

theorem Sound.spaced {s : Timed} (h : s.Sound) : Spaced s.refreshes := h.guaranteed

theorem step_eq {s : Timed} {time : ℕ} {input : Input}
    (h : s.config.thread.isReady = false ∨ ∃ key, input = .key key) :
    s.step (time, input) = { s with config := s.config.step input } := by
  obtain ⟨⟨thread, w⟩, moment⟩ := s
  cases thread <;> cases input <;> simp_all [step, Thread.isReady]

/-- The call begins. -/
theorem Sound.call {w : World} {moment : Moment} (h : Timed.Sound ⟨⟨.ready, w⟩, moment⟩)
    {time : ℕ} {env : IterEnv} (hclock : OnTime ⟨⟨.ready, w⟩, moment⟩ (time, .advance env))
    (hentry : EntryAwaited ⟨⟨.ready, w⟩, moment⟩ (time, .advance env)) :
    (step ⟨⟨.ready, w⟩, moment⟩ (time, .advance env)).Sound := by
  obtain ⟨hle, -, htick⟩ := hclock rfl
  have hw : (Stage.idle moment.time).At moment w := h
  have hkept : Kept time (moment.refreshes w) (w.timers .dispData) := hw.holds.later hle
  have hcalled : called ⟨time, w.history, moment.refreshes w⟩ w := by
    refine ⟨⟨List.suffix_rfl, ?_⟩, fun ⟨hscene, hchanged⟩ => ⟨List.suffix_rfl, ?_⟩⟩
    · rw [Moment.refreshes_self]
      exact hkept
    · rw [Moment.refreshes_self]
      exact ⟨hkept, fun hentered => htick ▸ hentry rfl hscene hchanged hentered⟩
  exact mainFunc_refreshes htick w hcalled

theorem Sound.step {s : Timed} {input : ℕ × Input} (h : s.Sound) (hclock : s.OnTime input)
    (hentry : s.EntryAwaited input) : (s.step input).Sound := by
  obtain ⟨time, input⟩ := input
  cases input with
  | key key =>
    rw [step_eq (.inr ⟨key, rfl⟩)]
    exact Config.Sound.press h key
  | advance env =>
    obtain ⟨⟨thread, w⟩, moment⟩ := s
    cases thread with
    | polls =>
      rw [step_eq (.inl rfl), Sound, Config.step_polls]
      exact Config.sound_ready.mpr
        (Stage.At.unrefreshed (Config.sound_polls.mp h) (polls_unrefreshed env.poll w))
    | ready => exact h.call hclock hentry
    | running program =>
      rw [step_eq (.inl rfl), Sound]
      have hsafe := Config.sound_running.mp h
      cases program with
      | done a => exact hsafe.post
      | step label update rest => exact hsafe.next trivial

theorem Sound.booted {w : World} (h : Booted w) (time : ℕ) : (start w time).Sound := by
  have hidle : (Stage.idle time).At ⟨time, w.history, []⟩ w := by
    refine ⟨List.suffix_rfl, ?_⟩
    rw [Moment.refreshes_self]
    exact .nil (h.delay .dispData)
  exact Config.sound_polls.mpr hidle

end Timed

/-- In every visit the refreshes are `DISP_DATA_DELAY` apart, in every run in which the
timer is not due just after an entry. -/
theorem refreshes_spaced {w : World} (h : Booted w) (time : ℕ) {inputs : List (ℕ × Input)}
    (hclock : Along Timed.step Timed.OnTime (.start w time) inputs)
    (hentry : Along Timed.step Timed.EntryAwaited (.start w time) inputs) :
    Always Timed.step (fun s => Spaced s.refreshes) (.start w time) inputs := by
  have hinputs : Along Timed.step (fun s input => s.OnTime input ∧ s.EntryAwaited input)
      (.start w time) inputs := along_and.mpr ⟨hclock, hentry⟩
  apply always_of_along Timed.Sound (fun s hs => hs.spaced) _ (.booted h time) hinputs
  exact fun s input hs hinput => hs.step hinput.1 hinput.2

/-- Steps of the loop at a time. -/
def stepsAt (time n : ℕ) : List (ℕ × Input) :=
  List.replicate n (time, .advance (silentPass (seen time)))

/-- KEY2 opens the page, which is entered at a time; the next call comes at another. -/
def openingAt (entry poll : ℕ) : List (ℕ × Input) :=
  stepsAt 100 13 ++ (100, .key .key2) :: (stepsAt entry 13 ++ stepsAt poll 9)

/-- In the first second the timer has not been due yet. -/
theorem refreshes_spaced_early :
    Always Timed.step (fun s => Spaced s.refreshes) (.start bootedWorld 0)
      (openingAt 500 900 ++ stepsAt 1500 8) :=
  refreshes_spaced booted_bootedWorld 0 (by decide +kernel) (by decide +kernel)

/-- Later the page is refreshed one millisecond after its entry. -/
theorem entry_notAwaited :
    ¬∀ (w : World) (time : ℕ) (inputs : List (ℕ × Input)), Booted w →
      Along Timed.step Timed.OnTime (.start w time) inputs →
      Always Timed.step (fun s => Spaced s.refreshes) (.start w time) inputs := by
  intro h
  have hspaced := (h bootedWorld 0 (openingAt 5000 5001) booted_bootedWorld (by decide +kernel)).last
  revert hspaced
  decide +kernel

end WeatherStation
