import WeatherStation.Lib.Periodic
import WeatherStation.MainLoop

/-! When the polling functions run their bodies.  The tick counter wraps around
after 2³² ticks, and each pass of the main loop may take its time. -/
namespace WeatherStation
open Lib Gpio

def rtTickPerSecond : UInt32 := 1000

def rtTickGetMillisecond (rtTick : UInt32) : UInt32 :=
  if 1000 % rtTickPerSecond = 0 then rtTick * (1000 / rtTickPerSecond) else 0

/-- The milliseconds that the code sees at a true time since boot. -/
def seen (time : ℕ) : UInt32 := rtTickGetMillisecond (UInt32.ofNat time)

theorem seen_eq (time : ℕ) : seen time = UInt32.ofNat time := by
  have hexact : ∀ rtTick, rtTickGetMillisecond rtTick = rtTick * 1 := fun _ => rfl
  rw [seen, hexact, UInt32.mul_one]

/-- The body of a sensor poll, whose pointer is not null there. -/
def readBlock {δ : Type} (sensor : Sensor) (owner : World → Owner δ) (read : Nat → World → World)
    (w : World) : World :=
  match (owner w).pointer with
  | none => w
  | some block => read block (w.record (.getData sensor block ((owner w).heap.Live block)))

inductive Poll where
  | hmc5883l | bme280 | ltr390 | gp2y1014au0f | lm386 | sdCard
  deriving DecidableEq, Repr

namespace Poll

def clock : Poll → Clock
  | hmc5883l => .hmc5883l
  | bme280 => .bme280
  | ltr390 => .ltr390
  | gp2y1014au0f => .gp2y1014au0f
  | lm386 => .lm386
  | sdCard => .data

def tick (env : PollEnv) : Poll → UInt32
  | hmc5883l => env.hmc5883l.tick
  | bme280 => env.bme280.tick
  | ltr390 => env.ltr390.tick
  | gp2y1014au0f => env.gp2y1014au0f.tick
  | lm386 => env.lm386.tick
  | sdCard => env.dataTick

/-- The device pointer is not null, where the function has one. -/
def present (w : World) : Poll → Bool
  | hmc5883l => w.hmc5883l.pointer.isSome
  | bme280 => w.bme280.pointer.isSome
  | ltr390 => w.ltr390.pointer.isSome
  | gp2y1014au0f => true
  | lm386 => true
  | sdCard => true

def test (env : PollEnv) : Poll → World → World
  | hmc5883l => myHmc5883lTest env.atan2 env.hmc5883l
  | bme280 => myBme280Test env.bme280
  | ltr390 => myLtr390Test env.ltr390
  | gp2y1014au0f => myGp2y1014au0fTest env.gp2y1014au0f
  | lm386 => myLm386Test env.lm386
  | sdCard => mySdCardTest env.dataTick env.save

/-- What the function does once it has restarted its timer: it calls `get_data` and keeps
what that measured, or it saves. -/
def body (env : PollEnv) : Poll → World → World
  | hmc5883l => readBlock .hmc5883l (·.hmc5883l) (hmc5883lBody env.atan2 env.hmc5883l)
  | bme280 => readBlock .bme280 (·.bme280) (bme280Body env.bme280)
  | ltr390 => readBlock .ltr390 (·.ltr390) (ltr390Body env.ltr390)
  | gp2y1014au0f => gp2y1014au0fBody env.gp2y1014au0f
  | lm386 => lm386Body env.lm386
  | sdCard => sdCardBody env.save

/-- The call in `w` executes the body or, otherwise, takes the time and does nothing else. -/
def Outcome (poll : Poll) (env : PollEnv) (w : World) (executes : Bool) : Prop :=
  poll.test env w =
    if executes then poll.body env (w.setTimer poll.clock (·.restart (poll.tick env)))
    else w.setTimer poll.clock (·.sample (poll.tick env))

/-- The order of the calls in the body of the main loop. -/
def order : List Poll := [hmc5883l, bme280, ltr390, gp2y1014au0f, lm386, sdCard]

def testAll (env : PollEnv) (polls : List Poll) (w : World) : World :=
  polls.foldl (fun w poll => poll.test env w) w

/-- The state in which a pass that begins in `w` calls the function. -/
def before (poll : Poll) (env : PollEnv) (w : World) : World :=
  testAll env (order.takeWhile (· ≠ poll)) w

/-- The condition of the function, under which its body runs. -/
def runsBody (poll : Poll) (env : PollEnv) (w : World) : Bool :=
  (w.timers poll.clock).due (poll.tick env) && poll.present w

end Poll

theorem polls_eq_testAll (env : PollEnv) (w : World) :
    polls env w = mainOutput env.mainOutputTick (Poll.testAll env Poll.order w) := by
  simp only [polls, sensorPolls, Poll.testAll, Poll.order, List.foldl_cons, List.foldl_nil,
    Poll.test]

section
variable {δ : Type} {sensor : Sensor} {clock : Clock} {owner : World → Owner δ} {tick : UInt32}
  {read : Nat → World → World} {body : World → World} {w : World}

theorem polled_isSome {timer : Timer} {owner : Owner δ} :
    (polled timer owner tick).isSome = (timer.due tick && owner.pointer.isSome) := by
  unfold polled
  cases timer.due tick <;> rfl

theorem pollSensor_timers (hread : ∀ block w, (read block w).timers = w.timers) :
    (pollSensor sensor clock owner tick read w).timers =
      Function.update w.timers clock
        (if (w.timers clock).due tick && (owner w).pointer.isSome then
          (w.timers clock).restart tick
        else (w.timers clock).sample tick) := by
  rw [← polled_isSome]
  cases hpolled : polled (w.timers clock) (owner w) tick with
  | none =>
    rw [pollSensor_none hpolled]
    rfl
  | some block =>
    rw [pollSensor_some hpolled, hread]
    rfl

theorem pollSensor_eq (howner : ∀ update, owner (w.setTimer clock update) = owner w) :
    pollSensor sensor clock owner tick read w =
      if (w.timers clock).due tick && (owner w).pointer.isSome then
        readBlock sensor owner read (w.setTimer clock (·.restart tick))
      else w.setTimer clock (·.sample tick) := by
  rw [← polled_isSome]
  cases hpolled : polled (w.timers clock) (owner w) tick with
  | none => exact pollSensor_none hpolled
  | some block =>
    have hpointer : (owner w).pointer = some block := by
      unfold polled at hpolled
      split at hpolled
      · exact hpolled
      · exact absurd hpolled (Option.some_ne_none block).symm
    rw [pollSensor_some hpolled, Option.isSome_some, if_pos rfl, readBlock, howner, hpointer]

theorem pollDue_eq :
    pollDue clock tick body w =
      if (w.timers clock).due tick then body (w.setTimer clock (·.restart tick))
      else w.setTimer clock (·.sample tick) := by
  cases hdue : (w.timers clock).due tick with
  | false => exact pollDue_not hdue
  | true => exact pollDue_due hdue

theorem pollDue_timers (hbody : ∀ w, (body w).timers = w.timers) :
    (pollDue clock tick body w).timers =
      Function.update w.timers clock
        (if (w.timers clock).due tick then (w.timers clock).restart tick
        else (w.timers clock).sample tick) := by
  cases hdue : (w.timers clock).due tick with
  | false =>
    rw [pollDue_not hdue]
    rfl
  | true =>
    rw [pollDue_due hdue, hbody]
    rfl

end

namespace Poll
variable {env : PollEnv} {w : World}

theorem test_timers (poll : Poll) :
    (poll.test env w).timers =
      Function.update w.timers poll.clock
        (if poll.runsBody env w then (w.timers poll.clock).restart (poll.tick env)
        else (w.timers poll.clock).sample (poll.tick env)) := by
  cases poll with
  | hmc5883l => exact pollSensor_timers fun _ _ => rfl
  | bme280 => exact pollSensor_timers fun _ _ => rfl
  | ltr390 => exact pollSensor_timers fun _ _ => rfl
  | gp2y1014au0f =>
    rw [runsBody, present, Bool.and_true]
    exact pollDue_timers fun _ => rfl
  | lm386 =>
    rw [runsBody, present, Bool.and_true]
    exact pollDue_timers fun _ => rfl
  | sdCard =>
    rw [runsBody, present, Bool.and_true]
    apply pollDue_timers
    intro w
    rw [sdCardBody, sdcardSaveCurrData_eq]
    rfl

/-- The condition decides between the body and nothing. -/
theorem outcome_runsBody (poll : Poll) : poll.Outcome env w (poll.runsBody env w) := by
  unfold Outcome
  cases poll with
  | hmc5883l => exact pollSensor_eq fun _ => rfl
  | bme280 => exact pollSensor_eq fun _ => rfl
  | ltr390 => exact pollSensor_eq fun _ => rfl
  | gp2y1014au0f =>
    rw [runsBody, present, Bool.and_true]
    exact pollDue_eq
  | lm386 =>
    rw [runsBody, present, Bool.and_true]
    exact pollDue_eq
  | sdCard =>
    rw [runsBody, present, Bool.and_true]
    exact pollDue_eq

theorem present_setTimer (poll : Poll) (w : World) (clock : Clock) (update : Timer → Timer) :
    poll.present (w.setTimer clock update) = poll.present w := by
  cases poll <;> rfl

theorem present_record (poll : Poll) (w : World) (event : Event) :
    poll.present (w.record event) = poll.present w := by
  cases poll <;> rfl

theorem present_test (poll other : Poll) : other.present (poll.test env w) = other.present w := by
  have htimer := present_setTimer other
  have hrecord := present_record other
  cases poll with
  | hmc5883l =>
    apply pollSensor_frame (f := other.present) (fun w => htimer w _) hrecord
    cases other <;> exact fun _ _ => rfl
  | bme280 =>
    apply pollSensor_frame (f := other.present) (fun w => htimer w _) hrecord
    cases other <;> exact fun _ _ => rfl
  | ltr390 =>
    apply pollSensor_frame (f := other.present) (fun w => htimer w _) hrecord
    cases other <;> exact fun _ _ => rfl
  | gp2y1014au0f =>
    apply pollDue_frame (f := other.present) fun w => htimer w _
    cases other <;> exact fun _ => rfl
  | lm386 =>
    apply pollDue_frame (f := other.present) fun w => htimer w _
    cases other <;> exact fun _ => rfl
  | sdCard =>
    apply pollDue_frame (f := other.present) fun w => htimer w _
    intro w
    rw [sdCardBody, sdcardSaveCurrData_eq]
    cases other <;> rfl

theorem clock_injective {poll other : Poll} (h : other ≠ poll) : other.clock ≠ poll.clock := by
  revert h
  cases poll <;> cases other <;> decide

theorem clock_ne_mainOutput (poll : Poll) : poll.clock ≠ .mainOutput := by cases poll <;> decide

theorem clock_ne_dispData (poll : Poll) : poll.clock ≠ .dispData := by cases poll <;> decide

theorem testAll_other {poll : Poll} {polls : List Poll} (h : ∀ other ∈ polls, other ≠ poll)
    (w : World) : (testAll env polls w).timers poll.clock = w.timers poll.clock := by
  induction polls generalizing w with
  | nil => rfl
  | cons other polls ih =>
    rw [List.forall_mem_cons] at h
    have hclock := clock_injective h.1
    exact (ih h.2 (other.test env w)).trans
      (by rw [test_timers, Function.update_of_ne hclock.symm])

theorem testAll_present (poll : Poll) (polls : List Poll) (w : World) :
    poll.present (testAll env polls w) = poll.present w := by
  induction polls generalizing w with
  | nil => rfl
  | cons other polls ih => exact (ih (other.test env w)).trans (present_test other poll)

theorem before_ne (poll : Poll) : ∀ other ∈ order.takeWhile (· ≠ poll), other ≠ poll := by
  cases poll <;> decide

/-- The calls before its own do not matter to a function. -/
theorem runsBody_before (poll : Poll) :
    poll.runsBody env (poll.before env w) = poll.runsBody env w := by
  unfold runsBody before
  rw [testAll_other poll.before_ne, testAll_present]

/-- The order of a pass around one of its calls. -/
theorem order_split (poll : Poll) :
    ∃ later, order = order.takeWhile (· ≠ poll) ++ poll :: later ∧
      ∀ other ∈ later, other ≠ poll := by
  cases poll with
  | hmc5883l => exact ⟨[bme280, ltr390, gp2y1014au0f, lm386, sdCard], rfl, by decide⟩
  | bme280 => exact ⟨[ltr390, gp2y1014au0f, lm386, sdCard], rfl, by decide⟩
  | ltr390 => exact ⟨[gp2y1014au0f, lm386, sdCard], rfl, by decide⟩
  | gp2y1014au0f => exact ⟨[lm386, sdCard], rfl, by decide⟩
  | lm386 => exact ⟨[sdCard], rfl, by decide⟩
  | sdCard => exact ⟨[], rfl, by decide⟩

/-- What a pass of polls does to the timer of one function. -/
theorem polls_prevMilli (poll : Poll) :
    ((polls env w).timers poll.clock).prevMilli =
      if poll.runsBody env (poll.before env w) then poll.tick env
      else (w.timers poll.clock).prevMilli := by
  obtain ⟨later, horder, hlater⟩ := order_split poll
  have hsplit : testAll env order w = testAll env later (poll.test env (poll.before env w)) := by
    rw [horder, testAll, List.foldl_append]
    rfl
  have hbefore : (poll.before env w).timers poll.clock = w.timers poll.clock :=
    testAll_other poll.before_ne w
  have houtput : (polls env w).timers poll.clock = (testAll env order w).timers poll.clock := by
    rw [polls_eq_testAll, mainOutput, @pollDue_timers _ _ id _ fun _ => rfl,
      Function.update_of_ne poll.clock_ne_mainOutput]
  rw [houtput, hsplit, testAll_other hlater, test_timers, Function.update_self, hbefore]
  split <;> rfl

end Poll

/-- Not the beginning of the next pass. -/
def Config.WithinPass (c : Config) : Input → Prop
  | .key _ => True
  | .advance _ => c.thread ≠ .polls

/-- The states in which the passes of an endless run of the main loop begin, with
the surroundings of their polls. -/
def Passes (envs : ℕ → PollEnv) (worlds : ℕ → World) : Prop :=
  ∀ pass, ∃ inputs,
    Along Config.step Config.WithinPass ⟨.ready, polls (envs pass) (worlds pass)⟩ inputs ∧
      runs Config.step ⟨.ready, polls (envs pass) (worlds pass)⟩ inputs =
        .start (worlds (pass + 1))

theorem running_within (program : Prog RtErr) (w : World) (env : IterEnv) :
    ∃ inputs, Along Config.step Config.WithinPass ⟨.running program, w⟩ inputs ∧
      runs Config.step ⟨.running program, w⟩ inputs = .start (program.exec w) := by
  have hrunning : ∀ (program : Prog RtErr) (w : World),
      Config.WithinPass ⟨.running program, w⟩ (.advance env) := fun _ _ => nofun
  induction program generalizing w with
  | done a => exact ⟨[.advance env], ⟨hrunning (.done a) w, trivial⟩, rfl⟩
  | step label update rest ih =>
    obtain ⟨inputs, hwithin, hruns⟩ := ih w (update w)
    exact ⟨.advance env :: inputs, ⟨hrunning (.step label update rest) w, hwithin⟩, hruns⟩

/-- Passes without interrupts make up a run of the loop. -/
theorem passes_of_pass {envs : ℕ → IterEnv} {worlds : ℕ → World}
    (h : ∀ pass, worlds (pass + 1) = (worlds pass).pass (envs pass)) :
    Passes (fun pass => (envs pass).poll) worlds := by
  intro pass
  rw [h pass, World.pass]
  generalize polls (envs pass).poll (worlds pass) = w
  obtain ⟨inputs, hwithin, hruns⟩ := running_within (mainFunc (envs pass).func) w (envs pass)
  have hready : Config.WithinPass ⟨.ready, w⟩ (.advance (envs pass)) := nofun
  exact ⟨.advance (envs pass) :: inputs, ⟨hready, hwithin⟩, hruns⟩

/-- No statement of `mainFunc` restarts the timer of a poll. -/
theorem Statement.prevMilli {label : Stmt} {update : World → World}
    (h : Statement label update) (w : World) {clock : Clock} (hclock : clock ≠ .dispData) :
    ((update w).timers clock).prevMilli = (w.timers clock).prevMilli := by
  rcases h.cases with hordinary | ⟨env, _, rfl⟩ | ⟨dfsUnmount, _, rfl⟩
  · rw [(hordinary.harmless w).timers clock hclock]
  · dsimp only
    rw [sdcardSaveCurrData_eq]
    rfl
  · dsimp only
    rw [sdCardEject_eq]
    by_cases hdata : clock = .data
    · subst hdata
      dsimp only
      rw [Function.update_self]
      rfl
    · exact congrArg Timer.prevMilli (Function.update_of_ne hdata ..)

/-- Only an eject assigns a period, that of the save. -/
theorem Statement.delay {label : Stmt} {update : World → World}
    (h : Statement label update) (w : World) {clock : Clock} (hclock : clock ≠ .dispData)
    (hdata : clock ≠ .data) : ((update w).timers clock).delay = (w.timers clock).delay := by
  rcases h.cases with hordinary | ⟨env, _, rfl⟩ | ⟨dfsUnmount, _, rfl⟩
  · rw [(hordinary.harmless w).timers clock hclock]
  · dsimp only
    rw [sdcardSaveCurrData_eq]
    rfl
  · dsimp only
    rw [sdCardEject_eq]
    exact congrArg Timer.delay (Function.update_of_ne hdata ..)

theorem World.pass_delay (w : World) (env : IterEnv) {clock : Clock} (hclock : clock ≠ .dispData)
    (hdata : clock ≠ .data) : ((w.pass env).timers clock).delay = (w.timers clock).delay := by
  have hkept : ∀ (label : Stmt) (update : World → World) (w' : World), Statement label update →
      (w'.timers clock).delay = (w.timers clock).delay →
        ((update w').timers clock).delay = (w.timers clock).delay :=
    fun _ _ w' hlabel hw' => (hlabel.delay w' hclock hdata).trans hw'
  have hpolls := polls_delay env.poll w clock
  rw [World.pass]
  generalize polls env.poll w = polled at hpolls ⊢
  exact (mainFunc_statements env.func).exec hkept hpolls

theorem Config.step_prevMilli {c : Config} {input : Input} (hc : c.Statements)
    (hinput : c.WithinPass input) {clock : Clock} (hclock : clock ≠ .dispData) :
    ((c.step input).world.timers clock).prevMilli = (c.world.timers clock).prevMilli := by
  obtain ⟨thread, w⟩ := c
  cases input with
  | key key => exact congrArg Timer.prevMilli ((World.Harmless.press w key).timers clock hclock)
  | advance env =>
    cases thread with
    | polls => exact absurd rfl hinput
    | ready => rfl
    | running program =>
      cases program with
      | done a => rfl
      | step label update rest => exact hc.1.prevMilli w hclock

theorem Passes.prevMilli {envs : ℕ → PollEnv} {worlds : ℕ → World} (h : Passes envs worlds)
    (poll : Poll) (pass : ℕ) :
    ((worlds (pass + 1)).timers poll.clock).prevMilli =
      ((polls (envs pass) (worlds pass)).timers poll.clock).prevMilli := by
  obtain ⟨inputs, hwithin, hruns⟩ := h pass
  generalize polls (envs pass) (worlds pass) = w at hwithin hruns ⊢
  have hkept : ∀ (c : Config) (input : Input),
      (c.Statements ∧ (c.world.timers poll.clock).prevMilli = (w.timers poll.clock).prevMilli) →
      c.WithinPass input → (c.step input).Statements ∧
        ((c.step input).world.timers poll.clock).prevMilli =
          (w.timers poll.clock).prevMilli := by
    intro c input hc hinput
    exact ⟨hc.1.step input,
      (Config.step_prevMilli hc.1 hinput poll.clock_ne_dispData).trans hc.2⟩
  have hready : Config.Statements ⟨.ready, w⟩ := trivial
  have hlast := runs_invariant hkept ⟨hready, rfl⟩ hwithin
  rw [hruns] at hlast
  exact hlast.2

def Poll.runsIn (poll : Poll) (envs : ℕ → PollEnv) (worlds : ℕ → World) (pass : ℕ) : Bool :=
  poll.runsBody (envs pass) (poll.before (envs pass) (worlds pass))

section
variable {poll : Poll} {period : UInt32} {time : ℕ → ℕ} {envs : ℕ → PollEnv} {worlds : ℕ → World}

/-- The timer remembers the last run of the body, modulo 2³². -/
theorem prevMilli_eq (hloop : Passes envs worlds)
    (hstart : ((worlds 0).timers poll.clock).prevMilli = 0)
    (htick : ∀ pass, poll.tick (envs pass) = seen (time pass)) (pass : ℕ) :
    ((worlds pass).timers poll.clock).prevMilli =
      UInt32.ofNat (lastAction time (poll.runsIn envs worlds) pass) := by
  induction pass with
  | zero => exact hstart
  | succ pass ih =>
    rw [hloop.prevMilli poll pass, poll.polls_prevMilli, lastAction]
    change (if poll.runsIn envs worlds pass = true then _ else _) = _
    split
    · rw [htick, seen_eq]
    · exact ih

/-- A call executes the body exactly when the period is over on the true clock since the
last execution, and two executions are at least a period apart. -/
theorem pollExact (hloop : Passes envs worlds)
    (hstart : ((worlds 0).timers poll.clock).prevMilli = 0)
    (hperiod : ∀ pass, ((worlds pass).timers poll.clock).delay = period)
    (hpresent : ∀ pass, poll.present (worlds pass) = true)
    (htick : ∀ pass, poll.tick (envs pass) = seen (time pass))
    (hmono : Monotone time) (hfirst : time 0 < 2 ^ 32)
    (hgap : ∀ pass, time (pass + 1) - time pass < 2 ^ 32 - period.toNat) :
    ∃ executes : ℕ → Bool,
      (∀ pass,
        poll.Outcome (envs pass) (poll.before (envs pass) (worlds pass)) (executes pass)) ∧
      (∀ pass, executes pass = true ↔
        period.toNat ≤ time pass - lastAction time executes pass) ∧
      ∀ earlier pass, earlier < pass → executes earlier = true → executes pass = true →
        period.toNat ≤ time pass - time earlier := by
  have hdue : ∀ pass,
      time pass - lastAction time (poll.runsIn envs worlds) pass < 2 ^ 32 →
      (poll.runsIn envs worlds pass = true ↔
        period.toNat ≤ time pass - lastAction time (poll.runsIn envs worlds) pass) := by
    intro pass hrange
    have hlast := @lastAction_le time (poll.runsIn envs worlds) hmono pass
    have hprev := prevMilli_eq hloop hstart htick pass
    have hruns : poll.runsIn envs worlds pass =
        decide ((worlds pass |>.timers poll.clock).delay ≤
          poll.tick (envs pass) - (worlds pass |>.timers poll.clock).prevMilli) := by
      rw [Poll.runsIn, poll.runsBody_before, Poll.runsBody, hpresent, Bool.and_true, Timer.due]
    rw [hruns, decide_eq_true_iff, hperiod, hprev, htick, seen_eq, UInt32.le_iff_toNat_le,
      toNat_ofNat_sub_ofNat hlast hrange]
  have hall : ∀ pass, poll.runsIn envs worlds pass = true ↔
      period.toNat ≤ time pass - lastAction time (poll.runsIn envs worlds) pass := by
    intro pass
    induction pass using Nat.strong_induction_on with
    | _ pass ih =>
      apply hdue pass
      apply sub_lastAction_lt hmono hfirst hgap
      intro earlier hlt hskips
      have hnot := (ih earlier hlt).not.mp (by rw [hskips]; exact Bool.false_ne_true)
      omega
  exact ⟨poll.runsIn envs worlds, fun pass => poll.outcome_runsBody, hall,
    fun earlier pass hlt => period_le_sub hmono (fun pass => (hall pass).mp) hlt⟩

end

/-- Undisturbed passes, 700 ms apart. -/
def steadyEnv (pass : ℕ) : IterEnv := silentPass (seen (700 * pass))

def steadyWorlds : ℕ → World
  | 0 => bootedWorld
  | pass + 1 => (steadyWorlds pass).pass (steadyEnv pass)

theorem steadyWorlds_succ (pass : ℕ) :
    steadyWorlds (pass + 1) = (steadyWorlds pass).pass (steadyEnv pass) := rfl

theorem steadyWorlds_delay (pass : ℕ) :
    ((steadyWorlds pass).timers Poll.gp2y1014au0f.clock).delay = 1000 := by
  induction pass with
  | zero => exact booted_bootedWorld.delay Poll.gp2y1014au0f.clock
  | succ pass ih =>
    rw [steadyWorlds_succ, World.pass_delay _ _ (by decide) (by decide)]
    exact ih

theorem pollExact_steady :
    ∃ executes : ℕ → Bool,
      (∀ pass, Poll.gp2y1014au0f.Outcome (steadyEnv pass).poll
        (Poll.gp2y1014au0f.before (steadyEnv pass).poll (steadyWorlds pass)) (executes pass)) ∧
      (∀ pass, executes pass = true ↔
        1000 ≤ 700 * pass - lastAction (700 * ·) executes pass) ∧
      ∀ earlier pass, earlier < pass → executes earlier = true → executes pass = true →
        1000 ≤ 700 * pass - 700 * earlier := by
  have hloop : Passes (fun pass => (steadyEnv pass).poll) steadyWorlds :=
    passes_of_pass steadyWorlds_succ
  have hstart : ((steadyWorlds 0).timers Poll.gp2y1014au0f.clock).prevMilli = 0 :=
    congrArg Timer.prevMilli (booted_bootedWorld.timers Poll.gp2y1014au0f.clock)
  have hpresent : ∀ pass, Poll.gp2y1014au0f.present (steadyWorlds pass) = true := fun _ => rfl
  have htick : ∀ pass, Poll.gp2y1014au0f.tick (steadyEnv pass).poll = seen (700 * pass) :=
    fun _ => rfl
  have hmono : Monotone (700 * · : ℕ → ℕ) := fun _ _ h => Nat.mul_le_mul_left 700 h
  have hgap : ∀ pass, 700 * (pass + 1) - 700 * pass < 2 ^ 32 - (1000 : UInt32).toNat := by
    intro pass
    have hperiod : (1000 : UInt32).toNat = 1000 := rfl
    omega
  exact pollExact hloop hstart steadyWorlds_delay hpresent htick hmono (by decide) hgap

end WeatherStation
