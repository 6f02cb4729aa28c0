import WeatherStation.Lib.Runs
import WeatherStation.Effects
import WeatherStation.Polls
import WeatherStation.Boot

/-! The main loop of main.c with key interrupts at any moment, and the rule
that lifts a triple for `mainFunc` to all runs of the loop. -/
namespace WeatherStation
open Lib Gpio

inductive Thread where
  /-- At the top of the loop body. -/
  | polls
  /-- About to call `mainFunc`. -/
  | ready
  | running (rest : Prog RtErr)

def Thread.isReady : Thread → Bool
  | ready => true
  | _ => false

def Thread.isRunning : Thread → Bool
  | running _ => true
  | _ => false

structure Config where
  thread : Thread
  world : World

structure IterEnv where
  poll : PollEnv
  func : FuncEnv

inductive Input where
  | key (key : Key)
  | advance (env : IterEnv)

namespace Config

/-- The polls do not read what the keys write, so they count as one step. -/
def step (c : Config) : Input → Config
  | .key key => { c with world := c.world.press key }
  | .advance env =>
    match c.thread with
    | .polls => ⟨.ready, WeatherStation.polls env.poll c.world⟩
    | .ready => ⟨.running (mainFunc env.func), c.world⟩
    | .running (.done _) => ⟨.polls, c.world⟩
    | .running (.step _ update rest) => ⟨.running (rest c.world), update c.world⟩

def start (w : World) : Config := ⟨.polls, w⟩

variable (w : World) (env : IterEnv)

@[simp] theorem step_key (c : Config) (key : Key) :
    c.step (.key key) = ⟨c.thread, c.world.press key⟩ := rfl

@[simp] theorem step_polls :
    step ⟨.polls, w⟩ (.advance env) = ⟨.ready, WeatherStation.polls env.poll w⟩ := rfl

@[simp] theorem step_ready :
    step ⟨.ready, w⟩ (.advance env) = ⟨.running (mainFunc env.func), w⟩ := rfl

@[simp] theorem step_done (a : RtErr) :
    step ⟨.running (.done a), w⟩ (.advance env) = ⟨.polls, w⟩ := rfl

@[simp] theorem step_step (label : Stmt) (update : World → World) (rest : World → Prog RtErr) :
    step ⟨.running (.step label update rest), w⟩ (.advance env) =
      ⟨.running (rest w), update w⟩ := rfl

end Config

/-- No key interrupts a call of `mainFunc`. -/
def KeysBetweenCalls (c : Config) : Input → Prop
  | .key _ => c.thread.isRunning = false
  | .advance _ => True

instance (c : Config) : ∀ input, Decidable (KeysBetweenCalls c input)
  | .key _ => inferInstanceAs (Decidable (c.thread.isRunning = false))
  | .advance _ => isTrue trivial

def Pressed (w w' : World) : Prop := ∃ key, w' = w.press key

/-- The surroundings of `mainFunc`: key interrupts. -/
def keys (grants : Stmt → World → Prop) (guarantees : World → Prop) :
    Surroundings Stmt World := ⟨Pressed, grants, guarantees⟩

section
variable {grants : Stmt → World → Prop} {guarantees : World → Prop}
  {pollGrants : PollEnv → World → Prop} (invariant : Assertion (keys grants guarantees))

/-- The condition on a step: on the polls, or on the next statement. -/
def Config.Granted (grants : Stmt → World → Prop) (pollGrants : PollEnv → World → Prop)
    (c : Config) : Input → Prop
  | .key _ => True
  | .advance env =>
    match c.thread with
    | .polls => pollGrants env.poll c.world
    | .running (.step label _ _) => grants label c.world
    | _ => True

@[simp] theorem Config.granted_key {c : Config} {key : Key} :
    c.Granted grants pollGrants (.key key) ↔ True := Iff.rfl

@[simp] theorem Config.granted_polls {w : World} {env : IterEnv} :
    Config.Granted grants pollGrants ⟨.polls, w⟩ (.advance env) ↔ pollGrants env.poll w := Iff.rfl

@[simp] theorem Config.granted_ready {w : World} {env : IterEnv} :
    Config.Granted grants pollGrants ⟨.ready, w⟩ (.advance env) ↔ True := Iff.rfl

@[simp] theorem Config.granted_done {a : RtErr} {w : World} {env : IterEnv} :
    Config.Granted grants pollGrants ⟨.running (.done a), w⟩ (.advance env) ↔ True := Iff.rfl

@[simp] theorem Config.granted_step {label : Stmt} {update : World → World}
    {rest : World → Prog RtErr} {w : World} {env : IterEnv} :
    Config.Granted grants pollGrants ⟨.running (.step label update rest), w⟩ (.advance env) ↔
      grants label w := Iff.rfl

instance [∀ label w, Decidable (grants label w)] [∀ env w, Decidable (pollGrants env w)]
    (c : Config) : ∀ input, Decidable (c.Granted grants pollGrants input)
  | .key _ => isTrue trivial
  | .advance env =>
    match c with
    | ⟨.polls, w⟩ => inferInstanceAs (Decidable (pollGrants env.poll w))
    | ⟨.ready, _⟩ => isTrue trivial
    | ⟨.running (.done _), _⟩ => isTrue trivial
    | ⟨.running (.step label _ _), w⟩ => inferInstanceAs (Decidable (grants label w))

def Config.Sound (c : Config) : Prop :=
  match c.thread with
  | .running program => program.Safe (keys grants guarantees) (fun _ => invariant.holds) c.world
  | _ => invariant c.world

variable {invariant}

@[simp] theorem Config.sound_polls {w : World} :
    Config.Sound invariant ⟨.polls, w⟩ ↔ invariant w := Iff.rfl

@[simp] theorem Config.sound_ready {w : World} :
    Config.Sound invariant ⟨.ready, w⟩ ↔ invariant w := Iff.rfl

@[simp] theorem Config.sound_running {program : Prog RtErr} {w : World} :
    Config.Sound invariant ⟨.running program, w⟩ ↔
      program.Safe (keys grants guarantees) (fun _ => invariant.holds) w := Iff.rfl

theorem Config.Sound.guaranteed {c : Config} (h : c.Sound invariant) : guarantees c.world := by
  obtain ⟨thread, w⟩ := c
  cases thread with
  | polls => exact invariant.guaranteed w h
  | ready => exact invariant.guaranteed w h
  | running program => exact (sound_running.mp h).guaranteed fun _ t ht => invariant.guaranteed t ht

theorem Config.Sound.press {c : Config} (h : c.Sound invariant) (key : Key) :
    Config.Sound invariant ⟨c.thread, c.world.press key⟩ := by
  obtain ⟨thread, w⟩ := c
  cases thread with
  | polls => exact invariant.stable w _ h ⟨key, rfl⟩
  | ready => exact invariant.stable w _ h ⟨key, rfl⟩
  | running program => exact sound_running.mpr ((sound_running.mp h).interfere ⟨key, rfl⟩)

variable (hpolls : ∀ env w, pollGrants env w → invariant w → invariant (polls env w))
  (hfunc : ∀ env, (mainFunc env).Triple invariant fun _ => invariant)
include hpolls hfunc

theorem Config.Sound.step {c : Config} {input : Input} (h : c.Sound invariant)
    (hgranted : c.Granted grants pollGrants input) : (c.step input).Sound invariant := by
  cases input with
  | key key => exact h.press key
  | advance env =>
    obtain ⟨thread, w⟩ := c
    cases thread with
    | polls =>
      rw [step_polls, sound_ready]
      exact hpolls env.poll w hgranted h
    | ready =>
      rw [step_ready, sound_running]
      exact hfunc env.func w h
    | running program =>
      have hsafe := sound_running.mp h
      cases program with
      | done a => exact hsafe.post
      | step label update rest => exact hsafe.next hgranted

theorem Config.Sound.run {c : Config} {inputs : List Input} (h : c.Sound invariant)
    (hinputs : Along Config.step (Config.Granted grants pollGrants) c inputs) :
    (runs Config.step c inputs).Sound invariant :=
  runs_invariant (fun _ _ hc hgranted => hc.step hpolls hfunc hgranted) h hinputs

end

/-- A pass at a time, in which the bus answers nothing and no key was pressed. -/
def silentPass (tick : UInt32) : IterEnv where
  poll :=
    { hmc5883l := ⟨tick, []⟩
      atan2 := fun _ _ => 0
      bme280 := ⟨tick, []⟩
      ltr390 := ⟨tick, []⟩
      gp2y1014au0f := ⟨tick, fun _ => 0⟩
      lm386 := ⟨tick, fun _ => 0⟩
      dataTick := tick
      save := ⟨⟨-1, -1⟩, tick, ⟨-1, -1⟩⟩
      mainOutputTick := tick }
  func := ⟨tick, ⟨⟨-1, -1⟩, tick, ⟨-1, -1⟩⟩, -1⟩

/-- Before the main loop there are only drawings and presses. -/
theorem Booted.events {w : World} (h : Booted w) :
    ∀ event ∈ w.history, event.quiet = true ∨ ∃ handler, event = .irq handler := by
  apply h.induction
  · exact fun _ event hevent => absurd hevent List.not_mem_nil
  · intro w key hw
    unfold World.press
    split
    · exact hw
    · exact List.forall_mem_cons.mpr ⟨.inr ⟨_, rfl⟩, hw⟩
  · intro env w hw
    obtain ⟨events, hevents, hhistory⟩ := mainFuncInit_history env w
    rw [hhistory]
    exact List.forall_mem_append.mpr ⟨fun event hevent => .inl (hevents event hevent), hw⟩
  · exact fun w hw => hw

theorem Booted.harmless {w : World} (h : Booted w) :
    ∀ event ∈ w.history, event.harmless = true := by
  intro event hevent
  rcases h.events event hevent with hquiet | ⟨handler, rfl⟩
  · exact Event.harmless_of_quiet hquiet
  · rfl

theorem Booted.timers {w : World} (h : Booted w) (clock : Clock) :
    w.timers clock = Timer.start clock.initialDelay := by
  apply h.induction
  · exact fun _ => rfl
  · intro w key hw
    unfold World.press
    split
    · exact hw
    · exact hw
  · intro env w hw
    rw [mainFuncInit_timers]
    exact hw
  · exact fun w hw => hw

theorem Booted.delay {w : World} (h : Booted w) (clock : Clock) :
    (w.timers clock).delay = clock.initialDelay := by
  rw [h.timers]
  rfl

/-- The rest of a running call consists of statements of `mainFunc`. -/
def Config.Statements (c : Config) : Prop :=
  match c.thread with
  | .running program => program.Every Statement
  | _ => True

theorem Config.Statements.step {c : Config} (h : c.Statements) (input : Input) :
    (c.step input).Statements := by
  obtain ⟨thread, w⟩ := c
  cases input with
  | key key => exact h
  | advance env =>
    cases thread with
    | polls => trivial
    | ready => exact mainFunc_statements env.func
    | running program =>
      cases program with
      | done a => trivial
      | step label update rest => exact h.2 w

/-- The body of the loop without an interrupt. -/
def World.pass (w : World) (env : IterEnv) : World :=
  (mainFunc env.func).exec (polls env.poll w)

/-- The coarser view of the loop, in which the keys come between the calls of
`mainFunc`. -/
inductive Move where
  | key (key : Key)
  | polls (env : PollEnv)
  | call (env : FuncEnv)

def World.move (w : World) : Move → World
  | .key key => w.press key
  | .polls env => WeatherStation.polls env w
  | .call env => (mainFunc env).exec w

/-- An uninterrupted program is executed by as many steps of the loop. -/
theorem running_exec (program : Prog RtErr) (w : World) (env : IterEnv) :
    ∃ n, runs Config.step ⟨.running program, w⟩ (List.replicate n (.advance env)) =
      ⟨.polls, program.exec w⟩ := by
  induction program generalizing w with
  | done a => exact ⟨1, rfl⟩
  | step label update rest ih =>
    obtain ⟨n, hn⟩ := ih w (update w)
    exact ⟨n + 1, hn⟩

theorem runs_keys (thread : Thread) (w : World) (pressed : List Key) :
    runs Config.step ⟨thread, w⟩ (pressed.map Input.key) =
      ⟨thread, runs World.move w (pressed.map Move.key)⟩ := by
  induction pressed generalizing w with
  | nil => rfl
  | cons key pressed ih => exact ih (w.press key)

/-- So a pass of the coarse loop is a run of the interruptible one. -/
theorem pass_is_run (w : World) (env : IterEnv) (before between : List Key) :
    ∃ inputs, runs Config.step (.start w) inputs =
      .start (runs World.move w (before.map Move.key ++
        .polls env.poll :: (between.map Move.key ++ [.call env.func]))) := by
  have hkeys : ∀ w, World.move w (.polls env.poll) = polls env.poll w := fun _ => rfl
  have hcall : ∀ w, World.move w (.call env.func) = (mainFunc env.func).exec w := fun _ => rfl
  obtain ⟨n, hn⟩ := running_exec (mainFunc env.func)
    (runs World.move (polls env.poll (runs World.move w (before.map Move.key)))
      (between.map Move.key)) env
  refine ⟨before.map Input.key ++ .advance env :: (between.map Input.key ++
    .advance env :: List.replicate n (.advance env)), ?_⟩
  simp only [Config.start, runs_append, runs_cons, runs_nil, runs_keys, Config.step_polls,
    Config.step_ready, hn, hkeys, hcall]

end WeatherStation
