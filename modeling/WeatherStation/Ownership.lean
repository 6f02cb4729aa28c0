import WeatherStation.MainLoop
import WeatherStation.BootMemory

/-! The device blocks of the main loop: a failed read frees the block of its
sensor, and the global keeps pointing at it. -/
namespace WeatherStation
open Lib Gpio

/-- Every `get_data` call of the history was given an allocated block. -/
def CallsLive (history : List Event) : Prop :=
  ∀ sensor block live, .getData sensor block live ∈ history → live = true

/-- Each pointer is null or live, no block was freed twice, and no call was
given a freed block. -/
structure HeapDiscipline (w : World) : Prop where
  owners : OwnersSound w
  calls : CallsLive w.history

/-- The reads of the due polls are good; a null pointer is not polled. -/
def ReadsSucceed (env : PollEnv) (w : World) : Prop :=
  (∀ block, polled (w.timers .hmc5883l) w.hmc5883l env.hmc5883l.tick = some block →
    (hmc5883lRead env.hmc5883l w).1 = rtEok) ∧
  (∀ block, polled (w.timers .bme280) w.bme280 env.bme280.tick = some block →
    (bme280Read env.bme280 w).1 = rtEok) ∧
  (∀ block, polled (w.timers .ltr390) w.ltr390 env.ltr390.tick = some block →
    (ltr390Read env.ltr390 w).1 = rtEok)

theorem polled_pointer {δ : Type} {timer : Timer} {owner : Owner δ} {tick : UInt32} {block : Nat}
    (h : polled timer owner tick = some block) : owner.pointer = some block := by
  unfold polled at h
  split at h
  · exact h
  · exact nomatch h

section
variable {δ : Type} {sensor : Sensor} {clock : Clock} {owner : World → Owner δ} {tick : UInt32}
  {read : Nat → World → World} {w : World}

/-- A poll keeps its owner sound exactly when its read, if it makes one, is
good. -/
theorem pollSensor_sound (content : Nat → World → Option δ) (result : World → RtErr)
    (htimer : ∀ w update, owner (World.setTimer w clock update) = owner w)
    (hrecord : ∀ w event, owner (World.record w event) = owner w)
    (hread : ∀ block w, owner (read block w) =
      (owner w).afterRead block (content block w) (result w = rtEok))
    (hresult : ∀ w update event, result ((World.setTimer w clock update).record event) = result w)
    (h : (owner w).Sound) :
    (owner (pollSensor sensor clock owner tick read w)).Sound ↔
      ∀ block, polled (w.timers clock) (owner w) tick = some block → result w = rtEok := by
  cases hpolled : polled (w.timers clock) (owner w) tick with
  | none =>
    rw [pollSensor_none hpolled, htimer]
    exact ⟨fun _ _ hnone => (nomatch hnone), fun _ => h⟩
  | some block =>
    have hpointer := polled_pointer hpolled
    rw [pollSensor_some hpolled, hread, hrecord, htimer, h.afterRead_iff hpointer, hresult,
      decide_eq_true_eq]
    exact ⟨fun hresult _ _ => hresult, fun hall => hall block rfl⟩

theorem pollSensor_calls (htimer : ∀ w update, owner (World.setTimer w clock update) = owner w)
    (hread : ∀ block w, (read block w).history = w.history) (h : (owner w).Sound)
    (hcalls : CallsLive w.history) :
    CallsLive (pollSensor sensor clock owner tick read w).history := by
  cases hpolled : polled (w.timers clock) (owner w) tick with
  | none =>
    rw [pollSensor_none hpolled]
    exact hcalls
  | some block =>
    rw [pollSensor_some hpolled, hread, htimer]
    intro sensor' block' live hmem
    rcases List.mem_cons.mp hmem with heq | hmem
    · have hlive := h.nullOrLive block (polled_pointer hpolled)
      cases heq
      exact decide_eq_true hlive
    · exact hcalls sensor' block' live hmem

end

theorem CallsLive.append {new old : List Event} (h : CallsLive old)
    (hnew : ∀ sensor block live, .getData sensor block live ∉ new) : CallsLive (new ++ old) := by
  intro sensor block live hmem
  rcases List.mem_append.mp hmem with hmem | hmem
  · exact absurd hmem (hnew sensor block live)
  · exact h sensor block live hmem

theorem CallsLive.call {history : List Event} (h : CallsLive history) (call : Call) :
    CallsLive (.call call :: history) := by
  intro sensor block live hmem
  cases hmem with
  | tail _ hmem => exact h sensor block live hmem

theorem save_no_getData (env : SaveEnv) (w : World) (sensor : Sensor) (block : Nat) (live : Bool) :
    .getData sensor block live ∉ env.events w := by
  unfold SaveEnv.events SaveEnv.appends
  split <;> simp

def World.bme280View (w : World) : Owner Bme280.Device × Bme280.Data × Timer :=
  (w.bme280, w.measured.bme280RawData, w.timers .bme280)

def World.ltr390View (w : World) : Owner Ltr390.Device × Ltr390.Data × Timer :=
  (w.ltr390, w.measured.ltr390RawData, w.timers .ltr390)

theorem setTimer_other {w : World} {clock other : Clock} (h : other ≠ clock)
    (update : Timer → Timer) : (w.setTimer clock update).timers other = w.timers other :=
  Function.update_of_ne h _ _

section
variable (w : World) (atan2 : Int → Int → ℚ) (env : SensorEnv)

theorem myHmc5883lTest_bme280 : (myHmc5883lTest atan2 env w).bme280View = w.bme280View := by
  apply pollSensor_frame
  · intro w update
    unfold World.bme280View
    rw [setTimer_other (by decide)]
    rfl
  · exact fun _ _ => rfl
  · exact fun _ _ => rfl

theorem myHmc5883lTest_ltr390 : (myHmc5883lTest atan2 env w).ltr390View = w.ltr390View := by
  apply pollSensor_frame
  · intro w update
    unfold World.ltr390View
    rw [setTimer_other (by decide)]
    rfl
  · exact fun _ _ => rfl
  · exact fun _ _ => rfl

theorem myBme280Test_ltr390 : (myBme280Test env w).ltr390View = w.ltr390View := by
  apply pollSensor_frame
  · intro w update
    unfold World.ltr390View
    rw [setTimer_other (by decide)]
    rfl
  · exact fun _ _ => rfl
  · exact fun _ _ => rfl

theorem myBme280Test_hmc5883l : (myBme280Test env w).hmc5883l = w.hmc5883l :=
  pollSensor_frame (fun _ _ => rfl) (fun _ _ => rfl) fun _ _ => rfl

theorem myLtr390Test_hmc5883l : (myLtr390Test env w).hmc5883l = w.hmc5883l :=
  pollSensor_frame (fun _ _ => rfl) (fun _ _ => rfl) fun _ _ => rfl

theorem myLtr390Test_bme280 : (myLtr390Test env w).bme280 = w.bme280 :=
  pollSensor_frame (fun _ _ => rfl) (fun _ _ => rfl) fun _ _ => rfl

end

def World.owners (w : World) : Owner Hmc5883l.Device × Owner Bme280.Device × Owner Ltr390.Device :=
  (w.hmc5883l, w.bme280, w.ltr390)

/-- The polls that read no bus leave the blocks and their calls alone. -/
theorem pollDue_owners {clock : Clock} {tick : UInt32} {body : World → World}
    (hbody : ∀ w, World.owners (body w) = World.owners w) (w : World) :
    (pollDue clock tick body w).owners = w.owners :=
  pollDue_frame (fun _ _ => rfl) hbody

theorem polls_owners (env : PollEnv) (w : World) :
    (polls env w).owners = (myLtr390Test env.ltr390 <| myBme280Test env.bme280 <|
      myHmc5883lTest env.atan2 env.hmc5883l w).owners := by
  have hsave : ∀ w, World.owners (sdcardSaveCurrData env.save
      (w.record (.call (.sdcardSaveCurrData false)))) = World.owners w := by
    intro w
    rw [sdcardSaveCurrData_eq]
    rfl
  have hmain : ∀ w, World.owners (mainOutput env.mainOutputTick w) = w.owners := by
    apply pollDue_owners
    exact fun _ => rfl
  have hsdCard : ∀ w, World.owners (mySdCardTest env.dataTick env.save w) = w.owners := by
    apply pollDue_owners
    exact hsave
  have hlm386 : ∀ w, World.owners (myLm386Test env.lm386 w) = w.owners := by
    apply pollDue_owners
    exact fun _ => rfl
  have hgp2y1014au0f : ∀ w, World.owners (myGp2y1014au0fTest env.gp2y1014au0f w) = w.owners := by
    apply pollDue_owners
    exact fun _ => rfl
  unfold polls sensorPolls
  rw [hmain, hsdCard, hlm386, hgp2y1014au0f]

theorem OwnersSound.of_owners {w w' : World} (h : OwnersSound w) (howners : w'.owners = w.owners) :
    OwnersSound w' := by
  obtain ⟨hhmc5883l, hbme280, hltr390⟩ : _ ∧ _ ∧ _ := by
    simpa only [World.owners, Prod.mk.injEq] using howners
  exact ⟨hhmc5883l ▸ h.hmc5883l, hbme280 ▸ h.bme280, hltr390 ▸ h.ltr390⟩

section
variable {w : World}

theorem myHmc5883lTest_sound (h : w.hmc5883l.Sound) (atan2 : Int → Int → ℚ) (env : SensorEnv) :
    (myHmc5883lTest atan2 env w).hmc5883l.Sound ↔
      ∀ block, polled (w.timers .hmc5883l) w.hmc5883l env.tick = some block →
        (hmc5883lRead env w).1 = rtEok := by
  apply pollSensor_sound (fun _ _ => none) fun w => (hmc5883lRead env w).1
  · exact fun _ _ => rfl
  · exact fun _ _ => rfl
  · exact fun _ _ => rfl
  · exact fun _ _ _ => rfl
  · exact h

theorem myBme280Test_sound (h : w.bme280.Sound) (env : SensorEnv) :
    (myBme280Test env w).bme280.Sound ↔
      ∀ block, polled (w.timers .bme280) w.bme280 env.tick = some block →
        (bme280Read env w).1 = rtEok := by
  apply pollSensor_sound (fun _ w => (bme280Read env w).2.2) fun w => (bme280Read env w).1
  · exact fun _ _ => rfl
  · exact fun _ _ => rfl
  · exact fun _ _ => rfl
  · exact fun _ _ _ => rfl
  · exact h

theorem myLtr390Test_sound (h : w.ltr390.Sound) (env : SensorEnv) :
    (myLtr390Test env w).ltr390.Sound ↔
      ∀ block, polled (w.timers .ltr390) w.ltr390 env.tick = some block →
        (ltr390Read env w).1 = rtEok := by
  apply pollSensor_sound (fun _ _ => none) fun w => (ltr390Read env w).1
  · exact fun _ _ => rfl
  · exact fun _ _ => rfl
  · exact fun _ _ => rfl
  · exact fun _ _ _ => rfl
  · exact h

theorem ownersSound_iff {w' : World} (howners : w'.owners = w.owners) :
    OwnersSound w' ↔ OwnersSound w :=
  ⟨fun h => h.of_owners howners.symm, fun h => h.of_owners howners⟩

/-- The polls of one pass keep the owners sound exactly when their reads are
good. -/
theorem polls_ownersSound (h : OwnersSound w) (env : PollEnv) :
    OwnersSound (polls env w) ↔ ReadsSucceed env w := by
  have hbme280View := myHmc5883lTest_bme280 w env.atan2 env.hmc5883l
  have hltr390View :=
    (myBme280Test_ltr390 (myHmc5883lTest env.atan2 env.hmc5883l w) env.bme280).trans
      (myHmc5883lTest_ltr390 w env.atan2 env.hmc5883l)
  simp only [World.bme280View, World.ltr390View, Prod.mk.injEq] at hbme280View hltr390View
  rw [ownersSound_iff (polls_owners env w)]
  have hhmc5883l := myHmc5883lTest_sound h.hmc5883l env.atan2 env.hmc5883l
  have hbme280 := myBme280Test_sound (hbme280View.1 ▸ h.bme280) env.bme280
  have hltr390 := myLtr390Test_sound (hltr390View.1 ▸ h.ltr390) env.ltr390
  unfold bme280Read at hbme280
  rw [hbme280View.1, hbme280View.2.1, hbme280View.2.2] at hbme280
  unfold ltr390Read at hltr390
  rw [hltr390View.1, hltr390View.2.1, hltr390View.2.2] at hltr390
  constructor
  · intro hafter
    refine ⟨hhmc5883l.mp ?_, hbme280.mp ?_, hltr390.mp hafter.ltr390⟩
    · rw [← myBme280Test_hmc5883l _ env.bme280, ← myLtr390Test_hmc5883l _ env.ltr390]
      exact hafter.hmc5883l
    · rw [← myLtr390Test_bme280 _ env.ltr390]
      exact hafter.bme280
  · rintro ⟨hgood, hgood', hgood''⟩
    refine ⟨?_, ?_, hltr390.mpr hgood''⟩
    · rw [myLtr390Test_hmc5883l, myBme280Test_hmc5883l]
      exact hhmc5883l.mpr hgood
    · rw [myLtr390Test_bme280]
      exact hbme280.mpr hgood'

theorem pollDue_calls {clock : Clock} {tick : UInt32} {body : World → World}
    (hbody : ∀ w, CallsLive (World.history w) → CallsLive (body w).history)
    (h : CallsLive w.history) : CallsLive (pollDue clock tick body w).history :=
  @pollDue_invariant _ _ _ w (fun w => CallsLive w.history) (fun _ _ h => h) hbody h

/-- Good or bad, the polls of one pass hand out live blocks when they start
with sound owners: the damage shows one period later. -/
theorem polls_calls (h : HeapDiscipline w) (env : PollEnv) : CallsLive (polls env w).history := by
  have hbme280View := myHmc5883lTest_bme280 w env.atan2 env.hmc5883l
  have hltr390View :=
    (myBme280Test_ltr390 (myHmc5883lTest env.atan2 env.hmc5883l w) env.bme280).trans
      (myHmc5883lTest_ltr390 w env.atan2 env.hmc5883l)
  simp only [World.bme280View, World.ltr390View, Prod.mk.injEq] at hbme280View hltr390View
  have hhmc5883l : CallsLive (myHmc5883lTest env.atan2 env.hmc5883l w).history := by
    apply pollSensor_calls
    · exact fun _ _ => rfl
    · exact fun _ _ => rfl
    · exact h.owners.hmc5883l
    · exact h.calls
  have hbme280 : CallsLive (myBme280Test env.bme280
      (myHmc5883lTest env.atan2 env.hmc5883l w)).history := by
    apply pollSensor_calls
    · exact fun _ _ => rfl
    · exact fun _ _ => rfl
    · rw [hbme280View.1]
      exact h.owners.bme280
    · exact hhmc5883l
  have hltr390 : CallsLive (myLtr390Test env.ltr390 (myBme280Test env.bme280
      (myHmc5883lTest env.atan2 env.hmc5883l w))).history := by
    apply pollSensor_calls
    · exact fun _ _ => rfl
    · exact fun _ _ => rfl
    · rw [hltr390View.1]
      exact h.owners.ltr390
    · exact hbme280
  have hgp2y1014au0f : ∀ w, CallsLive (World.history w) →
      CallsLive (myGp2y1014au0fTest env.gp2y1014au0f w).history := by
    intro w
    apply pollDue_calls
    exact fun _ hcalls => hcalls
  have hlm386 : ∀ w, CallsLive (World.history w) →
      CallsLive (myLm386Test env.lm386 w).history := by
    intro w
    apply pollDue_calls
    exact fun _ hcalls => hcalls
  have hsdCard : ∀ w, CallsLive (World.history w) →
      CallsLive (mySdCardTest env.dataTick env.save w).history := by
    intro w
    apply pollDue_calls
    intro w hcalls
    rw [sdCardBody, sdcardSaveCurrData_eq]
    apply CallsLive.append _ (save_no_getData env.save _)
    exact hcalls.call _
  have hmain : ∀ w, CallsLive (World.history w) →
      CallsLive (mainOutput env.mainOutputTick w).history := by
    intro w
    apply pollDue_calls
    exact fun _ hcalls => hcalls
  exact hmain _ (hsdCard _ (hlm386 _ (hgp2y1014au0f _ hltr390)))

end

theorem HeapDiscipline.harmless {w w' : World} (h : HeapDiscipline w) (hw : w.Harmless w') :
    HeapDiscipline w' where
  owners := ⟨hw.hmc5883l ▸ h.owners.hmc5883l, hw.bme280 ▸ h.owners.bme280,
    hw.ltr390 ▸ h.owners.ltr390⟩
  calls := by
    obtain ⟨events, hevents, hhistory⟩ := hw.history
    rw [hhistory]
    apply h.calls.append
    intro sensor block live hmem
    exact absurd (hevents _ hmem) (by simp [Event.harmless, Event.quiet])

theorem HeapDiscipline.save {w : World} (h : HeapDiscipline w) (env : SaveEnv) (manual : Bool) :
    HeapDiscipline (sdcardSaveCurrData env (w.record (.call (.sdcardSaveCurrData manual)))) := by
  rw [sdcardSaveCurrData_eq]
  have howners : OwnersSound w := h.owners
  refine ⟨⟨howners.hmc5883l, howners.bme280, howners.ltr390⟩, ?_⟩
  exact (h.calls.call _).append (save_no_getData env _)

theorem HeapDiscipline.eject {w : World} (h : HeapDiscipline w) (dfsUnmount : Int) :
    HeapDiscipline (sdCardEject dfsUnmount (w.record (.call .sdCardEject))) := by
  rw [sdCardEject_eq]
  have howners : OwnersSound w := h.owners
  refine ⟨⟨howners.hmc5883l, howners.bme280, howners.ltr390⟩, ?_⟩
  apply (h.calls.call _).append
  simp [ejectEvents]

def heapAssertion : Assertion (keys (fun _ _ => True) HeapDiscipline) where
  holds := HeapDiscipline
  stable := by
    rintro w _ h ⟨key, rfl⟩
    exact h.harmless (World.Harmless.press w key)
  guaranteed _ h := h

/-- No statement of `mainFunc` touches the blocks. -/
theorem heapAssertion_mainFunc (func : FuncEnv) :
    (mainFunc func).Triple heapAssertion fun _ => heapAssertion := by
  apply mainFunc_triple
  · intro label update w hlabel _ hw
    have hheap : HeapDiscipline w := hw
    exact hheap.harmless (hlabel.harmless w)
  · apply dispDataSave_triple heapAssertion
    · exact fun w hw _ _ => hw
    · exact fun w hw => HeapDiscipline.harmless hw (.setUi _)
    · exact fun w hw _ => HeapDiscipline.save hw func.save true
  · apply sdCardConfirm_triple heapAssertion
    · exact fun w hw _ => hw
    · exact fun w hw => HeapDiscipline.harmless hw (.setUi _)
    · exact fun w hw _ => HeapDiscipline.eject hw func.dfsUnmount

theorem heapAssertion_polls (env : PollEnv) (w : World) (hreads : ReadsSucceed env w)
    (h : heapAssertion w) : heapAssertion (polls env w) :=
  ⟨(polls_ownersSound h.owners env).mpr hreads, polls_calls h env⟩

theorem HeapDiscipline.round {w : World} (h : HeapDiscipline w) (env : InitEnv) :
    HeapDiscipline (mainFuncInit env w).2 := by
  obtain ⟨events, hevents, hhistory⟩ := mainFuncInit_history env w
  refine ⟨h.owners.round env, ?_⟩
  rw [hhistory]
  apply h.calls.append
  intro sensor block live hmem
  exact absurd (hevents _ hmem) (by simp [Event.quiet])

theorem HeapDiscipline.booted {w : World} (h : Booted w) : HeapDiscipline w := by
  apply h.induction
  · exact fun dataCsv => ⟨ownersSound_powerOn dataCsv, fun _ _ _ hmem => (nomatch hmem)⟩
  · exact fun w key hw => hw.harmless (World.Harmless.press w key)
  · exact fun env w hw => hw.round env
  · exact fun w hw => hw.harmless (.setUi _)

/-- The main loop keeps the heap discipline in exactly the runs in which no
read of a sensor that is there fails. -/
theorem heapDiscipline_iff {w : World} (h : Booted w) (inputs : List Input) :
    Always Config.step (fun c => HeapDiscipline c.world) (.start w) inputs ↔
      Along Config.step (Config.Granted (fun _ _ => True) ReadsSucceed) (.start w) inputs := by
  apply always_iff_along (Config.Sound heapAssertion)
  · exact fun c hc => hc.guaranteed
  · intro c input hc hgranted
    exact hc.step heapAssertion_polls heapAssertion_mainFunc hgranted
  · intro c input hc hafter
    obtain ⟨thread, w⟩ := c
    cases input with
    | key key => exact Config.granted_key.mpr trivial
    | advance env =>
      cases thread with
      | polls =>
        simp only [Config.step_polls] at hafter
        rw [Config.sound_polls] at hc
        rw [Config.granted_polls, ← polls_ownersSound hc.owners]
        exact hafter.owners
      | ready => exact Config.granted_ready.mpr trivial
      | running program =>
        cases program with
        | done a => exact Config.granted_done.mpr trivial
        | step label update rest => exact Config.granted_step.mpr trivial
  · exact HeapDiscipline.booted h

/-- A pass after the first second, in which every sensor answers its read. -/
def readingPass : IterEnv where
  poll := { (silentPass 1000).poll with
    hmc5883l := ⟨1000, [⟨1, []⟩, ⟨2, [0, 30, 0, 0, 0, 40]⟩]⟩
    bme280 := ⟨1000, List.replicate 12 ⟨2, []⟩⟩
    ltr390 := ⟨1000, [⟨1, []⟩, ⟨2, [0x08]⟩, ⟨2, [200, 0, 0]⟩,
      ⟨1, []⟩, ⟨2, [0x08]⟩, ⟨2, [10, 0, 0]⟩]⟩ }
  func := (silentPass 1000).func

/-- All three reads are due and succeed, and KEY1 is pressed after them. -/
theorem heapDiscipline_iff_reading :
    Always Config.step (fun c => HeapDiscipline c.world) (.start bootedWorld)
      [.advance readingPass, .key .key1, .advance readingPass] := by
  apply (heapDiscipline_iff booted_bootedWorld _).mpr
  refine ⟨⟨?_, ?_, ?_⟩, trivial, trivial, trivial⟩
  all_goals decide +kernel

/-- The pass after a failed read reads through the pointer to the freed block. -/
theorem failedRead_dangles :
    ¬∀ (w : World) (inputs : List Input), Booted w →
      Always Config.step (fun c => HeapDiscipline c.world) (.start w) inputs := by
  intro h
  have hrun := h bootedWorld ([.advance (silentPass 1000)] ++
    List.replicate 12 (.advance (silentPass 1500)) ++ [.advance (silentPass 2000)])
    booted_bootedWorld
  have hdead := hrun.last.calls .hmc5883l 0 false (by decide +kernel)
  exact absurd hdead (by decide)

end WeatherStation
