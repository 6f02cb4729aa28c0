import WeatherStation.Keys

/-! The success messages about saving and ejecting: both are displayed whatever
the file system calls returned. -/
namespace WeatherStation
open Lib Gpio Display History

def Event.startsSave : Event → Bool
  | .call (.sdcardSaveCurrData _) => true
  | _ => false

def Event.startsEject : Event → Bool
  | .call .sdCardEject => true
  | _ => false

/-- Among the events there is the append of a data row, with a valid descriptor
and all its bytes accepted. -/
def RowWritten (events : List Event) : Prop :=
  ∃ measured tick fd, fd ≥ 0 ∧
    .append (dataLine measured tick) fd (dataLine measured tick).length ∈ events

/-- A success message tells what happened since the call that displays it. -/
def Reported : Event → List Event → Prop
  | .lcd op, earlier =>
    (op = savedMessage → RowWritten (since Event.startsSave earlier)) ∧
      (op = ejectedMessage → .unmount rtEok ∈ since Event.startsEject earlier)
  | _, _ => True

/-- `open` returns a descriptor for the row of the save, and `write` takes all of
the row. -/
def SaveEnv.Completes (env : SaveEnv) (w : World) : Prop :=
  env.row.fd ≥ 0 ∧ (dataLine w.measured env.tick).length ≤ env.row.written

/-- The condition on the statements and, below, on the polls. -/
def FilesAccept (label : Stmt) (w : World) : Prop :=
  match label with
  | .saveCurrData env => env.Completes w
  | .eject dfsUnmount => dfsUnmount = 0
  | _ => True

instance (env : SaveEnv) (w : World) : Decidable (env.Completes w) :=
  inferInstanceAs (Decidable (_ ∧ _))

instance (label : Stmt) (w : World) : Decidable (FilesAccept label w) := by
  unfold FilesAccept
  split <;> infer_instance

def PollFilesAccept (env : PollEnv) (w : World) : Prop :=
  (w.timers .data).due env.dataTick = true → env.save.Completes (sensorPolls env w)

instance (env : PollEnv) (w : World) : Decidable (PollFilesAccept env w) :=
  inferInstanceAs (Decidable (_ → _))

/-- The two messages that are claims about the card. -/
def Event.isMessage : Event → Bool
  | .lcd op => op = savedMessage ∨ op = ejectedMessage
  | _ => false

theorem Reported.of_not_message {event : Event} (h : event.isMessage = false)
    (earlier : List Event) : Reported event earlier := by
  cases event with
  | lcd op =>
    simp only [Event.isMessage, decide_eq_false_iff_not, not_or] at h
    exact ⟨fun hop => absurd hop h.1, fun hop => absurd hop h.2⟩
  | _ => trivial

/-- A report is the only event of its call that has to be justified. -/
theorem justified_report {event start : Event} {before history : List Event}
    (hbefore : ∀ event ∈ before, event.isMessage = false) (hstart : start.isMessage = false) :
    Justified Reported (event :: (before ++ start :: history)) ↔
      Reported event (before ++ start :: history) ∧ Justified Reported history := by
  rw [justified_cons, justified_append_iff, justified_cons]
  · have htrivial := Reported.of_not_message hstart history
    exact and_congr_right fun _ => ⟨fun h => h.2, fun h => ⟨htrivial, h⟩⟩
  · exact fun event hevent earlier => Reported.of_not_message (hbefore event hevent) earlier

theorem Event.isMessage_of_harmless {event : Event} (h : event.harmless = true) :
    event.isMessage = false := by
  cases event <;> simp_all [Event.harmless, Event.quiet, Event.isMessage]

theorem justified_harmless {w w' : World} (hw : w.Harmless w')
    (h : Justified Reported w.history) : Justified Reported w'.history := by
  obtain ⟨events, hevents, hhistory⟩ := hw.history
  rw [hhistory]
  exact h.append fun event hevent =>
    Reported.of_not_message (Event.isMessage_of_harmless (hevents event hevent))

section
variable (env : SaveEnv) (w : World)

theorem SaveEnv.accepted_iff :
    env.row.fd ≥ 0 ∧
        env.row.accepted (dataLine w.measured env.tick).length =
          (dataLine w.measured env.tick).length ↔
      env.Completes w := by
  have hline : 0 < (dataLine w.measured env.tick).length := by simp [dataLine]
  unfold SaveEnv.Completes FileReply.accepted
  constructor
  · rintro ⟨hfd, haccepted⟩
    rw [if_pos hfd] at haccepted
    exact ⟨hfd, by omega⟩
  · rintro ⟨hfd, hwritten⟩
    rw [if_pos hfd]
    exact ⟨hfd, by omega⟩

/-- Among the appends of one save only that of its row can be a data row. -/
theorem rowWritten_appends : RowWritten (env.appends w) ↔ env.Completes w := by
  rw [← SaveEnv.accepted_iff]
  unfold RowWritten SaveEnv.appends
  constructor
  · rintro ⟨measured, tick, fd, hfd, hmem⟩
    rcases List.mem_cons.mp hmem with hrow | htitle
    · obtain ⟨hbuffer, rfl, haccepted⟩ := Event.append.inj hrow
      rw [hbuffer] at haccepted
      exact ⟨hfd, haccepted.symm⟩
    · split at htitle
      · have hbuffer := (Event.append.inj (List.mem_singleton.mp htitle)).1
        exact absurd hbuffer.symm (titleLine_ne_dataLine measured tick)
      · exact nomatch htitle
  · rintro ⟨hfd, haccepted⟩
    refine ⟨w.measured, env.tick, env.row.fd, hfd, ?_⟩
    rw [haccepted]
    exact List.mem_cons_self

theorem SaveEnv.appends_not_lcd {event : Event} (h : event ∈ env.appends w) :
    ∃ buffer fd accepted, event = .append buffer fd accepted := by
  unfold SaveEnv.appends at h
  rcases List.mem_cons.mp h with rfl | htitle
  · exact ⟨_, _, _, rfl⟩
  · split at htitle
    · exact ⟨_, _, _, List.mem_singleton.mp htitle⟩
    · exact nomatch htitle

/-- The events of a save before its message. -/
def SaveEnv.eventsBefore : List Event :=
  [.lcd (.setTextColor .green), .led .green] ++ env.appends w ++
    [.lcd savingMessage, .lcd (.setTextColor .yellow), .lcd (.setFont .font8x16), .led .blue]

theorem SaveEnv.eventsBefore_not_message :
    ∀ event ∈ env.eventsBefore w, event.isMessage = false ∧ event.startsSave = false := by
  have hafter : ∀ event ∈ [.lcd (.setTextColor .green), .led .green],
      Event.isMessage event = false ∧ event.startsSave = false := by decide
  have hbefore : ∀ event ∈ [.lcd savingMessage, .lcd (.setTextColor .yellow),
      .lcd (.setFont .font8x16), .led .blue],
      Event.isMessage event = false ∧ event.startsSave = false := by decide
  intro event hevent
  unfold SaveEnv.eventsBefore at hevent
  rw [List.mem_append, List.mem_append] at hevent
  rcases hevent with (hevent | hevent) | hevent
  · exact hafter event hevent
  · obtain ⟨buffer, fd, accepted, rfl⟩ := SaveEnv.appends_not_lcd env w hevent
    exact ⟨rfl, rfl⟩
  · exact hbefore event hevent

theorem rowWritten_eventsBefore : RowWritten (env.eventsBefore w) ↔ env.Completes w := by
  rw [← rowWritten_appends]
  unfold RowWritten SaveEnv.eventsBefore
  simp

/-- What a save reports is true exactly when it completes. -/
theorem reported_save (manual : Bool) {history : List Event} :
    Justified Reported (env.events w ++ .call (.sdcardSaveCurrData manual) :: history) ↔
      env.Completes w ∧ Justified Reported history := by
  have hbefore := SaveEnv.eventsBefore_not_message env w
  have hsince : since Event.startsSave
      (env.eventsBefore w ++ .call (.sdcardSaveCurrData manual) :: history) =
        env.eventsBefore w :=
    since_append_cons (fun event hevent => (hbefore event hevent).2) rfl
  have hmessage : Reported (.lcd savedMessage)
      (env.eventsBefore w ++ .call (.sdcardSaveCurrData manual) :: history) ↔
        env.Completes w := by
    rw [← rowWritten_eventsBefore, Reported, hsince]
    exact ⟨fun h => h.1 rfl, fun h => ⟨fun _ => h, fun hop => absurd hop (by decide)⟩⟩
  have hevents : env.events w ++ .call (.sdcardSaveCurrData manual) :: history =
      .lcd savedMessage :: (env.eventsBefore w ++
        .call (.sdcardSaveCurrData manual) :: history) := rfl
  rw [hevents, justified_report (fun event hevent => (hbefore event hevent).1) rfl, hmessage]

end

/-- The events of an eject before its message. -/
def ejectEventsBefore (dfsUnmount : Int) : List Event :=
  [.lcd (.setTextColor .green), .unmount (sdcardUnmount dfsUnmount), .lcd ejectingMessage,
    .lcd (.setTextColor .yellow), .lcd (.setFont .font8x16)]

theorem ejectEventsBefore_not_message (dfsUnmount : Int) :
    ∀ event ∈ ejectEventsBefore dfsUnmount,
      event.isMessage = false ∧ event.startsEject = false := by
  unfold ejectEventsBefore
  simp only [List.forall_mem_cons, List.not_mem_nil, false_implies, implies_true, and_true]
  refine ⟨by decide, ⟨rfl, rfl⟩, by decide, by decide, by decide⟩

theorem unmount_ejectEventsBefore (dfsUnmount : Int) :
    .unmount rtEok ∈ ejectEventsBefore dfsUnmount ↔ dfsUnmount = 0 := by
  have herror : rtEok ≠ -rtError := by decide
  unfold ejectEventsBefore sdcardUnmount
  by_cases hunmount : dfsUnmount = 0
  · simp [hunmount]
  · simp [hunmount, herror]

/-- What an eject reports is true exactly when the card is unmounted. -/
theorem reported_eject (dfsUnmount : Int) {history : List Event} :
    Justified Reported (ejectEvents dfsUnmount ++ .call .sdCardEject :: history) ↔
      dfsUnmount = 0 ∧ Justified Reported history := by
  have hbefore := ejectEventsBefore_not_message dfsUnmount
  have hsince : since Event.startsEject
      (ejectEventsBefore dfsUnmount ++ .call .sdCardEject :: history) =
        ejectEventsBefore dfsUnmount :=
    since_append_cons (fun event hevent => (hbefore event hevent).2) rfl
  have hmessage : Reported (.lcd ejectedMessage)
      (ejectEventsBefore dfsUnmount ++ .call .sdCardEject :: history) ↔ dfsUnmount = 0 := by
    rw [← unmount_ejectEventsBefore, Reported, hsince]
    exact ⟨fun h => h.2 rfl, fun h => ⟨fun hop => absurd hop (by decide), fun _ => h⟩⟩
  have hevents : ejectEvents dfsUnmount ++ .call .sdCardEject :: history =
      .lcd ejectedMessage :: (ejectEventsBefore dfsUnmount ++ .call .sdCardEject :: history) := rfl
  rw [hevents, justified_report (fun event hevent => (hbefore event hevent).1) rfl, hmessage]

theorem justified_sensorPolls (env : PollEnv) {w : World} (h : Justified Reported w.history) :
    Justified Reported (sensorPolls env w).history := by
  obtain ⟨events, hevents, hhistory⟩ := (World.Sensed.sensorPolls (w := w) env).history
  rw [hhistory]
  apply h.append
  intro event hevent earlier
  obtain ⟨sensor, block, live, rfl⟩ := hevents event hevent
  trivial

/-- A pass of polls reports the truth exactly when its save, if it is due,
completes. -/
theorem reported_polls (env : PollEnv) {w : World} (h : Justified Reported w.history) :
    Justified Reported (polls env w).history ↔ PollFilesAccept env w := by
  have hsensed := justified_sensorPolls env h
  unfold PollFilesAccept
  rw [polls_history]
  cases hdue : (w.timers .data).due env.dataTick with
  | false =>
    rw [if_neg Bool.false_ne_true, List.nil_append]
    exact ⟨fun _ hfalse => absurd hfalse Bool.false_ne_true, fun _ => hsensed⟩
  | true =>
    rw [if_pos rfl, List.append_assoc, List.singleton_append, reported_save]
    exact ⟨fun hsave _ => hsave.1, fun hcompletes => ⟨hcompletes rfl, hsensed⟩⟩

theorem FilesAccept.of_ordinary {label : Stmt} {update : World → World}
    (h : Ordinary label update) (w : World) : FilesAccept label w := by
  cases label with
  | saveCurrData env => exact h.elim
  | eject dfsUnmount => exact h.elim
  | _ => trivial

theorem reported_statement {label : Stmt} {update : World → World}
    (hlabel : Statement label update) {w : World} (h : Justified Reported w.history) :
    Justified Reported (update w).history ↔ FilesAccept label w := by
  rcases hlabel.cases with hordinary | ⟨env, rfl, rfl⟩ | ⟨dfsUnmount, rfl, rfl⟩
  · exact iff_of_true (justified_harmless (hordinary.harmless w) h)
      (FilesAccept.of_ordinary hordinary w)
  · simp only [sdcardSaveCurrData_eq]
    exact (reported_save env _ true).trans (and_iff_left h)
  · simp only [sdCardEject_eq]
    exact (reported_eject dfsUnmount).trans (and_iff_left h)

abbrev reportKeys : Surroundings Stmt World :=
  keys FilesAccept fun w => Justified Reported w.history

def reportAssertion : Assertion reportKeys where
  holds w := Justified Reported w.history
  stable := by
    rintro w _ h ⟨key, rfl⟩
    exact justified_harmless (World.Harmless.press w key) h
  guaranteed _ h := h

theorem reportAssertion_mainFunc (func : FuncEnv) :
    (mainFunc func).Triple reportAssertion fun _ => reportAssertion :=
  (mainFunc_statements func).triple fun _ _ _ hlabel hgranted h =>
    (reported_statement hlabel h).mpr hgranted

theorem reportAssertion_polls (env : PollEnv) (w : World) (haccept : PollFilesAccept env w)
    (h : reportAssertion w) : reportAssertion (polls env w) :=
  (reported_polls env h).mpr haccept

theorem reported_booted {w : World} (h : Booted w) : Justified Reported w.history := by
  have hnothing : Justified Reported (w.history ++ []) :=
    justified_nil.append fun event hevent =>
      Reported.of_not_message (Event.isMessage_of_harmless (h.harmless event hevent))
  rwa [List.append_nil] at hnothing

/-- The messages are true in exactly the runs in which every row that is saved
is taken in full and every eject unmounts the card. -/
theorem reported_iff {w : World} (h : Booted w) (inputs : List Input) :
    Always Config.step (fun c => Justified Reported c.world.history) (.start w) inputs ↔
      Along Config.step (Config.Granted FilesAccept PollFilesAccept) (.start w) inputs := by
  apply always_iff_along fun c => Config.Sound reportAssertion c ∧ c.Statements
  · exact fun c hc => hc.1.guaranteed
  · intro c input hc hgranted
    exact ⟨hc.1.step reportAssertion_polls reportAssertion_mainFunc hgranted, hc.2.step input⟩
  · intro c input hc hafter
    have hw := hc.1.guaranteed
    obtain ⟨thread, w⟩ := c
    cases input with
    | key key => exact Config.granted_key.mpr trivial
    | advance env =>
      cases thread with
      | polls =>
        simp only [Config.step_polls] at hafter
        exact Config.granted_polls.mpr ((reported_polls env.poll hw).mp hafter)
      | ready => exact Config.granted_ready.mpr trivial
      | running program =>
        cases program with
        | done a => exact Config.granted_done.mpr trivial
        | step label update rest =>
          simp only [Config.step_step] at hafter
          exact Config.granted_step.mpr ((reported_statement hc.2.1 hw).mp hafter)
  · exact ⟨reported_booted h, trivial⟩

/-- A pass in which the automatic save is due and the card takes every byte. -/
def savingPass : IterEnv :=
  { silentPass 5000 with
    poll := { (silentPass 5000).poll with save := ⟨⟨3, 1000⟩, 5000, ⟨3, 1000⟩⟩ } }

theorem reported_iff_savingPass :
    Always Config.step (fun c => Justified Reported c.world.history) (.start bootedWorld)
      [.advance savingPass, .key .key1] :=
  (reported_iff booted_bootedWorld _).mpr (by decide +kernel)

/-- The card is gone when the automatic save is due: nothing is written, and the
panel says that saving succeeded. -/
theorem failedSave_reported :
    ¬∀ (w : World) (inputs : List Input), Booted w →
      Always Config.step (fun c => Justified Reported c.world.history) (.start w) inputs := by
  intro h
  have hrun := h bootedWorld [.advance (silentPass 5000)] booted_bootedWorld
  have hpolls : Justified Reported (polls (silentPass 5000).poll bootedWorld).history := hrun.2
  have hcompletes := (reported_polls _ (reported_booted booted_bootedWorld)).mp hpolls
    (by decide +kernel)
  exact absurd hcompletes.1 (by decide)

end WeatherStation
