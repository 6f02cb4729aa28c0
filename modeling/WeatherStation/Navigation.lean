import Mathlib.Tactic.FinCases
import WeatherStation.Panel

/-! The user's view of the pages: a navigation machine of markers, and that
`mainFunc` and the key handlers simulate it. -/
namespace WeatherStation
open Lib Gpio

/-- The pages with their markers, counted from the first entry of each page. -/
inductive Nav where
  | menu (marker : Fin 4)
  | dispData
  | takePhoto
  | sdCard
  | settings (marker : Fin 7)
  | delay (peripheral : Fin 6) (marker : Fin 7)
  deriving DecidableEq

namespace Nav

def opened : Fin 4 → Nav
  | 0 => dispData
  | 1 => takePhoto
  | 2 => sdCard
  | 3 => settings 0

/-- A marker advances cyclically. -/
def step : Nav → Key → Nav
  | menu marker, .key1 => menu (marker + 1)
  | menu marker, .key2 => opened marker
  | dispData, .key1 => dispData
  | dispData, .key2 => menu 0
  | takePhoto, .key1 => takePhoto
  | takePhoto, .key2 => menu 1
  | sdCard, .key1 => sdCard
  | sdCard, .key2 => menu 2
  | settings marker, .key1 => settings (marker + 1)
  | settings marker, .key2 => if h : marker.val < 6 then delay ⟨marker, h⟩ 0 else menu 3
  | delay peripheral marker, .key1 => delay peripheral (marker + 1)
  | delay peripheral _, .key2 => settings peripheral.castSucc

def page : Nav → Page
  | menu _ => .menu
  | dispData => .dispData
  | takePhoto => .takePhoto
  | sdCard => .sdCard
  | settings _ => .settings
  | delay _ _ => .delay

/-- The variables that the navigation leaves open. -/
structure Rest where
  key1IsChanged : Bool
  key2IsChanged : Bool
  isSavingData : Bool
  isEjecting : Bool
  prevScene : Scene
  prevSetting : SettingSelect
  prevDelay : DelaySelect

/-- The menu with its marker on this scene, or a scene opened from there; the
settings are closed. -/
def Rest.scene (rest : Rest) (currScene selectScene : Scene) : Ui where
  key1IsChanged := rest.key1IsChanged
  key2IsChanged := rest.key2IsChanged
  currScene
  prevScene := rest.prevScene
  sceneIsChanged := false
  selectScene
  sceneSelectIsChanged := false
  isSavingData := rest.isSavingData
  isEjecting := rest.isEjecting
  currSetting := .back
  prevSetting := rest.prevSetting
  settingIsChanged := true
  selectSetting := .hmc5883l
  settingSelectIsChanged := false
  currDelay := .back
  prevDelay := rest.prevDelay
  delayIsChanged := true
  selectDelay := .d0_5
  delaySelectIsChanged := false

/-- The page variables when nothing is pending. -/
def ui (rest : Rest) : Nav → Ui
  | menu marker => rest.scene .menu (.ofNat (marker + 1))
  | dispData => rest.scene .dispData .dispData
  | takePhoto => rest.scene .takePhoto .takePhoto
  | sdCard => rest.scene .sdCard .sdCard
  | settings marker =>
    { rest.scene .settings .settings with
      currSetting := .no
      settingIsChanged := false
      selectSetting := .ofNat (marker + 1) }
  | delay peripheral marker =>
    { rest.scene .settings .settings with
      currSetting := .ofNat (peripheral + 1)
      settingIsChanged := false
      selectSetting := .ofNat (peripheral + 1)
      currDelay := .no
      delayIsChanged := false
      selectDelay := .ofNat (marker + 1) }

def panel (rest : Rest) (nav : Nav) : Panel := ⟨nav.ui rest, some nav.page⟩

end Nav

/-- No change flag is pending that `mainFunc` tests on the current page. -/
def Ui.settled (u : Ui) : Bool :=
  !u.sceneIsChanged &&
    match u.currScene with
    | .menu => !u.sceneSelectIsChanged
    | .settings =>
      !u.settingIsChanged &&
        match u.currSetting with
        | .no => !u.settingSelectIsChanged
        | _ => !u.delayIsChanged && !u.delaySelectIsChanged
    | _ => true

/-- The variables of the `switch` statements hold enumerators. -/
def Ui.known (u : Ui) : Bool :=
  (match u.currScene with | .other _ => false | _ => true) &&
    match u.currSetting with | .other _ => false | _ => true

namespace Nav

theorem settled_ui (rest : Rest) (nav : Nav) : (nav.ui rest).settled = true := by
  cases nav with
  | delay peripheral marker => fin_cases peripheral <;> rfl
  | _ => rfl

/-- After so many calls of `mainFunc` the panel is settled, and not before. -/
def Reaches (nav : Nav) : Nat → Panel → Prop
  | 0, p => ∃ rest, p = nav.panel rest
  | n + 1, p => p.ui.settled = false ∧ p.ui.known = true ∧ Reaches nav n p.call

theorem known_ui (rest : Rest) (nav : Nav) : (nav.ui rest).known = true := by
  cases nav with
  | delay peripheral marker => fin_cases peripheral <;> rfl
  | _ => rfl

/-- The press of a key on a settled panel. -/
def pressed (nav : Nav) (key : Key) (rest : Rest) : Panel :=
  match key with
  | .key1 => ⟨nav.page.key1.call (nav.ui rest), some nav.page⟩
  | .key2 => ⟨nav.page.key2.call (nav.ui rest), some nav.page⟩

theorem key1IrqMenu_marker (marker : Fin 4) {u : Ui} (h : u.selectScene = .ofNat (marker + 1)) :
    u.key1IrqMenu = { u with
      sceneSelectIsChanged := true
      selectScene := .ofNat ((marker + 1 : Fin 4) + 1) } := by
  have hnext : ∀ marker : Fin 4,
      (if Scene.ofNat (((Scene.ofNat (marker + 1)).toNat + 1) % 5) = .menu then .dispData
        else Scene.ofNat (((Scene.ofNat (marker + 1)).toNat + 1) % 5)) =
      Scene.ofNat ((marker + 1 : Fin 4) + 1) := by decide
  unfold Ui.key1IrqMenu
  dsimp only
  rw [h, hnext]

theorem key1IrqSettingSelect_marker (marker : Fin 7) {u : Ui}
    (h : u.selectSetting = .ofNat (marker + 1)) :
    u.key1IrqSettingSelect = { u with
      settingSelectIsChanged := true
      selectSetting := .ofNat ((marker + 1 : Fin 7) + 1) } := by
  have hnext : ∀ marker : Fin 7,
      (if SettingSelect.ofNat (((SettingSelect.ofNat (marker + 1)).toNat + 1) % 8) = .no then
        .hmc5883l
        else SettingSelect.ofNat (((SettingSelect.ofNat (marker + 1)).toNat + 1) % 8)) =
      SettingSelect.ofNat ((marker + 1 : Fin 7) + 1) := by decide
  unfold Ui.key1IrqSettingSelect
  dsimp only
  rw [h, hnext]

theorem key1IrqSettingDelaySelect_marker (marker : Fin 7) {u : Ui}
    (h : u.selectDelay = .ofNat (marker + 1)) :
    u.key1IrqSettingDelaySelect = { u with
      delaySelectIsChanged := true
      selectDelay := .ofNat ((marker + 1 : Fin 7) + 1) } := by
  have hnext : ∀ marker : Fin 7,
      (if DelaySelect.ofNat (((DelaySelect.ofNat (marker + 1)).toNat + 1) % 8) = .no then .d0_5
        else DelaySelect.ofNat (((DelaySelect.ofNat (marker + 1)).toNat + 1) % 8)) =
      DelaySelect.ofNat ((marker + 1 : Fin 7) + 1) := by decide
  unfold Ui.key1IrqSettingDelaySelect
  dsimp only
  rw [h, hnext]

theorem reaches_menu_marker (marker : Fin 4) (rest : Rest) :
    Reaches (menu (marker + 1)) 1 ((menu marker).pressed .key1 rest) := by
  have hpressed : ((menu marker).ui rest).key1IrqMenu = _ := key1IrqMenu_marker marker rfl
  rw [pressed, page, Page.key1, Handler.call, hpressed]
  exact ⟨rfl, rfl, rest, rfl⟩

theorem reaches_settings_marker (marker : Fin 7) (rest : Rest) :
    Reaches (settings (marker + 1)) 1 ((settings marker).pressed .key1 rest) := by
  have hpressed : ((settings marker).ui rest).key1IrqSettingSelect = _ :=
    key1IrqSettingSelect_marker marker rfl
  rw [pressed, page, Page.key1, Handler.call, hpressed]
  exact ⟨rfl, rfl, rest, rfl⟩

theorem reaches_delay_marker (peripheral : Fin 6) (marker : Fin 7) (rest : Rest) :
    Reaches (delay peripheral (marker + 1)) 1 ((delay peripheral marker).pressed .key1 rest) := by
  have hpressed : ((delay peripheral marker).ui rest).key1IrqSettingDelaySelect = _ :=
    key1IrqSettingDelaySelect_marker marker rfl
  rw [pressed, page, Page.key1, Handler.call, hpressed]
  fin_cases peripheral <;> exact ⟨rfl, rfl, rest, rfl⟩

/-- Opening a scene takes one call, opening the settings three. -/
theorem reaches_opened (marker : Fin 4) (rest : Rest) :
    ∃ n ≤ 4, Reaches (opened marker) n ((menu marker).pressed .key2 rest) := by
  fin_cases marker
  · exact ⟨1, by decide, rfl, rfl, { rest with prevScene := .menu }, rfl⟩
  · exact ⟨1, by decide, rfl, rfl, { rest with prevScene := .menu }, rfl⟩
  · exact ⟨1, by decide, rfl, rfl, { rest with prevScene := .menu }, rfl⟩
  · exact ⟨3, by decide, rfl, rfl, rfl, rfl, rfl, rfl,
      { rest with prevScene := .menu, prevSetting := .back }, rfl⟩

/-- The settings page needs three calls for a delay page and two for the menu. -/
theorem reaches_settings (marker : Fin 7) (rest : Rest) :
    ∃ n ≤ 4, Reaches ((settings marker).step .key2) n ((settings marker).pressed .key2 rest) := by
  have hdelay : ∀ peripheral : Fin 6, Reaches (delay peripheral 0) 3
      ((settings peripheral.castSucc).pressed .key2 rest) := by
    intro peripheral
    fin_cases peripheral <;> exact ⟨rfl, rfl, rfl, rfl, rfl, rfl,
      { rest with prevSetting := .no, prevDelay := .back }, rfl⟩
  have hmenu : Reaches (menu 3) 2 ((settings 6).pressed .key2 rest) :=
    ⟨rfl, rfl, rfl, rfl,
      { rest with prevScene := .settings, prevSetting := .back, prevDelay := .back }, rfl⟩
  by_cases hmarker : marker.val < 6
  · have hstep : (settings marker).step .key2 = delay ⟨marker, hmarker⟩ 0 := dif_pos hmarker
    rw [hstep]
    exact ⟨3, by decide, hdelay ⟨marker, hmarker⟩⟩
  · have hlast : marker = 6 := by omega
    subst hlast
    exact ⟨2, by decide, hmenu⟩

/-- Every entry of a delay page leads back, with or without `config_delay`. -/
theorem reaches_delay (peripheral : Fin 6) (marker : Fin 7) (rest : Rest) :
    Reaches (settings peripheral.castSucc) 2 ((delay peripheral marker).pressed .key2 rest) := by
  have hcall : ((delay peripheral marker).pressed .key2 rest).call =
      Panel.setUi ((delay peripheral marker).pressed .key2 rest) Panel.returned := by
    fin_cases peripheral <;> fin_cases marker <;> rfl
  refine ⟨?_, ?_, ?_⟩
  · fin_cases peripheral <;> rfl
  · fin_cases peripheral <;> rfl
  · rw [hcall]
    exact ⟨rfl, rfl, { rest with prevSetting := .ofNat (peripheral + 1), prevDelay := .back }, rfl⟩

/-- Any key on a settled panel: at most four calls settle it again, on the page
that the navigation machine says. -/
theorem reaches_pressed (nav : Nav) (key : Key) (rest : Rest) :
    ∃ n ≤ 4, Reaches (nav.step key) n (nav.pressed key rest) := by
  cases nav with
  | menu marker =>
    cases key with
    | key1 => exact ⟨1, by decide, reaches_menu_marker marker rest⟩
    | key2 => exact reaches_opened marker rest
  | dispData =>
    cases key with
    | key1 => exact ⟨0, by decide, { rest with isSavingData := true }, rfl⟩
    | key2 => exact ⟨1, by decide, rfl, rfl, { rest with prevScene := .dispData }, rfl⟩
  | takePhoto =>
    cases key with
    | key1 => exact ⟨0, by decide, rest, rfl⟩
    | key2 => exact ⟨1, by decide, rfl, rfl, { rest with prevScene := .takePhoto }, rfl⟩
  | sdCard =>
    cases key with
    | key1 => exact ⟨0, by decide, { rest with isEjecting := true }, rfl⟩
    | key2 => exact ⟨1, by decide, rfl, rfl, { rest with prevScene := .sdCard }, rfl⟩
  | settings marker =>
    cases key with
    | key1 => exact ⟨1, by decide, reaches_settings_marker marker rest⟩
    | key2 => exact reaches_settings marker rest
  | delay peripheral marker =>
    cases key with
    | key1 => exact ⟨1, by decide, reaches_delay_marker peripheral marker rest⟩
    | key2 => exact ⟨2, by decide, reaches_delay peripheral marker rest⟩

/-- A settled panel stays as it is. -/
theorem call_panel (nav : Nav) (rest : Rest) : ∃ rest', (nav.panel rest).call = nav.panel rest' := by
  cases nav with
  | menu marker => exact ⟨rest, rfl⟩
  | dispData =>
    refine ⟨{ rest with isSavingData := false }, ?_⟩
    obtain ⟨_, _, isSavingData, _, _, _, _⟩ := rest
    cases isSavingData <;> rfl
  | takePhoto => exact ⟨rest, rfl⟩
  | sdCard =>
    refine ⟨{ rest with isEjecting := false }, ?_⟩
    obtain ⟨_, _, _, isEjecting, _, _, _⟩ := rest
    cases isEjecting <;> rfl
  | settings marker => exact ⟨rest, rfl⟩
  | delay peripheral marker =>
    refine ⟨rest, ?_⟩
    fin_cases peripheral <;> rfl

end Nav

/-- The world shows a settled page of the navigation machine: its markers, its
flags and its handlers. -/
def World.Displays (w : World) (nav : Nav) : Prop := ∃ rest, w.Shows (nav.panel rest)

def Move.key? : Move → Option Key
  | .key pressed => some pressed
  | _ => none

def Move.isCall : Move → Bool
  | .call _ => true
  | _ => false

/-- The keys are pressed when the panel is settled. -/
def PressedSettled (w : World) : Move → Prop
  | .key _ => w.ui.settled = true
  | _ => True

instance (w : World) : ∀ move, Decidable (PressedSettled w move)
  | .key _ => inferInstanceAs (Decidable (w.ui.settled = true))
  | .polls _ => isTrue trivial
  | .call _ => isTrue trivial

/-- Where the keys of a run lead from the menu with its marker on the first entry. -/
def navigate (inputs : List Move) : Nav := (inputs.filterMap Move.key?).foldl Nav.step (.menu 0)

/-- The concrete state simulates a page of the navigation machine. -/
structure Simulates (nav : Nav) (w : World) : Prop where
  displays : w.ui.settled = true → w.Displays nav
  /-- Four calls, with any polls in between, settle the panel. -/
  settles : ∀ moves : List Move, (∀ move ∈ moves, move.key? = none) →
    4 ≤ moves.countP Move.isCall →
      (runs World.move w moves).ui.settled = true ∧ (runs World.move w moves).Displays nav
  mainFunc_ok : ∀ env, ((mainFunc env).run w).1 ≠ -rtError
  enterSetting_ok : (enterSetting.run w).1 ≠ -rtError

/-- The invariant: at most four calls from the page. -/
def Approaches (nav : Nav) (w : World) : Prop := ∃ n ≤ 4, ∃ p, w.Shows p ∧ nav.Reaches n p

theorem World.Displays.settled {w : World} {nav : Nav} (h : w.Displays nav) :
    w.ui.settled = true := by
  obtain ⟨rest, hshows⟩ := h
  rw [hshows.ui]
  exact nav.settled_ui rest

theorem World.Displays.press {w : World} {nav : Nav} (h : w.Displays nav) (key : Key) :
    Approaches (nav.step key) (w.press key) := by
  obtain ⟨rest, hshows⟩ := h
  obtain ⟨n, hn, hreaches⟩ := nav.reaches_pressed key rest
  have hpressed : (nav.panel rest).press key = nav.pressed key rest := by
    cases key with
    | key1 => rfl
    | key2 => rfl
  exact ⟨n, hn, nav.pressed key rest, hpressed ▸ hshows.press key, hreaches⟩

namespace Approaches
variable {nav : Nav} {w : World}

theorem displays (h : Approaches nav w) (hsettled : w.ui.settled = true) : w.Displays nav := by
  obtain ⟨n, -, p, hshows, hreaches⟩ := h
  cases n with
  | zero =>
    obtain ⟨rest, rfl⟩ := hreaches
    exact ⟨rest, hshows⟩
  | succ n =>
    rw [hshows.ui, hreaches.1] at hsettled
    exact absurd hsettled Bool.false_ne_true

theorem known (h : Approaches nav w) : w.ui.known = true := by
  obtain ⟨n, -, p, hshows, hreaches⟩ := h
  rw [hshows.ui]
  cases n with
  | zero =>
    obtain ⟨rest, rfl⟩ := hreaches
    exact nav.known_ui rest
  | succ n => exact hreaches.2.1

theorem polls (h : Approaches nav w) (env : PollEnv) : Approaches nav (polls env w) := by
  obtain ⟨n, hn, p, hshows, hreaches⟩ := h
  exact ⟨n, hn, p, hshows.polls env, hreaches⟩

end Approaches

theorem move_key (w : World) (key : Key) : w.move (.key key) = w.press key := rfl

theorem move_polls (w : World) (env : PollEnv) : w.move (.polls env) = polls env w := rfl

theorem move_call (w : World) (env : FuncEnv) : w.move (.call env) = (mainFunc env).exec w := rfl

/-- One call of `mainFunc` comes one call nearer. -/
theorem reaches_exec {nav : Nav} {w : World} {n : Nat} {p : Panel} (hshows : w.Shows p)
    (hreaches : nav.Reaches n p) (env : FuncEnv) :
    ∃ p', ((mainFunc env).exec w).Shows p' ∧ nav.Reaches (n - 1) p' := by
  have hcall := mainFunc_takes env p w hshows
  refine ⟨p.call, hcall, ?_⟩
  cases n with
  | zero =>
    obtain ⟨rest, rfl⟩ := hreaches
    exact nav.call_panel rest
  | succ n => exact hreaches.2.2

/-- Moves without keys come nearer with every call of `mainFunc`. -/
theorem reaches_runs {nav : Nav} {w : World} {n : Nat} {p : Panel} (hshows : w.Shows p)
    (hreaches : nav.Reaches n p) (moves : List Move) (hkeys : ∀ move ∈ moves, move.key? = none) :
    ∃ p', (runs World.move w moves).Shows p' ∧ nav.Reaches (n - moves.countP Move.isCall) p' := by
  induction moves generalizing w n p with
  | nil => exact ⟨p, hshows, hreaches⟩
  | cons move moves ih =>
    rw [List.forall_mem_cons] at hkeys
    cases move with
    | key key => exact nomatch hkeys.1
    | polls env =>
      rw [runs_cons, move_polls, List.countP_cons_of_neg Bool.false_ne_true]
      exact ih (hshows.polls env) hreaches hkeys.2
    | call env =>
      obtain ⟨p', hshows', hreaches'⟩ := reaches_exec hshows hreaches env
      rw [runs_cons, move_call, List.countP_cons_of_pos rfl, Nat.add_comm, ← Nat.sub_sub]
      exact ih hshows' hreaches' hkeys.2

namespace Approaches
variable {nav : Nav} {w : World}

theorem call (h : Approaches nav w) (env : FuncEnv) : Approaches nav ((mainFunc env).exec w) := by
  obtain ⟨n, hn, p, hshows, hreaches⟩ := h
  obtain ⟨p', hshows', hreaches'⟩ := reaches_exec hshows hreaches env
  exact ⟨n - 1, by omega, p', hshows', hreaches'⟩

theorem simulates (h : Approaches nav w) : Simulates nav w where
  displays := h.displays
  settles moves hkeys hcalls := by
    obtain ⟨n, hn, p, hshows, hreaches⟩ := h
    obtain ⟨p', hshows', hreaches'⟩ := reaches_runs hshows hreaches moves hkeys
    have hzero : n - moves.countP Move.isCall = 0 := by omega
    rw [hzero] at hreaches'
    obtain ⟨rest, rfl⟩ := hreaches'
    have hdisplays : (runs World.move w moves).Displays nav := ⟨rest, hshows'⟩
    exact ⟨hdisplays.settled, hdisplays⟩
  mainFunc_ok env := by
    have hknown := h.known
    rw [mainFunc_returns]
    · decide
    · intro value hscene
      unfold Ui.known at hknown
      rw [hscene] at hknown
      exact nomatch hknown
  enterSetting_ok := by
    have hknown := h.known
    rw [enterSetting_returns]
    · decide
    · intro value hsetting
      unfold Ui.known at hknown
      rw [hsetting, Bool.and_false] at hknown
      exact nomatch hknown

end Approaches

/-- The main loop begins one call away from the menu. -/
theorem approaches_booted {w : World} (h : Booted w) : Approaches (.menu 0) w := by
  obtain ⟨⟨key1IsChanged, key2IsChanged, hui⟩, hpins⟩ := h.keys
  refine ⟨1, by decide, ⟨w.ui, none⟩, ?_, ?_⟩
  · exact ⟨rfl, keysReady_bootPins hpins, bound_bootPins hpins .key1, bound_bootPins hpins .key2⟩
  · rw [hui]
    exact ⟨rfl, rfl, ⟨_, _, _, _, _, _, _⟩, rfl⟩

theorem Approaches.run {nav : Nav} {w : World} (h : Approaches nav w) (inputs : List Move)
    (hinputs : Along World.move PressedSettled w inputs) :
    Approaches ((inputs.filterMap Move.key?).foldl Nav.step nav) (runs World.move w inputs) := by
  induction inputs generalizing nav w with
  | nil => exact h
  | cons move inputs ih =>
    obtain ⟨hpressed, hinputs⟩ := hinputs
    rw [runs_cons]
    cases move with
    | key key =>
      rw [move_key] at hinputs ⊢
      rw [List.filterMap_cons_some (rfl : Move.key? (.key key) = some key), List.foldl_cons]
      exact ih ((h.displays hpressed).press key) hinputs
    | polls env =>
      rw [move_polls] at hinputs ⊢
      rw [List.filterMap_cons_none (rfl : Move.key? (.polls env) = none)]
      exact ih (h.polls env) hinputs
    | call env =>
      rw [move_call] at hinputs ⊢
      rw [List.filterMap_cons_none (rfl : Move.key? (.call env) = none)]
      exact ih (h.call env) hinputs

/-- Every run in which the keys are pressed on a settled panel simulates the
navigation machine. -/
theorem navigation_simulates {w : World} (h : Booted w) (inputs : List Move)
    (hinputs : Along World.move PressedSettled w inputs) :
    Simulates (navigate inputs) (runs World.move w inputs) :=
  ((approaches_booted h).run inputs hinputs).simulates

/-- KEY1 moves the marker to TAKE_PHOTO, and KEY2 opens the page. -/
def openingTakePhoto : List Move :=
  [.call (silentPass 0).func, .key .key1, .call (silentPass 0).func, .key .key2,
    .polls (silentPass 0).poll, .call (silentPass 0).func]

theorem navigation_simulates_takePhoto :
    Simulates .takePhoto (runs World.move bootedWorld openingTakePhoto) :=
  have hnav : navigate openingTakePhoto = .takePhoto := by decide
  hnav ▸ navigation_simulates booted_bootedWorld openingTakePhoto (by decide +kernel)

end WeatherStation
