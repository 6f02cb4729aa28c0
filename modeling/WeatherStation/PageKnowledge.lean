import WeatherStation.PageRequests

/-! What is known between two statements of `mainFunc`: how the page variables
and the requests follow the page whose handlers are bound, and the rules that
carry such knowledge over the statements and the presses between them. -/
namespace WeatherStation
open Lib Gpio

theorem Scene.ofNat_mod (n : Nat) (value : Nat) : Scene.ofNat (n % 5) ≠ .other value := by
  have hlt : n % 5 < 5 := Nat.mod_lt n (by decide)
  generalize n % 5 = m at hlt
  match m, hlt with
  | 0, _ | 1, _ | 2, _ | 3, _ | 4, _ => exact fun h => nomatch h

theorem SettingSelect.ofNat_mod (n : Nat) (value : Nat) :
    SettingSelect.ofNat (n % 8) ≠ .other value := by
  have hlt : n % 8 < 8 := Nat.mod_lt n (by decide)
  generalize n % 8 = m at hlt
  match m, hlt with
  | 0, _ | 1, _ | 2, _ | 3, _ | 4, _ | 5, _ | 6, _ | 7, _ => exact fun h => nomatch h

/-- The page variables hold enumerators, and no press selects SETTING_NO. -/
def Ui.InRange (u : Ui) : Prop :=
  (∀ value, u.currScene ≠ .other value) ∧ (∀ value, u.selectScene ≠ .other value) ∧
    (∀ value, u.currSetting ≠ .other value) ∧
    u.selectSetting ≠ .no ∧ ∀ value, u.selectSetting ≠ .other value

theorem Ui.InRange.key1IrqMenu {u : Ui} (h : u.InRange) : u.key1IrqMenu.InRange := by
  refine ⟨h.1, fun value => ?_, h.2.2⟩
  unfold Ui.key1IrqMenu
  dsimp only
  split
  · exact fun hother => nomatch hother
  · exact Scene.ofNat_mod _ value

theorem Ui.InRange.key1IrqSettingSelect {u : Ui} (h : u.InRange) :
    u.key1IrqSettingSelect.InRange := by
  refine ⟨h.1, h.2.1, h.2.2.1, ?_, fun value => ?_⟩
  · unfold Ui.key1IrqSettingSelect
    dsimp only
    split
    · exact fun hno => nomatch hno
    · assumption
  · unfold Ui.key1IrqSettingSelect
    dsimp only
    split
    · exact fun hother => nomatch hother
    · exact SettingSelect.ofNat_mod _ value

theorem Ui.InRange.call {u : Ui} (h : u.InRange) (handler : Handler) :
    (handler.call u).InRange := by
  have hmenu : ∀ value, Scene.menu ≠ .other value := fun _ hother => nomatch hother
  cases handler with
  | key1IrqMenu => exact h.key1IrqMenu
  | key2IrqMenu => exact ⟨h.2.1, h.2.1, h.2.2⟩
  | key2IrqDispData => exact ⟨hmenu, h.2⟩
  | key2IrqTakePhoto => exact ⟨hmenu, h.2⟩
  | key2IrqSdCard => exact ⟨hmenu, h.2⟩
  | key1IrqSettingSelect => exact h.key1IrqSettingSelect
  | key2IrqSettingSelect => exact ⟨h.1, h.2.1, h.2.2.2.2, h.2.2.2⟩
  | key1Change => exact h
  | key2Change => exact h
  | key1IrqDispData => exact h
  | key1IrqTakePhoto => exact h
  | key1IrqSdCard => exact h
  | key1IrqSettingDelaySelect => exact h
  | key2IrqSettingDelaySelect => exact h

/-- A page change waits for its entry action. -/
def Ui.pending (u : Ui) : Bool :=
  u.sceneIsChanged ||
    (u.currScene = .settings && u.settingIsChanged) ||
    (u.page = some .delay && u.delayIsChanged)

/-- The pages whose handlers change no scene. -/
def InSettings (bound : Option Page) : Prop := bound = some .settings ∨ bound = some .delay

/-- What links the page variables to a bound page that is a scene. -/
def Ui.FollowsScene (bound : Option Page) (u : Ui) : Prop :=
  u.settingIsChanged = true ∧ u.delayIsChanged = true ∧
    (u.sceneIsChanged = true ∨ u.currScene = .settings ∧ u.currSetting = .no ∨
      u.page = bound ∧ u.currScene ≠ .settings)

/-- What links the page variables to the page whose handlers are bound. -/
def Ui.Follows (bound : Option Page) (u : Ui) : Prop :=
  u.InRange ∧
    match bound with
    | some .settings =>
      u.delayIsChanged = true ∧ (u.currScene = .settings ∨
        u.currScene = .menu ∧ u.sceneIsChanged = true ∧ u.settingIsChanged = true)
    | some .delay =>
      u.currScene = .settings ∧ u.sceneIsChanged = false ∧
          (u.currSetting = .no → u.settingIsChanged = true ∧ u.delayIsChanged = true) ∧
          (u.currSetting = .back → u.settingIsChanged = true) ∨
        u.currScene = .menu ∧ u.sceneIsChanged = true ∧ u.settingIsChanged = true ∧
          u.delayIsChanged = true
    | bound => u.FollowsScene bound

theorem Ui.follows_outside {bound : Option Page} (hbound : ¬InSettings bound) {u : Ui} :
    u.Follows bound ↔ u.InRange ∧ u.FollowsScene bound := by
  cases bound with
  | none => exact Iff.rfl
  | some page =>
    cases page with
    | settings => exact absurd (.inl rfl) hbound
    | delay => exact absurd (.inr rfl) hbound
    | _ => exact Iff.rfl

theorem Ui.InRange.page {u : Ui} (h : u.InRange) : u.page ≠ none := by
  obtain ⟨hscene, -, hsetting, -⟩ := h
  unfold Ui.page
  split
  · exact fun hnone => nomatch hnone
  · exact fun hnone => nomatch hnone
  · exact fun hnone => nomatch hnone
  · exact fun hnone => nomatch hnone
  · split
    · exact fun hnone => nomatch hnone
    · exact fun hnone => nomatch hnone
    · exact absurd ‹_› (hsetting _)
    · exact fun hnone => nomatch hnone
  · exact absurd ‹_› (hscene _)

theorem Ui.page_settings {u : Ui} (hrange : u.InRange) (hscene : u.currScene = .settings) :
    u.page = some (if u.currSetting = .no ∨ u.currSetting = .back then .settings else .delay) := by
  have hsetting := hrange.2.2.1
  unfold Ui.page
  rw [hscene]
  cases hcurr : u.currSetting with
  | other value => exact absurd hcurr (hsetting value)
  | _ => rfl

/-- The bound handlers are those of the page, unless a page change waits. -/
theorem Ui.Follows.page {bound : Option Page} {u : Ui} (h : u.Follows bound)
    (hsettled : u.pending = false) : u.page = bound := by
  obtain ⟨hrange, hbound⟩ := h
  simp only [Ui.pending, Bool.or_eq_false_iff, Bool.and_eq_false_imp, decide_eq_true_eq]
    at hsettled
  obtain ⟨⟨hscene, hsetting⟩, hdelay⟩ := hsettled
  have hpage := Ui.page_settings hrange
  by_cases hinside : InSettings bound
  · rcases hinside with rfl | rfl
    · rcases hbound with ⟨hchanged, hsettings | ⟨-, hraised, -⟩⟩
      · have hnot : u.page ≠ some .delay := fun heq => by simp [hdelay heq] at hchanged
        rw [hpage hsettings] at hnot ⊢
        split at hnot
        · rename_i hlist
          rw [if_pos hlist]
        · exact absurd rfl hnot
      · simp [hscene] at hraised
    · rcases hbound with ⟨hsettings, -, hno, hback⟩ | ⟨-, hraised, -⟩
      · have hchanged := hsetting hsettings
        rw [hpage hsettings, if_neg]
        rintro (hcurr | hcurr)
        · simp [hchanged] at hno
          exact hno hcurr
        · simp [hchanged] at hback
          exact hback hcurr
      · simp [hscene] at hraised
  · have houtside := ((Ui.follows_outside hinside).mp ⟨hrange, hbound⟩).2
    rcases houtside with ⟨hchanged, -, hraised | ⟨hsettings, -⟩ | ⟨hpage, -⟩⟩
    · simp [hscene] at hraised
    · simp [hsetting hsettings] at hchanged
    · exact hpage

theorem Ui.Follows.key1 {bound : Option Page} {u : Ui} (h : u.Follows bound) :
    ((pageKey1 bound).call u).Follows bound := by
  refine ⟨h.1.call _, ?_⟩
  have hbound := h.2
  cases bound with
  | none => exact hbound
  | some page => cases page <;> exact hbound

theorem Ui.Follows.key2 {bound : Option Page} {u : Ui} (h : u.Follows bound) :
    ((pageKey2 bound).call u).Follows bound := by
  refine ⟨h.1.call _, ?_⟩
  have hbound := h.2
  cases bound with
  | none => exact hbound
  | some page =>
    cases page with
    | settings =>
      refine ⟨hbound.1, hbound.2.imp_right ?_⟩
      exact fun hmenu => ⟨hmenu.1, hmenu.2.1, rfl⟩
    | delay =>
      refine hbound.imp ?_ ?_
      · rintro ⟨hscene, hchanged, hno, hback⟩
        exact ⟨hscene, hchanged, fun hsetting => ⟨(hno hsetting).1, rfl⟩, hback⟩
      · rintro ⟨hscene, hchanged, hsetting, -⟩
        exact ⟨hscene, hchanged, hsetting, rfl⟩
    | _ => exact ⟨hbound.1, hbound.2.1, .inl rfl⟩

namespace Asked
variable {bound : Option Page} {a : Asked}

/-- What the bound page says of the requests inside the settings, and of the
delay that a press there will find. -/
def Fits (bound : Option Page) (a : Asked) : Prop :=
  match bound with
  | some .settings =>
    a.requested.delay = none ∧ (a.currScene = .settings →
      (a.settingIsChanged = true ∨ a.currSetting = .no) ∨ a.currSetting = .back ∨
        a.currDelay = .no)
  | some .delay => True
  | _ => a.NoneInside

theorem fits_outside (hbound : ¬InSettings bound) : a.Fits bound ↔ a.NoneInside := by
  cases bound with
  | none => exact Iff.rfl
  | some page =>
    cases page with
    | settings => exact absurd (.inl rfl) hbound
    | delay => exact absurd (.inr rfl) hbound
    | _ => exact Iff.rfl

theorem press_settings_delay (h : a.requested.delay = none) :
    (a.press .key2IrqSettingSelect).requested.delay = none := by
  unfold Asked.press Requested.press
  dsimp only
  split
  · rfl
  · exact h

theorem Fits.key1 (h : a.Fits bound) : (a.press (pageKey1 bound)).Fits bound := by
  cases bound with
  | none => exact h
  | some page => cases page <;> exact h

theorem Fits.key2 (h : a.Fits bound) : (a.press (pageKey2 bound)).Fits bound := by
  cases bound with
  | none => exact h
  | some page =>
    cases page with
    | settings => exact ⟨press_settings_delay h.1, fun _ => .inl (.inl rfl)⟩
    | delay => trivial
    | _ => exact ⟨rfl, rfl⟩

def Follows (bound : Option Page) (a : Asked) : Prop := a.toUi.Follows bound ∧ a.Fits bound

end Asked

/-- A property of the page variables and the requests that the handlers keep
which the keys may run. -/
structure Known (key1 key2 : Option Handler → Prop) where
  holds : Asked → Prop
  kept : ∀ handler a, key1 (some handler) ∨ key2 (some handler) → holds a →
    holds (a.press handler)

/-- What the presses do to a state and its requests. -/
def World.pressAsked (key : Key) (s : World × Requested) : World × Requested :=
  (s.1.press key, (s.1.bound key).elim s.2 fun handler => s.2.press handler s.1.ui)

def World.asked (w : World) (requested : Requested) : Asked := ⟨w.ui, requested⟩

/-- The keys with the requests beside the state. -/
def pageKeys : Surroundings Stmt (World × Requested) where
  interferes s t := ∃ key, t = World.pressAsked key s
  grants label s := EntersOwnPage label s.1
  guarantees s := (s.1.asked s.2).Waits

/-- A triple of the program with the requests beside it. -/
def Prog.Watches {α : Type} (pre : Assertion pageKeys) (program : Prog α)
    (post : α → Assertion pageKeys) : Prop :=
  Program.Triple pre (program.watch Requested.take) post

namespace Prog.Watches
variable {α β : Type} {pre : Assertion pageKeys} {post : α → Assertion pageKeys}

theorem bind {mid : α → Assertion pageKeys} {post : β → Assertion pageKeys} {program : Prog α}
    {rest : α → Prog β} (hprogram : program.Watches pre mid)
    (hrest : ∀ a, (rest a).Watches (mid a) post) : (program >>= rest).Watches pre post := by
  unfold Prog.Watches
  rw [Program.watch_bind]
  exact Program.Triple.bind hprogram hrest

theorem pure {a : α} (hpost : ∀ s, pre s → post a s) :
    Prog.Watches pre (Pure.pure a : Prog α) post := Program.Triple.pure hpost

theorem strengthen {pre' : Assertion pageKeys} {program : Prog α}
    (hprogram : program.Watches pre' post) (hpre : ∀ s, pre s → pre' s) :
    program.Watches pre post := Program.Triple.strengthen hprogram hpre

theorem some {ι : Type} {family : ι → Assertion pageKeys} {program : Prog α}
    (h : ∀ i, program.Watches (family i) post) : program.Watches (.some family) post :=
  Program.Triple.some h

theorem readAt {label : Stmt} {read : World → α}
    (hread : ∀ s : World × Requested, pre s → EntersOwnPage label s.1 →
      post (read s.1) (s.1, s.2.take label)) :
    Prog.Watches pre (Program.readAt label read) post := Program.Triple.atomic hread

theorem read {read : World → α} (hread : ∀ s : World × Requested, pre s → post (read s.1) s) :
    Prog.Watches pre (Program.read read) post := readAt fun s hs _ => hread s hs

theorem assignAt {post : Unit → Assertion pageKeys} {label : Stmt} {update : World → World}
    (hupdate : ∀ s : World × Requested, pre s → EntersOwnPage label s.1 →
      post () (update s.1, s.2.take label)) :
    Prog.Watches pre (Program.assignAt label update) post := Program.Triple.atomic hupdate

theorem assign {post : Unit → Assertion pageKeys} {update : World → World}
    (hupdate : ∀ s : World × Requested, pre s → post () (update s.1, s.2)) :
    Prog.Watches pre (Program.assign update) post := assignAt fun s hs _ => hupdate s hs

theorem ite {c : Prop} [Decidable c] {left right : Prog α}
    (hleft : c → left.Watches pre post) (hright : ¬c → right.Watches pre post) :
    Prog.Watches pre (if c then left else right) post := by
  split
  · exact hleft ‹_›
  · exact hright ‹_›

end Prog.Watches

section
variable {key1 key2 : Option Handler → Prop}

def know (known : Known key1 key2) : Assertion pageKeys where
  holds s := s.1.KeysReady ∧ (key1 (s.1.bound .key1) ∧ key2 (s.1.bound .key2)) ∧
    (s.1.asked s.2).Waits ∧ known.holds (s.1.asked s.2)
  stable := by
    rintro ⟨w, requested⟩ _ ⟨hready, hbound, hwaits, hholds⟩ ⟨key, rfl⟩
    have hpins := World.press_pins w key
    have hbound' : key1 ((w.press key).bound .key1) ∧ key2 ((w.press key).bound .key2) := by
      unfold World.bound
      rw [hpins]
      exact hbound
    refine ⟨fun other => hpins.symm ▸ hready other, hbound', ?_⟩
    cases hkey : w.bound key with
    | none =>
      have hpressed : World.pressAsked key (w, requested) = (w, requested) := by
        simp only [World.pressAsked, World.press_none hkey, hkey, Option.elim]
      rw [hpressed]
      exact ⟨hwaits, hholds⟩
    | some handler =>
      have hpressed : (w.press key).asked (World.pressAsked key (w, requested)).2 =
          (w.asked requested).press handler := by
        simp only [World.pressAsked, World.asked, World.press_ui hkey, hkey, Option.elim]
        rfl
      have hkept : key1 (some handler) ∨ key2 (some handler) := by
        cases key with
        | key1 => exact .inl (hkey ▸ hbound.1)
        | key2 => exact .inr (hkey ▸ hbound.2)
      show ((w.press key).asked (World.pressAsked key (w, requested)).2).Waits ∧
        known.holds ((w.press key).asked (World.pressAsked key (w, requested)).2)
      rw [hpressed]
      exact ⟨hwaits.press handler, known.kept handler _ hkept hholds⟩
  guaranteed _ h := h.2.2.1

variable {known : Known key1 key2}

/-- An assignment to the page variables: the waiting requests must still stand in
them, and something is known of them afterwards. -/
theorem know_setUiAt (known' : Known key1 key2) {label : Stmt} {update : Ui → Ui}
    (h : ∀ w requested, key2 (w.bound .key2) → EntersOwnPage label w →
      (w.asked requested).Waits → known.holds (w.asked requested) →
      ((w.asked requested).assign label update).Waits ∧
        known'.holds ((w.asked requested).assign label update)) :
    (setUiAt label update).Watches (know known) fun _ => know known' :=
  .assignAt fun s hs hgranted =>
    ⟨hs.1, hs.2.1, h s.1 s.2 hs.2.1.2 hgranted hs.2.2.1 hs.2.2.2⟩

theorem know_setUi (known' : Known key1 key2) {update : Ui → Ui}
    (h : ∀ a : Asked, a.Waits → known.holds a →
      (a.assign .plain update).Waits ∧ known'.holds (a.assign .plain update)) :
    (setUi update).Watches (know known) fun _ => know known' :=
  know_setUiAt known' fun _ _ _ _ hwaits ha => h _ hwaits ha

theorem know_readUi {α : Type} (known' : α → Known key1 key2) {read : Ui → α}
    (h : ∀ a : Asked, known.holds a → (known' (read a.toUi)).holds a) :
    (readUi read).Watches (know known) fun a => know (known' a) :=
  .read fun _ hs => ⟨hs.1, hs.2.1, hs.2.2.1, h _ hs.2.2.2⟩

theorem know_assignAt {label : Stmt} {update : World → World}
    (hlabel : ∀ requested : Requested, requested.take label = requested)
    (hpins : ∀ w, (update w).pins = w.pins) (hui : ∀ w, (update w).ui = w.ui) :
    Prog.Watches (know known) (Program.assignAt label update) fun _ => know known := by
  apply Prog.Watches.assignAt
  intro s hs _
  have hasked : (update s.1).asked (s.2.take label) = s.1.asked s.2 := by
    rw [hlabel, World.asked, hui]
    rfl
  refine ⟨fun key => (hpins s.1).symm ▸ hs.1 key, ?_, ?_⟩
  · unfold World.bound
    rw [hpins]
    exact hs.2.1
  · rw [hasked]
    exact hs.2.2

def Known.detachKey1 (known : Known key1 key2) : Known (· = none) key2 where
  holds := known.holds
  kept handler a hkey := known.kept handler a (.inr (hkey.resolve_left nofun))

def Known.attachKey1 (known : Known key1 key2) (handler : Handler)
    (h : ∀ a : Asked, known.holds a → known.holds (a.press handler)) :
    Known (· = some handler) key2 where
  holds := known.holds
  kept other a hkey ha := by
    rcases hkey with hkey | hkey
    · rw [Option.some.inj hkey]
      exact h a ha
    · exact known.kept other a (.inr hkey) ha

/-- Before the handler of KEY2 is attached. -/
def Known.beforeKey2 (known : Known key1 key2) : Known key1 (· = none) where
  holds := known.holds
  kept handler a hkey := known.kept handler a (.inl (hkey.resolve_right nofun))

theorem know_enableIrq (key : Key) :
    Prog.Watches (know known) (Program.assign (World.enableIrq key)) fun _ => know known := by
  apply Prog.Watches.assign
  intro w hw
  refine ⟨hw.1.enableIrq, ?_, hw.2.2⟩
  rw [World.bound_enableIrq hw.1, World.bound_enableIrq hw.1]
  exact hw.2.1

theorem know_rebindKey1 {handler : Handler}
    (h : ∀ a : Asked, known.holds a → known.holds (a.press handler)) :
    (rebindKey1 handler).Watches (know known) fun _ => know (known.attachKey1 handler h) := by
  have hother : Key.key2 ≠ Key.key1 := by decide
  have hdetach : Prog.Watches (know known) (Program.assign (World.detachIrq .key1))
      fun _ => know known.detachKey1 := by
    apply Prog.Watches.assign
    intro w hw
    refine ⟨hw.1.detachIrq, ⟨World.bound_detachIrq hw.1, ?_⟩, hw.2.2⟩
    rw [World.bound_detachIrq_other hother]
    exact hw.2.1.2
  have hattach : Prog.Watches (know known.detachKey1)
      (Program.assign (World.attachIrq .key1 handler)) fun _ => know (known.attachKey1 handler h) := by
    apply Prog.Watches.assign
    intro w hw
    have hfree := hw.2.1.1
    refine ⟨hw.1.attachIrq hfree, ⟨World.bound_attachIrq hw.1 hfree, ?_⟩, hw.2.2⟩
    rw [World.bound_attachIrq_other hother]
    exact hw.2.1.2
  exact hdetach.bind fun _ => hattach.bind fun _ => know_enableIrq .key1

theorem know_rebindKey2 {handler handler' : Handler} {known : Known (· = some handler) key2}
    {final : Known (· = some handler) (· = some handler')}
    (hgrant : ∀ w requested, (w.asked requested).Waits → known.holds (w.asked requested) →
      EntersOwnPage (.detachKey2 handler') w → final.holds (w.asked requested)) :
    (rebindKey2 handler').Watches (know known) fun _ => know final := by
  have hother : Key.key1 ≠ Key.key2 := by decide
  have hdetach : Prog.Watches (know known)
      (Program.assignAt (.detachKey2 handler') (World.detachIrq .key2))
      fun _ => know final.beforeKey2 := by
    apply Prog.Watches.assignAt
    intro s hw hgranted
    refine ⟨hw.1.detachIrq, ⟨?_, World.bound_detachIrq hw.1⟩, hw.2.2.1,
      hgrant s.1 s.2 hw.2.2.1 hw.2.2.2 hgranted⟩
    rw [World.bound_detachIrq_other hother]
    exact hw.2.1.1
  have hattach : Prog.Watches (know final.beforeKey2)
      (Program.assign (World.attachIrq .key2 handler')) fun _ => know final := by
    apply Prog.Watches.assign
    intro w hw
    have hfree := hw.2.1.2
    refine ⟨hw.1.attachIrq hfree, ⟨?_, World.bound_attachIrq hw.1 hfree⟩, hw.2.2⟩
    rw [World.bound_attachIrq_other hother]
    exact hw.2.1.1
  exact hdetach.bind fun _ => hattach.bind fun _ => know_enableIrq .key2

/-- Rebinding both keys: what is known must be kept by the old KEY2 handler and
the new KEY1 handler, and give what is to be known on the new page. -/
theorem know_rebind {α : Type} (page : Page) {rest : Prog α} {post : α → Assertion pageKeys}
    {final : Known (· = some page.key1) (· = some page.key2)}
    (hkept : ∀ a : Asked, known.holds a → known.holds (a.press page.key1))
    (hgrant : ∀ w requested, (w.asked requested).Waits → known.holds (w.asked requested) →
      EntersOwnPage (.detachKey2 page.key2) w → final.holds (w.asked requested))
    (hrest : rest.Watches (know final) post) :
    Prog.Watches (know known) (do
      rebindKey1 page.key1
      rebindKey2 page.key2
      rest) post :=
  (know_rebindKey1 hkept).bind fun _ => (know_rebindKey2 hgrant).bind fun _ => hrest

end

theorem Handler.call_delayIsChanged (handler : Handler) {u : Ui} (h : u.delayIsChanged = true) :
    (handler.call u).delayIsChanged = true := by
  cases handler <;> first | exact h | rfl

namespace Known
variable {key1 key2 : Option Handler → Prop}

def and (known known' : Known key1 key2) : Known key1 key2 where
  holds a := known.holds a ∧ known'.holds a
  kept handler a hkey h := ⟨known.kept handler a hkey h.1, known'.kept handler a hkey h.2⟩

/-- What every handler keeps is about the page variables alone. -/
def always (holds : Ui → Prop) (h : ∀ u handler, holds u → holds (Handler.call handler u)) :
    Known key1 key2 := ⟨fun a => holds a.toUi, fun handler a _ => h a.toUi handler⟩

def inRange : Known key1 key2 := always Ui.InRange fun _ handler h => h.call handler

def settingChanged : Known key1 key2 :=
  always (·.settingIsChanged = true) fun _ handler h => by cases handler <;> first | exact h | rfl

def delayChanged : Known key1 key2 :=
  always (·.delayIsChanged = true) fun _ handler h => handler.call_delayIsChanged h

def never : Known key1 key2 := always (fun _ => False) fun _ _ h => h

/-- The scene, unless a press has changed it since. -/
def sceneWas (scene : Scene) : Known key1 key2 :=
  always (fun u => u.currScene = scene ∨ u.sceneIsChanged = true) fun _ handler h => by
    cases handler <;> first | exact h | exact .inr rfl

end Known

abbrev KnownOn (bound : Option Page) : Type :=
  Known (· = some (pageKey1 bound)) (· = some (pageKey2 bound))

namespace KnownOn
variable {bound : Option Page}

def mk (holds : Asked → Prop) (h1 : ∀ a, holds a → holds (a.press (pageKey1 bound)))
    (h2 : ∀ a, holds a → holds (a.press (pageKey2 bound))) : KnownOn bound where
  holds := holds
  kept handler a hkey ha := by
    rcases hkey with hkey | hkey
    · rw [Option.some.inj hkey]
      exact h1 a ha
    · rw [Option.some.inj hkey]
      exact h2 a ha

/-- When the entry action of a scene begins. -/
def requested (bound : Option Page) : KnownOn bound :=
  Known.inRange.and (Known.settingChanged.and Known.delayChanged)

/-- `sceneWas` on a bound page. -/
def was (bound : Option Page) (scene : Scene) : KnownOn bound := Known.sceneWas scene

/-- Nothing is requested inside the settings, nor will be. -/
def quiet (bound : Option Page) : KnownOn bound :=
  mk (fun a => a.NoneInside ∧ (InSettings bound → a.currScene ≠ .settings))
    (fun a h => by
      cases bound with
      | none => exact h
      | some page => cases page <;> exact h)
    fun a h => by
      cases bound with
      | none => exact h
      | some page =>
        cases page with
        | settings =>
          have hscene : ¬a.currScene = .settings := h.2 (.inl rfl)
          have hpressed : (a.press Page.settings.key2).requested = a.requested := if_neg hscene
          exact ⟨⟨hpressed ▸ h.1.1, hpressed ▸ h.1.2⟩, h.2⟩
        | delay =>
          have hpage : ¬a.page = some .delay := fun hpage =>
            h.2 (.inr rfl) (Ui.scene_of_delay hpage)
          have hpressed : (a.press Page.delay.key2).requested = a.requested := if_neg hpage
          exact ⟨⟨hpressed ▸ h.1.1, hpressed ▸ h.1.2⟩, h.2⟩
        | _ => exact ⟨⟨rfl, rfl⟩, fun hinside => absurd hinside (by simp [InSettings])⟩

theorem quiet_key1 {a : Asked} (page : Page) (h : (quiet bound).holds a) :
    (quiet bound).holds (a.press page.key1) := by
  cases page <;> exact h

/-- When it has cleared the flag. -/
def entered (bound : Option Page) (scene : Scene) : KnownOn bound :=
  (requested bound).and ((was bound scene).and (quiet bound))

def follows (bound : Option Page) : KnownOn bound :=
  mk (Asked.Follows bound) (fun _ h => ⟨h.1.key1, h.2.key1⟩) fun _ h => ⟨h.1.key2, h.2.key2⟩

/-- The settings pages leave the scene alone. -/
def scene (hbound : InSettings bound) (holds : Scene → Bool → Prop) : KnownOn bound :=
  mk (fun u => holds u.currScene u.sceneIsChanged)
    (fun u h => by rcases hbound with rfl | rfl <;> exact h)
    fun u h => by rcases hbound with rfl | rfl <;> exact h

/-- The other pages leave the setting alone. -/
def setting (hbound : ¬InSettings bound) (holds : SettingSelect → Prop) : KnownOn bound :=
  mk (fun u => holds u.currSetting)
    (fun u h => by
      cases bound with
      | none => exact h
      | some page => cases page <;> exact h)
    fun u h => by
      cases bound with
      | none => exact h
      | some page =>
        cases page with
        | settings => exact absurd (.inl rfl) hbound
        | delay => exact absurd (.inr rfl) hbound
        | _ => exact h

end KnownOn

section
variable {key1 key2 : Option Handler → Prop} {known : Known key1 key2}

theorem know_branch {α : Type} {read : Ui → Bool} {post : α → Assertion pageKeys}
    {left right : Prog α} (knownTrue knownFalse : Known key1 key2)
    (htrue : ∀ a : Asked, known.holds a → read a.toUi = true → knownTrue.holds a)
    (hfalse : ∀ a : Asked, known.holds a → read a.toUi = false → knownFalse.holds a)
    (hleft : left.Watches (know knownTrue) post) (hright : right.Watches (know knownFalse) post) :
    Prog.Watches (know known) (do if ← readUi read then left else right) post := by
  have hread : (readUi read).Watches (know known)
      fun c => know (if c = true then knownTrue else knownFalse) := by
    apply know_readUi
    intro a ha
    cases hc : read a.toUi with
    | false => exact hfalse a ha hc
    | true => exact htrue a ha hc
  apply hread.bind
  intro c
  cases c with
  | false => exact hright
  | true => exact hleft

theorem know_strengthen {α : Type} {program : Prog α} {post : α → Assertion pageKeys}
    (known' : Known key1 key2) (h : ∀ a : Asked, a.Waits → known.holds a → known'.holds a)
    (hprogram : program.Watches (know known') post) : program.Watches (know known) post :=
  hprogram.strengthen fun _ hs => ⟨hs.1, hs.2.1, hs.2.2.1, h _ hs.2.2.1 hs.2.2.2⟩

theorem know_absurd {α : Type} {program : Prog α} {post : α → Assertion pageKeys}
    (h : ∀ a, ¬known.holds a) : program.Watches (know known) post :=
  fun _ hs => absurd hs.2.2.2 (h _)

theorem know_clearSceneIsChanged {scene : Scene} (known' : Known key1 key2)
    (h : ∀ a : Asked, a.Waits → known.holds a → a.currScene = scene →
      known'.holds (a.assign (.clearSceneIsChanged scene) fun u =>
        { u with sceneIsChanged := false })) :
    (clearSceneIsChanged scene).Watches (know known) fun _ => know known' :=
  .assignAt fun _ hs hgranted =>
    ⟨hs.1, hs.2.1, ⟨nofun, hs.2.2.1.setting, hs.2.2.1.delay⟩, h _ hs.2.2.1 hs.2.2.2 hgranted⟩

end

/-- Some pair of handlers is bound, and the page variables follow it. -/
def pageInvariant : Assertion pageKeys := .some fun bound => know (KnownOn.follows bound)

section
variable {bound : Option Page}

theorem know_done {α : Type} {a : α} :
    Prog.Watches (know (KnownOn.follows bound)) (pure a : Prog α) fun _ => pageInvariant :=
  .pure fun _ hw => ⟨bound, hw⟩

theorem know_draw {known : KnownOn bound} {task : World → World}
    (htask : ∀ w : World, w.Quietly (task w)) :
    (draw task).Watches (know known) fun _ => know known := by
  apply know_assignAt
  · exact fun _ => rfl
  · intro w
    obtain ⟨events, -, hw⟩ := htask w
    rw [hw]
    rfl
  · intro w
    obtain ⟨events, -, hw⟩ := htask w
    rw [hw]
    rfl

theorem know_draws {known : KnownOn bound} {task : World → World}
    (htask : ∀ w : World, w.Draws (task w)) :
    (draw task).Watches (know known) fun _ => know known :=
  know_draw fun w => (htask w).quietly

end
end WeatherStation
