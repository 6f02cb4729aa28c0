import WeatherStation.PageKnowledge

/-! From page to page: which handlers are bound when no page change is pending,
and whose entry action takes a request.  A press between the test of a page
variable and the clearing of its flag is consumed by the wrong page. -/
namespace WeatherStation
open Lib Gpio

section
variable {bound : Option Page}

def Page.scene : Page → Scene
  | menu => .menu
  | dispData => .dispData
  | takePhoto => .takePhoto
  | sdCard => .sdCard
  | settings => .settings
  | delay => .settings

theorem Page.page_scene {page : Page} (hpage : page.scene ≠ .settings) {u : Ui}
    (hscene : u.currScene = page.scene) : u.page = some page := by
  unfold Ui.page
  rw [hscene]
  cases page with
  | settings => exact absurd rfl hpage
  | delay => exact absurd rfl hpage
  | _ => rfl

theorem Page.outside {page : Page} (hpage : page.scene ≠ .settings) : ¬InSettings (some page) := by
  rintro (h | h)
  · rw [Option.some.inj h] at hpage
    exact hpage rfl
  · rw [Option.some.inj h] at hpage
    exact hpage rfl

theorem follows_entered {page : Page} (hpage : page.scene ≠ .settings) {a : Asked}
    (h : (KnownOn.entered bound page.scene).holds a) : a.Follows (some page) := by
  obtain ⟨⟨hrange, hsetting, hdelay⟩, hscene, hquiet⟩ := h
  refine ⟨?_, (Asked.fits_outside (Page.outside hpage)).mpr hquiet.1⟩
  rw [Ui.follows_outside (Page.outside hpage)]
  refine ⟨hrange, hsetting, hdelay, ?_⟩
  rcases hscene with hscene | hchanged
  · exact .inr (.inr ⟨Page.page_scene hpage hscene, hscene ▸ hpage⟩)
  · exact .inl hchanged

/-- The entry action of a scene takes over whatever page was bound. -/
theorem enterScene (page : Page) (hpage : page.scene ≠ .settings) {rest : Prog RtErr}
    (hrest : rest.Watches (know (KnownOn.follows (some page))) fun _ => pageInvariant) :
    Prog.Watches (know (KnownOn.requested bound)) (do
      clearSceneIsChanged page.scene
      rebindKey1 page.key1
      rebindKey2 page.key2
      rest) fun _ => pageInvariant := by
  have hclear : (clearSceneIsChanged page.scene).Watches (know (KnownOn.requested bound))
      fun _ => know (KnownOn.entered bound page.scene) := by
    apply know_clearSceneIsChanged
    intro a hwaits ha hscene
    have hne : a.currScene ≠ .settings := fun hsettings => hpage (hscene.symm.trans hsettings)
    exact ⟨ha, .inl hscene, hwaits.noneInside hne, fun _ => hne⟩
  have hkept : ∀ a : Asked, (KnownOn.entered bound page.scene).holds a →
      (KnownOn.entered bound page.scene).holds (a.press page.key1) := by
    intro a ha
    have hrequested := (KnownOn.requested (some page)).kept page.key1 a (.inl rfl) ha.1
    have hscene : (KnownOn.was (some page) page.scene).holds (a.press page.key1) :=
      (KnownOn.was (some page) page.scene).kept page.key1 a (.inl rfl) ha.2.1
    exact ⟨hrequested, hscene, KnownOn.quiet_key1 page ha.2.2⟩
  exact hclear.bind fun _ =>
    know_rebind page hkept (fun _ _ _ ha _ => follows_entered hpage ha) hrest

namespace KnownOn

def atScene (bound : Option Page) (scene : Scene) : KnownOn bound :=
  (follows bound).and <| mk
    (fun u => u.currScene = scene ∨ ¬InSettings bound ∧ u.sceneIsChanged = true)
    (fun u h => by
      cases bound with
      | none => exact h
      | some page => cases page <;> exact h)
    fun u h => by
      by_cases hbound : InSettings bound
      · rcases hbound with rfl | rfl <;> exact h
      · cases bound with
        | none => exact h
        | some page =>
          cases page with
          | settings => exact absurd (.inl rfl) hbound
          | delay => exact absurd (.inr rfl) hbound
          | _ => exact .inr ⟨hbound, rfl⟩

theorem requested_of_follows (hbound : ¬InSettings bound) {a : Asked}
    (h : a.toUi.Follows bound) : (requested bound).holds a := by
  obtain ⟨hrange, hsetting, hdelay, -⟩ := (Ui.follows_outside hbound).mp h
  exact ⟨hrange, hsetting, hdelay⟩

theorem requested_of_atScene {scene : Scene} (hscene : scene ≠ .settings) {a : Asked}
    (h : (atScene bound scene).holds a) (hchanged : a.sceneIsChanged = true) :
    (requested bound).holds a := by
  obtain ⟨⟨hfollows, -⟩, hwas⟩ := h
  by_cases hbound : InSettings bound
  · obtain ⟨hrange, hfollows⟩ := hfollows
    have hcurr := hwas.resolve_right fun hnot => hnot.1 hbound
    rcases hbound with rfl | rfl
    · have hmenu := hfollows.2.resolve_left fun hsettings => hscene (hcurr.symm.trans hsettings)
      exact ⟨hrange, hmenu.2.2, hfollows.1⟩
    · rcases hfollows with ⟨-, hclear, -⟩ | ⟨-, -, hsetting, hdelay⟩
      · exact absurd hchanged (by simp [hclear])
      · exact ⟨hrange, hsetting, hdelay⟩
  · exact requested_of_follows hbound hfollows

end KnownOn

theorem know_scene (page : Page) (hpage : page.scene ≠ .settings) {enter stay : Prog RtErr}
    (henter : enter.Watches (know (KnownOn.follows (some page))) fun _ => pageInvariant)
    (hstay : stay.Watches (know (KnownOn.follows bound)) fun _ => pageInvariant) :
    Prog.Watches (know (KnownOn.atScene bound page.scene)) (do
      if ← readUi (·.sceneIsChanged) then
        clearSceneIsChanged page.scene
        rebindKey1 page.key1
        rebindKey2 page.key2
        enter
      else stay) fun _ => pageInvariant := by
  apply know_branch (KnownOn.requested bound) (KnownOn.follows bound)
  · exact fun u hu hchanged => KnownOn.requested_of_atScene hpage hu hchanged
  · exact fun u hu _ => hu.1
  · exact enterScene page hpage henter
  · exact hstay

theorem sceneMenu_pages :
    sceneMenu.Watches (know (KnownOn.atScene bound .menu)) fun _ => pageInvariant := by
  apply know_scene .menu (by decide)
  · exact (know_draws menuTask_draws).bind fun _ => know_done
  · apply know_branch (KnownOn.follows bound) (KnownOn.follows bound)
    · exact fun u hu _ => hu
    · exact fun u hu _ => hu
    · refine (know_setUi (KnownOn.follows bound) ?_).bind fun _ =>
        (know_draws menuUpdateSelect_draws).bind fun _ => know_done
      exact fun _ h hu => ⟨⟨h.1, h.2, h.3⟩, hu⟩
    · exact know_done

theorem sceneTakePhoto_pages :
    sceneTakePhoto.Watches (know (KnownOn.atScene bound .takePhoto)) fun _ => pageInvariant := by
  apply know_scene .takePhoto (by decide)
  · exact know_done
  · exact (know_draws takePhotoTask_draws).bind fun _ => know_done

theorem dispDataPoll_pages (tick : UInt32) {known : KnownOn bound} :
    (dispDataPoll tick).Watches (know known) fun _ => know known := by
  have hread : Prog.Watches (know known)
      (Program.read fun w : World => (w.timers .dispData).due tick) fun _ => know known :=
    .read fun _ hs => hs
  have hsample : Prog.Watches (know known)
      (Program.assign fun w : World => w.setTimer .dispData (·.sample tick))
      fun _ => know known := know_assignAt (fun _ => rfl) (fun _ => rfl) fun _ => rfl
  have hrestart : Prog.Watches (know known)
      (Program.assign fun w : World => w.setTimer .dispData (·.restart tick))
      fun _ => know known := know_assignAt (fun _ => rfl) (fun _ => rfl) fun _ => rfl
  refine hsample.bind fun _ => hread.bind fun due => .ite (fun _ => ?_) fun _ => ?_
  · exact hrestart.bind fun _ => know_draw dispDataUpdateData_quietly
  · exact .pure fun _ hw => hw

theorem dispDataSave_pages (env : SaveEnv) :
    (dispDataSave env).Watches (know (KnownOn.follows bound)) fun _ =>
      know (KnownOn.follows bound) := by
  have hread : Prog.Watches (know (KnownOn.follows bound))
      (Program.readAt .testIsSavingData fun w : World => w.ui.isSavingData)
      fun _ => know (KnownOn.follows bound) := .readAt fun _ hs _ => hs
  refine hread.bind fun saving => .ite (fun _ => ?_) fun _ => .pure fun _ hw => hw
  refine (know_setUi (KnownOn.follows bound) ?_).bind fun _ =>
    know_assignAt (fun _ => rfl) ?_ ?_
  · exact fun _ h hu => ⟨⟨h.1, h.2, h.3⟩, hu⟩
  · intro w
    rw [sdcardSaveCurrData_eq]
    rfl
  · intro w
    rw [sdcardSaveCurrData_eq]
    rfl

theorem sceneDispData_pages (env : FuncEnv) :
    (sceneDispData env).Watches (know (KnownOn.atScene bound .dispData)) fun _ =>
      pageInvariant := by
  apply know_scene .dispData (by decide)
  · refine (know_assignAt ?_ ?_ ?_).bind fun _ => know_done
    · exact fun _ => rfl
    · exact fun _ => rfl
    · exact fun _ => rfl
  · exact (dispDataPoll_pages _).bind fun _ => (dispDataSave_pages _).bind fun _ => know_done

theorem sceneSdCard_pages (env : FuncEnv) :
    (sceneSdCard env).Watches (know (KnownOn.atScene bound .sdCard)) fun _ => pageInvariant := by
  apply know_scene .sdCard (by decide)
  · exact (know_draws sdCardTask_draws).bind fun _ => know_done
  · have hread : (readUi (·.isEjecting)).Watches (know (KnownOn.follows bound))
        fun _ => know (KnownOn.follows bound) := .read fun _ hw => hw
    have hconfirm : (sdCardConfirm env.dfsUnmount).Watches (know (KnownOn.follows bound))
        fun _ => know (KnownOn.follows bound) := by
      refine hread.bind fun ejecting => .ite (fun _ => ?_) fun _ => .pure fun _ hw => hw
      refine (know_setUi (KnownOn.follows bound) ?_).bind fun _ =>
        know_assignAt (fun _ => rfl) ?_ ?_
      · exact fun _ h hu => ⟨⟨h.1, h.2, h.3⟩, hu⟩
      · intro w
        rw [sdCardEject_eq]
        rfl
      · intro w
        rw [sdCardEject_eq]
        rfl
    exact hconfirm.bind fun _ => know_done

namespace KnownOn

/-- When the settings page is about to take over. -/
def opening (bound : Option Page) : KnownOn bound := Known.inRange.and Known.delayChanged

/-- A page that is a scene saw SCENE_SETTINGS, but not its settings page yet. -/
def waiting (hbound : ¬InSettings bound) : KnownOn bound :=
  (follows bound).and (setting hbound (· = .no))

/-- A page of the settings sees SCENE_SETTINGS without a change of the scene. -/
def inSettings (hbound : InSettings bound) : KnownOn bound :=
  (follows bound).and (scene hbound fun scene changed => scene = .settings ∧ changed = false)

theorem waiting_of_atScene (hbound : ¬InSettings bound) {a : Asked}
    (h : (atScene bound .settings).holds a) (hclear : a.sceneIsChanged = false) :
    (waiting hbound).holds a := by
  obtain ⟨hfollows, hwas⟩ := h
  have hcurr : a.currScene = .settings := hwas.resolve_right fun hchanged =>
    absurd hchanged.2 (by simp [hclear])
  refine ⟨hfollows, ?_⟩
  rcases ((Ui.follows_outside hbound).mp hfollows.1).2.2.2 with hchanged | ⟨-, hno⟩ | ⟨-, hnot⟩
  · exact absurd hchanged (by simp [hclear])
  · exact hno
  · exact absurd hcurr hnot

/-- When the settings page has cleared its flag, until its KEY2 handler is attached. -/
def opened (bound : Option Page) : KnownOn bound :=
  (opening bound).and <| mk
    (fun a => (a.settingIsChanged = true ∨ a.currSetting = .no) ∧ a.requested.delay = none ∧
      (bound = some .delay → a.currSetting = .no))
    (fun a h => by
      cases bound with
      | none => exact h
      | some page => cases page <;> exact h)
    fun a h => by
      cases bound with
      | none => exact h
      | some page =>
        cases page with
        | settings => exact ⟨.inl rfl, Asked.press_settings_delay h.2.1, nofun⟩
        | delay =>
          have hpage : ¬a.page = some .delay := fun hpage =>
            (Ui.setting_of_delay hpage).1 (h.2.2 rfl)
          have hpressed : (a.press Page.delay.key2).requested = a.requested := if_neg hpage
          exact ⟨h.1, hpressed ▸ h.2.1, h.2.2⟩
        | _ => exact ⟨h.1, rfl, nofun⟩

theorem opened_key1 {a : Asked} (h : (opened bound).holds a) :
    (opened bound).holds (a.press .key1IrqSettingSelect) := ⟨⟨h.1.1.call _, h.1.2⟩, h.2⟩

theorem opened_follows {a : Asked} (h : (opened bound).holds a) (hscene : a.currScene = .settings) :
    a.Follows (some .settings) :=
  ⟨⟨h.1.1, h.1.2, .inl hscene⟩, h.2.2.1, fun _ => .inl h.2.1⟩

end KnownOn

theorem enterSettingsPage {rest : Prog RtErr}
    (hrest : rest.Watches (know (KnownOn.follows (some .settings))) fun _ => pageInvariant) :
    Prog.Watches (know (KnownOn.opening bound)) (do
      setUiAt (.clearSettingIsChanged .no) fun u => { u with settingIsChanged := false }
      rebindKey1 .key1IrqSettingSelect
      rebindKey2 .key2IrqSettingSelect
      rest) fun _ => pageInvariant := by
  refine (know_setUiAt (KnownOn.opened bound) ?_).bind fun _ => know_rebind .settings ?_ ?_ hrest
  · intro w requested _ hno hwaits ha
    have hpage : (w.asked requested).page ≠ some .delay := fun hpage =>
      (Ui.setting_of_delay hpage).1 hno
    exact ⟨⟨hwaits.scene, nofun, hwaits.delay⟩, ha, .inr hno, hwaits.noDelay hpage, fun _ => hno⟩
  · exact fun _ ha => KnownOn.opened_key1 ha
  · exact fun _ _ _ ha hscene => KnownOn.opened_follows ha (hscene rfl)

/-- The branch SETTING_NO of `enter_SETTING`. -/
theorem settingsPage_pages {known : KnownOn bound}
    (hopening : ∀ a, known.holds a → (KnownOn.opening bound).holds a)
    (hfollows : ∀ a, known.holds a → a.Follows bound) :
    Prog.Watches (know known) (do
      if ← readUi (·.settingIsChanged) then
        setUiAt (.clearSettingIsChanged .no) fun u => { u with settingIsChanged := false }
        rebindKey1 .key1IrqSettingSelect
        rebindKey2 .key2IrqSettingSelect
        draw settingsTask
        return rtEok
      else if ← readUi (·.settingSelectIsChanged) then
        setUi fun u => { u with settingSelectIsChanged := false }
        draw settingsUpdateSelect
        return rtEok
      else return rtEok) fun _ => pageInvariant := by
  apply know_branch (KnownOn.opening bound) (KnownOn.follows bound)
  · exact fun u hu _ => hopening u hu
  · exact fun u hu _ => hfollows u hu
  · exact enterSettingsPage ((know_draws settingsTask_draws).bind fun _ => know_done)
  · apply know_branch (KnownOn.follows bound) (KnownOn.follows bound)
    · exact fun u hu _ => hu
    · exact fun u hu _ => hu
    · refine (know_setUi (KnownOn.follows bound) ?_).bind fun _ =>
        (know_draws settingsUpdateSelect_draws).bind fun _ => know_done
      exact fun _ h hu => ⟨⟨h.1, h.2, h.3⟩, hu⟩
    · exact know_done

/-- SCENE_SETTINGS seen from a page that is a scene. -/
theorem sceneSettings_outside (hbound : ¬InSettings bound) :
    sceneSettings.Watches (know (KnownOn.atScene bound .settings)) fun _ => pageInvariant := by
  apply know_branch (KnownOn.follows bound) (KnownOn.waiting hbound)
  · exact fun _ ha _ => ha.1
  · exact fun _ ha hclear => KnownOn.waiting_of_atScene hbound ha hclear
  · have hclear : (clearSceneIsChanged .settings).Watches (know (KnownOn.follows bound))
        fun _ => know (KnownOn.entered bound .settings) := by
      apply know_clearSceneIsChanged
      intro a hwaits ha hscene
      have hnone := (Asked.fits_outside hbound).mp ha.2
      have hrequested := KnownOn.requested_of_follows hbound ha.1
      exact ⟨hrequested, .inl hscene, hnone, fun hinside => absurd hinside hbound⟩
    refine hclear.bind fun _ => (know_setUi (KnownOn.entered bound .settings) ?_).bind fun _ =>
      (know_setUiAt (KnownOn.follows bound) ?_).bind fun _ =>
      (know_setUi (KnownOn.follows bound) ?_).bind fun _ => know_done
    · exact fun _ h ha => ⟨⟨h.1, h.2, h.3⟩, ha⟩
    · rintro w requested - - hwaits ⟨⟨hrange, hsetting, hdelay⟩, hscene, ⟨hnoSetting, hnoDelay⟩, -⟩
      refine ⟨⟨hwaits.scene, ?_, ?_⟩, (Ui.follows_outside hbound).mpr ⟨?_, hsetting, hdelay, ?_⟩,
        (Asked.fits_outside hbound).mpr ⟨hnoSetting, hnoDelay⟩⟩
      · exact fun target htarget => absurd (hnoSetting.symm.trans htarget) nofun
      · exact fun target htarget => absurd (hnoDelay.symm.trans htarget) nofun
      · exact ⟨hrange.1, hrange.2.1, fun _ hother => (nomatch hother), hrange.2.2.2⟩
      · rcases hscene with hscene | hchanged
        · exact .inr (.inl ⟨hscene, rfl⟩)
        · exact .inl hchanged
    · exact fun _ h ha => ⟨⟨h.1, h.2, h.3⟩, ha⟩
  · have hread : (readUi (·.currSetting)).Watches (know (KnownOn.waiting hbound)) fun setting =>
        know ((KnownOn.waiting hbound).and (KnownOn.setting hbound (· = setting))) :=
      know_readUi _ fun _ hu => ⟨hu, rfl⟩
    have habsurd : ∀ setting, setting ≠ .no → ∀ u,
        ¬((KnownOn.waiting hbound).and (KnownOn.setting hbound (· = setting))).holds u :=
      fun setting hsetting u hu => hsetting (hu.2.symm.trans hu.1.2)
    have henter : enterSetting.Watches (know (KnownOn.waiting hbound)) fun _ => pageInvariant := by
      apply hread.bind
      intro setting
      cases setting with
      | no =>
        apply settingsPage_pages
        · intro u hu
          have hrequested := KnownOn.requested_of_follows hbound hu.1.1.1
          exact ⟨hrequested.1, hrequested.2.2⟩
        · exact fun u hu => hu.1.1
      | _ => exact know_absurd (habsurd _ nofun)
    exact henter.bind fun _ => .pure fun _ hw => hw

namespace KnownOn

/-- After `currSetting` was read; a press on the settings page may have changed
it since. -/
def settingWas (hbound : InSettings bound) (setting : SettingSelect) : KnownOn bound :=
  mk (fun a => a.currSetting = setting ∨ bound = some .settings ∧ a.settingIsChanged = true)
    (fun a h => by rcases hbound with rfl | rfl <;> exact h)
    fun a h => by
      rcases hbound with rfl | rfl
      · exact .inr ⟨rfl, rfl⟩
      · exact h

/-- SETTINGS is current, and a peripheral or SETTING_BACK is chosen. -/
def chosen (hbound : InSettings bound) : KnownOn bound :=
  (scene hbound fun scene changed => scene = .settings ∧ changed = false).and <| mk
    (fun a => a.InRange ∧ a.currSetting ≠ .no ∧
      (a.currSetting = .back → a.settingIsChanged = true))
    (fun a h => ⟨h.1.call _, by rcases hbound with rfl | rfl <;> exact h.2⟩)
    fun a h => ⟨h.1.call _, by
      rcases hbound with rfl | rfl
      · exact ⟨h.1.2.2.2.1, fun _ => rfl⟩
      · exact h.2⟩

/-- The settings page has no request of a delay, and finds none chosen. -/
def undelayed (hbound : InSettings bound) : KnownOn bound :=
  mk (fun a => bound = some .settings → a.requested.delay = none ∧ a.currDelay = .no)
    (fun a h => by rcases hbound with rfl | rfl <;> exact h)
    fun a h => by
      rcases hbound with rfl | rfl
      · exact fun _ => ⟨Asked.press_settings_delay (h rfl).1, (h rfl).2⟩
      · exact nofun

/-- Inside `enter_SETTING_DELAY`. -/
def onDelay (hbound : InSettings bound) : KnownOn bound :=
  (chosen hbound).and <| (undelayed hbound).and <| mk
    (fun a => (bound = some .settings → a.delayIsChanged = true) ∧
      (bound = some .delay → a.settingIsChanged = false))
    (fun a h => by rcases hbound with rfl | rfl <;> exact h)
    fun a h => by
      rcases hbound with rfl | rfl
      · exact ⟨h.1, nofun⟩
      · exact ⟨nofun, h.2⟩

theorem chosen_follows (hdelay : InSettings (some .delay)) {a : Asked}
    (h : (chosen hdelay).holds a) : a.Follows (some .delay) := by
  obtain ⟨hscene, hrange, hno, hback⟩ := h
  exact ⟨⟨hrange, .inl ⟨hscene.1, hscene.2, fun hsetting => absurd hsetting hno, hback⟩⟩, trivial⟩

theorem onDelay_follows (hbound : InSettings bound) {a : Asked} (h : (onDelay hbound).holds a) :
    a.Follows bound := by
  obtain ⟨hchosen, hundelayed, hdelay, -⟩ := h
  rcases hbound with rfl | rfl
  · obtain ⟨hscene, hrange, -⟩ := hchosen
    obtain ⟨hnone, hno⟩ := hundelayed rfl
    exact ⟨⟨hrange, hdelay rfl, .inl hscene.1⟩, hnone, fun _ => .inr (.inr hno)⟩
  · exact chosen_follows (.inr rfl) hchosen

/-- On the delay page nothing is requested in the settings. -/
theorem onDelay_setting {hdelay : InSettings (some .delay)} {a : Asked} (hwaits : a.Waits)
    (h : (onDelay hdelay).holds a) : a.requested.setting = none := by
  cases hsetting : a.requested.setting with
  | none => rfl
  | some target =>
    have hraised := (hwaits.setting target hsetting).1
    exact absurd (hraised.symm.trans (h.2.2.2 rfl)) (by decide)

/-- `returnToSettings` before, between and after it raises its two flags. -/
def leavingDelay (hdelay : InSettings (some .delay)) : KnownOn (some .delay) :=
  Known.inRange.and <|
    (scene hdelay fun scene changed => scene = .settings ∧ changed = false).and <|
    mk (fun a => a.currSetting = .no) (fun _ h => h) fun _ h => h

def leftDelay (hdelay : InSettings (some .delay)) : KnownOn (some .delay) :=
  (leavingDelay hdelay).and Known.settingChanged

def returned (hdelay : InSettings (some .delay)) : KnownOn (some .delay) :=
  (leftDelay hdelay).and Known.delayChanged

theorem leavingDelay_page {hdelay : InSettings (some .delay)} {a : Asked}
    (h : (leavingDelay hdelay).holds a) : a.page ≠ some .delay := fun hpage =>
  (Ui.setting_of_delay hpage).1 h.2.2

theorem returned_follows {hdelay : InSettings (some .delay)} {a : Asked}
    (h : (returned hdelay).holds a) : a.Follows (some .delay) := by
  obtain ⟨⟨⟨hrange, hscene, -⟩, hsetting⟩, hdelay⟩ := h
  exact ⟨⟨hrange, .inl ⟨hscene.1, hscene.2, fun _ => ⟨hsetting, hdelay⟩, fun _ => hsetting⟩⟩,
    trivial⟩

/-- `leaveSettings` on its way to the menu, flag by flag. -/
def leavingSettings (hbound : InSettings bound) : KnownOn bound :=
  Known.inRange.and (scene hbound fun _ changed => changed = false)

def atMenu (hbound : InSettings bound) : KnownOn bound :=
  Known.inRange.and (scene hbound fun scene _ => scene = .menu)

def menuRequested (hbound : InSettings bound) : KnownOn bound :=
  Known.inRange.and (scene hbound fun scene changed => scene = .menu ∧ changed = true)

def leftSettings (hbound : InSettings bound) : KnownOn bound :=
  (menuRequested hbound).and Known.settingChanged

def leftAll (hbound : InSettings bound) : KnownOn bound :=
  (leftSettings hbound).and Known.delayChanged

theorem leftAll_follows (hbound : InSettings bound) {a : Asked} (hwaits : a.Waits)
    (h : (leftAll hbound).holds a) : a.Follows bound := by
  obtain ⟨⟨⟨hrange, hscene⟩, hsetting⟩, hdelay⟩ := h
  have hmenu : a.currScene ≠ .settings := by
    rw [hscene.1]
    decide
  rcases hbound with rfl | rfl
  · exact ⟨⟨hrange, hdelay, .inr ⟨hscene.1, hscene.2, hsetting⟩⟩, (hwaits.noneInside hmenu).2,
      fun hsettings => absurd hsettings hmenu⟩
  · exact ⟨⟨hrange, .inr ⟨hscene.1, hscene.2, hsetting, hdelay⟩⟩, trivial⟩

end KnownOn

/-- The delay page is no longer current when its parameters are reset. -/
theorem know_resetDelay {known known' : KnownOn bound}
    (hpage : ∀ a : Asked, known.holds a → a.page ≠ some .delay)
    (hcurr : ∀ a, known.holds a →
      known.holds (a.assign .plain fun u => { u with currDelay := .back }))
    (hprev : ∀ a, known.holds a →
      known.holds (a.assign .plain fun u => { u with prevDelay := .back }))
    (hchanged : ∀ a, known.holds a →
      known'.holds (a.assign .plain fun u => { u with delayIsChanged := true }))
    (hselect : ∀ a, known'.holds a →
      known'.holds (a.assign .plain fun u => { u with selectDelay := .d0_5 }))
    (hselected : ∀ a, known'.holds a →
      known'.holds (a.assign .plain fun u => { u with delaySelectIsChanged := false })) :
    resetDelay.Watches (know known) fun _ => know known' := by
  refine (know_setUi known ?_).bind fun _ => (know_setUi known ?_).bind fun _ =>
    (know_setUi known' ?_).bind fun _ => (know_setUi known' ?_).bind fun _ => know_setUi known' ?_
  · exact fun a h ha => ⟨⟨h.1, h.2, fun target htarget =>
      absurd (h.delay target htarget).2.2 (hpage a ha)⟩, hcurr a ha⟩
  · exact fun a h ha => ⟨⟨h.1, h.2, h.3⟩, hprev a ha⟩
  · exact fun a h ha => ⟨⟨h.1, h.2, fun target htarget => ⟨rfl, (h.delay target htarget).2⟩⟩,
      hchanged a ha⟩
  · exact fun a h ha => ⟨⟨h.1, h.2, h.3⟩, hselect a ha⟩
  · exact fun a h ha => ⟨⟨h.1, h.2, h.3⟩, hselected a ha⟩

theorem returnToSettings_pages (hdelay : InSettings (some .delay)) :
    returnToSettings.Watches (know (KnownOn.onDelay hdelay)) fun _ =>
      know (KnownOn.returned hdelay) := by
  have hreset : resetDelay.Watches (know (KnownOn.leftDelay hdelay)) fun _ =>
      know (KnownOn.returned hdelay) := by
    apply know_resetDelay
    · exact fun _ ha => KnownOn.leavingDelay_page ha.1
    · exact fun _ ha => ha
    · exact fun _ ha => ha
    · exact fun _ ha => ⟨ha, rfl⟩
    · exact fun _ ha => ha
    · exact fun _ ha => ha
  refine (know_setUi (KnownOn.onDelay hdelay) ?_).bind fun _ =>
    (know_setUiAt (KnownOn.leavingDelay hdelay) ?_).bind fun _ =>
    (know_setUi (KnownOn.leftDelay hdelay) ?_).bind fun _ => hreset
  · exact fun _ h ha => ⟨⟨h.1, h.2, h.3⟩, ha⟩
  · intro w requested _ _ hwaits ha
    have hnone := KnownOn.onDelay_setting hwaits ha
    obtain ⟨⟨hscene, hrange, -⟩, -⟩ := ha
    refine ⟨⟨hwaits.scene, ?_, nofun⟩, ?_, hscene, rfl⟩
    · exact fun target htarget => absurd (hnone.symm.trans htarget) nofun
    · exact ⟨hrange.1, hrange.2.1, fun _ hother => (nomatch hother), hrange.2.2.2⟩
  · exact fun _ h ha => ⟨⟨h.1, fun target htarget => ⟨rfl, (h.setting target htarget).2⟩, h.3⟩,
      ha, rfl⟩

theorem leaveSettings_pages (hbound : InSettings bound) {known : KnownOn bound}
    (hleaving : ∀ a, known.holds a → (KnownOn.leavingSettings hbound).holds a) :
    leaveSettings.Watches (know known) fun _ => know (KnownOn.leftAll hbound) := by
  have hmenu : ∀ scene : Scene, scene = .menu → scene ≠ .settings := by
    rintro _ rfl
    decide
  have hreset : resetDelay.Watches (know (KnownOn.leftSettings hbound)) fun _ =>
      know (KnownOn.leftAll hbound) := by
    apply know_resetDelay
    · exact fun _ ha hpage => hmenu _ ha.1.2.1 (Ui.scene_of_delay hpage)
    · exact fun _ ha => ha
    · exact fun _ ha => ha
    · exact fun _ ha => ⟨ha, rfl⟩
    · exact fun _ ha => ha
    · exact fun _ ha => ha
  refine (know_setUi (KnownOn.leavingSettings hbound) ?_).bind fun _ =>
    (know_setUiAt (KnownOn.atMenu hbound) ?_).bind fun _ =>
    (know_setUi (KnownOn.menuRequested hbound) ?_).bind fun _ =>
    (know_setUi (KnownOn.menuRequested hbound) ?_).bind fun _ =>
    (know_setUi (KnownOn.menuRequested hbound) ?_).bind fun _ =>
    (know_setUi (KnownOn.leftSettings hbound) ?_).bind fun _ =>
    (know_setUi (KnownOn.leftSettings hbound) ?_).bind fun _ =>
    (know_setUi (KnownOn.leftSettings hbound) ?_).bind fun _ => hreset
  · exact fun a h ha => ⟨⟨h.1, h.2, h.3⟩, hleaving a ha⟩
  · rintro w requested - hback hwaits ⟨hrange, hclear⟩
    refine ⟨⟨?_, nofun, ?_⟩, ⟨fun _ hother => (nomatch hother), hrange.2⟩, rfl⟩
    · exact fun target htarget =>
        absurd ((hwaits.scene target htarget).1.symm.trans hclear) (by decide)
    · exact fun target htarget =>
        absurd hback (Ui.setting_of_delay (hwaits.delay target htarget).2.2).2
  · exact fun _ h ha => ⟨⟨fun target htarget => ⟨rfl, (h.scene target htarget).2⟩, h.2, h.3⟩,
      ha.1, ha.2, rfl⟩
  · rintro a hwaits ⟨hrange, hscene⟩
    have hne := hmenu _ hscene.1
    refine ⟨⟨hwaits.scene, ?_, ?_⟩, ?_, hscene⟩
    · exact fun target htarget => absurd (hwaits.setting target htarget).2.2 hne
    · exact fun target htarget =>
        absurd (Ui.scene_of_delay (hwaits.delay target htarget).2.2) hne
    · exact ⟨hrange.1, hrange.2.1, fun _ hother => (nomatch hother), hrange.2.2.2⟩
  · exact fun _ h ha => ⟨⟨h.1, h.2, h.3⟩, ha⟩
  · exact fun _ h ha => ⟨⟨h.1, fun target htarget => ⟨rfl, (h.setting target htarget).2⟩, h.3⟩,
      ha, rfl⟩
  · rintro a hwaits ⟨⟨hrange, hscene⟩, hsetting⟩
    exact ⟨⟨hwaits.1, hwaits.2, hwaits.3⟩,
      ⟨⟨hrange.1, hrange.2.1, hrange.2.2.1, nofun, nofun⟩, hscene⟩, hsetting⟩
  · exact fun _ h ha => ⟨⟨h.1, h.2, h.3⟩, ha⟩

theorem configDelay_pages (hdelay : InSettings (some .delay)) :
    configDelay.Watches (know (KnownOn.onDelay hdelay)) fun _ =>
      know (KnownOn.returned hdelay) := by
  refine (know_assignAt ?_ ?_ ?_).bind fun _ => (know_assignAt ?_ ?_ ?_).bind fun _ =>
    returnToSettings_pages hdelay
  · exact fun _ => rfl
  · exact fun _ => rfl
  · exact fun _ => rfl
  · exact fun _ => rfl
  · exact fun _ => rfl
  · exact fun _ => rfl

/-- The branch DELAY_NO of `enter_SETTING_DELAY`. -/
theorem delayPage_pages (hbound : InSettings bound) :
    Prog.Watches (know (KnownOn.onDelay hbound)) (do
      if ← readUi (·.delayIsChanged) then
        setUiAt .clearDelayIsChanged fun u => { u with delayIsChanged := false }
        rebindKey1 .key1IrqSettingDelaySelect
        rebindKey2 .key2IrqSettingDelaySelect
        draw settingsDelayTask
        return some rtEok
      else if ← readUi (·.delaySelectIsChanged) then
        setUi fun u => { u with delaySelectIsChanged := false }
        draw settingsDelayUpdateSelect
        return some rtEok
      else return some rtEok) fun _ => pageInvariant := by
  have hdelay : InSettings (some .delay) := .inr rfl
  apply know_branch (KnownOn.chosen hbound) (KnownOn.follows bound)
  · exact fun _ ha _ => ha.1
  · exact fun _ ha _ => KnownOn.onDelay_follows hbound ha
  · have hdraw : Prog.Watches (know (KnownOn.follows (some .delay)))
        (do draw settingsDelayTask; return some rtEok) fun _ => pageInvariant :=
      (know_draws settingsDelayTask_draws).bind fun _ => know_done
    refine (know_setUiAt (KnownOn.chosen hbound) ?_).bind fun _ => know_rebind .delay ?_ ?_ hdraw
    · exact fun _ _ _ _ h ha => ⟨⟨h.1, h.2, nofun⟩, ha⟩
    · exact fun a ha => (KnownOn.chosen hdelay).kept Page.delay.key1 a (.inl rfl) ha
    · exact fun _ _ _ ha _ => KnownOn.chosen_follows hdelay ha
  · apply know_branch (KnownOn.follows bound) (KnownOn.follows bound)
    · exact fun _ ha _ => ha
    · exact fun _ ha _ => ha
    · refine (know_setUi (KnownOn.follows bound) ?_).bind fun _ =>
        (know_draws settingsDelayUpdateSelect_draws).bind fun _ => know_done
      exact fun _ h ha => ⟨⟨h.1, h.2, h.3⟩, ha⟩
    · exact know_done

theorem enterSettingDelay_pages (hbound : InSettings bound) :
    enterSettingDelay.Watches (know (KnownOn.onDelay hbound)) fun _ => pageInvariant := by
  have hread : (readUi (·.currDelay)).Watches (know (KnownOn.onDelay hbound)) fun delay =>
      know ((KnownOn.onDelay hbound).and
        (Known.always (fun _ => bound = some .settings → delay = .no) fun _ _ h => h)) :=
    know_readUi _ fun _ ha => ⟨ha, fun hsettings => (ha.2.1 hsettings).2⟩
  apply hread.bind
  intro delay
  by_cases hno : delay = .no
  · subst hno
    exact know_strengthen (KnownOn.onDelay hbound) (fun _ _ ha => ha.1) (delayPage_pages hbound)
  rcases hbound with rfl | rfl
  · exact know_absurd fun _ ha => hno (ha.2 rfl)
  · have hdelay : InSettings (some .delay) := .inr rfl
    have hreturned : ∀ result : Option RtErr, Prog.Watches (know (KnownOn.returned hdelay))
        (pure result : Prog (Option RtErr)) fun _ => pageInvariant := fun result =>
      know_strengthen (KnownOn.follows (some .delay)) (fun _ _ ha => KnownOn.returned_follows ha)
        know_done
    refine know_strengthen (KnownOn.onDelay hdelay) (fun _ _ ha => ha.1) ?_
    cases delay with
    | no => exact absurd rfl hno
    | back => exact (returnToSettings_pages hdelay).bind fun _ => hreturned _
    | other value =>
      exact know_strengthen (KnownOn.follows (some .delay))
        (fun _ _ ha => KnownOn.onDelay_follows hdelay ha) know_done
    | _ => exact (configDelay_pages hdelay).bind fun _ => hreturned _

namespace KnownOn

/-- After `enter_SETTING` has read `currSetting`. -/
def atSetting (hbound : InSettings bound) (setting : SettingSelect) : KnownOn bound :=
  (inSettings hbound).and (settingWas hbound setting)

/-- A peripheral is chosen on the settings page, and its flag is being cleared. -/
def choosing (hbound : InSettings bound) (setting : SettingSelect) : KnownOn bound :=
  Known.inRange.and <|
    (scene hbound fun scene changed => scene = .settings ∧ changed = false).and <| mk
    (fun a => bound = some .settings ∧ a.delayIsChanged = true ∧ a.requested.delay = none ∨
      bound = some .delay ∧ a.currSetting = setting)
    (fun a h => by rcases hbound with rfl | rfl <;> exact h)
    fun a h => by
      rcases hbound with rfl | rfl
      · rcases h with ⟨-, hdelay, hnone⟩ | hdelay
        · exact .inl ⟨rfl, hdelay, Asked.press_settings_delay hnone⟩
        · exact absurd hdelay.1 (by decide)
      · exact h.imp_left fun hsettings => absurd hsettings.1 (by decide)

/-- The delay page of the peripheral is being prepared. -/
def preparing (hbound : InSettings bound) (setting : SettingSelect) : KnownOn bound :=
  (choosing hbound setting).and (undelayed hbound)

section
variable (hbound : InSettings bound) {setting : SettingSelect} {a : Asked}

theorem atSetting_settingWas (h : (atSetting hbound setting).holds a)
    (hsettled : a.settingIsChanged = false) : a.currSetting = setting :=
  h.2.resolve_right fun hchanged => absurd hchanged.2 (by simp [hsettled])

theorem opening_of_atSetting (h : (atSetting hbound .no).holds a) : (opening bound).holds a := by
  obtain ⟨⟨⟨⟨hrange, hfollows⟩, -⟩, hscene⟩, hwas⟩ := h
  refine ⟨hrange, ?_⟩
  rcases hbound with rfl | rfl
  · exact hfollows.1
  · have hno := hwas.resolve_right fun hsettings => absurd hsettings.1 (by decide)
    rcases hfollows with ⟨-, -, hflags, -⟩ | ⟨-, -, -, hdelay⟩
    · exact (hflags hno).2
    · exact hdelay

theorem choosing_of_atSetting (h : (atSetting hbound setting).holds a) :
    (choosing hbound setting).holds a := by
  obtain ⟨⟨⟨⟨hrange, hfollows⟩, hfits⟩, hscene⟩, hwas⟩ := h
  refine ⟨hrange, hscene, ?_⟩
  rcases hbound with rfl | rfl
  · exact .inl ⟨rfl, hfollows.1, hfits.1⟩
  · exact .inr ⟨rfl, hwas.resolve_right fun hsettings => absurd hsettings.1 (by decide)⟩

theorem onDelay_of_atSetting (hno : setting ≠ .no) (hback : setting ≠ .back)
    (h : (atSetting hbound setting).holds a) (hsettled : a.settingIsChanged = false) :
    (onDelay hbound).holds a := by
  have hsetting := atSetting_settingWas hbound h hsettled
  obtain ⟨⟨⟨⟨hrange, hfollows⟩, hfits⟩, hscene⟩, -⟩ := h
  refine ⟨⟨hscene, hrange, hsetting ▸ hno, fun hcurr => absurd (hsetting.symm.trans hcurr) hback⟩,
    ?_, ?_, fun _ => hsettled⟩
  · rintro rfl
    obtain ⟨hnone, hdelay⟩ := hfits
    refine ⟨hnone, ?_⟩
    rcases hdelay hscene.1 with (hchanged | hcurr) | hcurr | hcurr
    · exact absurd (hchanged.symm.trans hsettled) (by decide)
    · exact absurd (hsetting.symm.trans hcurr) hno
    · exact absurd (hsetting.symm.trans hcurr) hback
    · exact hcurr
  · rintro rfl
    exact hfollows.1

theorem preparing_follows (hno : setting ≠ .no) (hback : setting ≠ .back)
    (h : (preparing hbound setting).holds a) : a.Follows bound := by
  obtain ⟨⟨hrange, hscene, ⟨rfl, hdelay, hnone⟩ | ⟨rfl, hsetting⟩⟩, hundelayed⟩ := h
  · exact ⟨⟨hrange, hdelay, .inl hscene.1⟩, hnone, fun _ => .inr (.inr (hundelayed rfl).2)⟩
  · exact ⟨⟨hrange, .inl ⟨hscene.1, hscene.2, fun hcurr => absurd (hsetting.symm.trans hcurr) hno,
      fun hcurr => absurd (hsetting.symm.trans hcurr) hback⟩⟩, trivial⟩

end
end KnownOn

/-- The delay page of a peripheral is prepared: on the settings page no delay was
requested, and on a delay page the condition leaves none to be lost. -/
theorem know_prepareDelay (hbound : InSettings bound) {setting : SettingSelect} :
    (setUiAt .prepareDelay fun u => { u with currDelay := .no }).Watches
      (know (KnownOn.choosing hbound setting)) fun _ =>
        know (KnownOn.preparing hbound setting) := by
  apply know_setUiAt
  intro w requested hkey2 hgranted hwaits ha
  obtain ⟨hrange, hscene, hpages⟩ := ha
  have hcurr : ∀ target ∈ requested.delay, DelaySelect.no = target := by
    intro target htarget
    rcases hpages with ⟨-, -, hnone⟩ | ⟨rfl, -⟩
    · exact absurd (hnone.symm.trans htarget) nofun
    · exact (hgranted hkey2).symm.trans (hwaits.delay target htarget).2.1
  refine ⟨⟨hwaits.scene, hwaits.setting, ?_⟩, ⟨hrange, hscene, hpages⟩, ?_⟩
  · intro target htarget
    have hdelay := hwaits.delay target htarget
    exact ⟨hdelay.1, hcurr target htarget, hdelay.2.2⟩
  · rintro rfl
    rcases hpages with ⟨-, -, hnone⟩ | hdelay
    · exact ⟨hnone, rfl⟩
    · exact absurd hdelay.1 (by decide)

/-- The branch of the peripherals in `enter_SETTING`. -/
theorem peripheral_pages (hbound : InSettings bound) {setting : SettingSelect}
    (hno : setting ≠ .no) (hback : setting ≠ .back) :
    Prog.Watches (know (KnownOn.atSetting hbound setting)) (do
      if ← readUi (·.settingIsChanged) then
        setUiAt (.clearSettingIsChanged setting) fun u => { u with settingIsChanged := false }
        setUi fun u => { u with prevDelay := u.currDelay }
        setUiAt .prepareDelay fun u => { u with currDelay := .no }
        setUi fun u => { u with delaySelectIsChanged := true }
        return rtEok
      else
        let _ ← enterSettingDelay
        return rtEok) fun _ => pageInvariant := by
  apply know_branch (KnownOn.choosing hbound setting) (KnownOn.onDelay hbound)
  · exact fun _ ha _ => KnownOn.choosing_of_atSetting hbound ha
  · exact fun _ ha hsettled => KnownOn.onDelay_of_atSetting hbound hno hback ha hsettled
  · refine (know_setUiAt (KnownOn.choosing hbound setting) ?_).bind fun _ =>
      (know_setUi (KnownOn.choosing hbound setting) ?_).bind fun _ =>
      (know_prepareDelay hbound).bind fun _ =>
      (know_setUi (KnownOn.preparing hbound setting) ?_).bind fun _ =>
      know_strengthen (KnownOn.follows bound) ?_ know_done
    · exact fun _ _ _ _ h ha => ⟨⟨h.1, nofun, h.3⟩, ha⟩
    · exact fun _ h ha => ⟨⟨h.1, h.2, h.3⟩, ha⟩
    · exact fun _ h ha => ⟨⟨h.1, h.2, h.3⟩, ha⟩
    · exact fun _ _ ha => KnownOn.preparing_follows hbound hno hback ha
  · exact (enterSettingDelay_pages hbound).bind fun _ => .pure fun _ hs => hs

theorem enterSetting_inside (hbound : InSettings bound) :
    enterSetting.Watches (know (KnownOn.inSettings hbound)) fun _ => pageInvariant := by
  have hread : (readUi (·.currSetting)).Watches (know (KnownOn.inSettings hbound)) fun setting =>
      know (KnownOn.atSetting hbound setting) := know_readUi _ fun _ ha => ⟨ha, .inl rfl⟩
  apply hread.bind
  intro setting
  cases setting with
  | no =>
    apply settingsPage_pages
    · exact fun _ ha => KnownOn.opening_of_atSetting hbound ha
    · exact fun _ ha => ha.1.1
  | back =>
    refine (leaveSettings_pages hbound ?_).bind fun _ =>
      know_strengthen (KnownOn.follows bound) ?_ know_done
    · exact fun _ ha => ⟨ha.1.1.1.1, ha.1.2.2⟩
    · exact fun _ hwaits ha => KnownOn.leftAll_follows hbound hwaits ha
  | other value => exact know_strengthen (KnownOn.follows bound) (fun _ _ ha => ha.1.1) know_done
  | _ => exact peripheral_pages hbound nofun nofun

namespace KnownOn

/-- The settings page may see its own scene requested again. -/
def again : KnownOn (some .settings) :=
  (opening (some .settings)).and <|
    (scene (.inl rfl) fun scene _ => scene = .settings).and <|
    mk (fun a => a.requested.delay = none) (fun _ h => h) fun _ h => Asked.press_settings_delay h

/-- Its setting is reset. -/
def reset : KnownOn (some .settings) :=
  again.and <| mk (fun a => a.settingIsChanged = true ∨ a.currSetting = .no) (fun _ h => h)
    fun _ _ => .inl rfl

theorem reset_follows {a : Asked} (h : reset.holds a) : a.Follows (some .settings) :=
  ⟨⟨h.1.1.1, h.1.1.2, .inl h.1.2.1⟩, h.1.2.2, fun _ => .inl h.2⟩

end KnownOn

theorem reenterSettings :
    Prog.Watches (know KnownOn.again) (do
      clearSceneIsChanged .settings
      setUi fun u => { u with prevSetting := u.currSetting }
      setUiAt .prepareSettings fun u => { u with currSetting := .no }
      setUi fun u => { u with settingSelectIsChanged := true }
      return rtEok) fun _ => pageInvariant := by
  refine (know_clearSceneIsChanged KnownOn.again ?_).bind fun _ =>
    (know_setUi KnownOn.again ?_).bind fun _ =>
    (know_setUiAt KnownOn.reset ?_).bind fun _ =>
    (know_setUi KnownOn.reset ?_).bind fun _ =>
    know_strengthen (KnownOn.follows (some .settings)) ?_ know_done
  · exact fun _ _ ha _ => ha
  · exact fun _ h ha => ⟨⟨h.1, h.2, h.3⟩, ha⟩
  · rintro w requested hkey2 hgranted hwaits ⟨⟨hrange, hdelay⟩, hscene, hnone⟩
    have hno : w.ui.currSetting = .no := hgranted hkey2
    refine ⟨⟨hwaits.scene, ?_, ?_⟩, ⟨⟨?_, hdelay⟩, hscene, hnone⟩, .inr rfl⟩
    · intro target htarget
      have hsetting := hwaits.setting target htarget
      exact ⟨hsetting.1, hno.symm.trans hsetting.2.1, hsetting.2.2⟩
    · exact fun target htarget => absurd (hnone.symm.trans htarget) nofun
    · exact ⟨hrange.1, hrange.2.1, fun _ hother => (nomatch hother), hrange.2.2.2⟩
  · exact fun _ h ha => ⟨⟨h.1, h.2, h.3⟩, ha⟩
  · exact fun _ _ ha => KnownOn.reset_follows ha

/-- SCENE_SETTINGS seen from a page of the settings. -/
theorem sceneSettings_inside (hbound : InSettings bound) :
    sceneSettings.Watches (know (KnownOn.atScene bound .settings)) fun _ => pageInvariant := by
  have hscene : ∀ a, (KnownOn.atScene bound .settings).holds a → a.currScene = .settings :=
    fun _ ha => ha.2.resolve_right fun hnot => hnot.1 hbound
  have hstay : ∀ a, (KnownOn.atScene bound .settings).holds a → a.sceneIsChanged = false →
      (KnownOn.inSettings hbound).holds a := fun a ha hclear => ⟨ha.1, hscene a ha, hclear⟩
  have henter : Prog.Watches (know (KnownOn.inSettings hbound)) (do
      let _ ← enterSetting
      return rtEok) fun _ => pageInvariant :=
    (enterSetting_inside hbound).bind fun _ => .pure fun _ hs => hs
  rcases hbound with rfl | rfl
  · apply know_branch KnownOn.again (KnownOn.inSettings (.inl rfl))
    · exact fun a ha _ => ⟨⟨ha.1.1.1, ha.1.1.2.1⟩, hscene a ha, ha.1.2.1⟩
    · exact hstay
    · exact reenterSettings
    · exact henter
  · apply know_branch Known.never (KnownOn.inSettings (.inr rfl))
    · intro a ha hchanged
      rcases ha.1.1.2 with ⟨-, hclear, -⟩ | ⟨hmenu, -⟩
      · simp [hclear] at hchanged
      · exact nomatch (hscene a ha).symm.trans hmenu
    · exact hstay
    · exact know_absurd fun _ h => h
    · exact henter

theorem sceneSettings_pages :
    sceneSettings.Watches (know (KnownOn.atScene bound .settings)) fun _ => pageInvariant := by
  by_cases hbound : InSettings bound
  · exact sceneSettings_inside hbound
  · exact sceneSettings_outside hbound

theorem mainFunc_pages (env : FuncEnv) :
    (mainFunc env).Watches pageInvariant fun _ => pageInvariant := by
  apply Prog.Watches.some
  intro bound
  have hread : (readUi (·.currScene)).Watches (know (KnownOn.follows bound)) fun scene =>
      know (KnownOn.atScene bound scene) := know_readUi _ fun _ hu => ⟨hu, .inl rfl⟩
  apply hread.bind
  intro scene
  cases scene with
  | menu => exact sceneMenu_pages
  | dispData => exact sceneDispData_pages env
  | takePhoto => exact sceneTakePhoto_pages
  | sdCard => exact sceneSdCard_pages env
  | settings => exact sceneSettings_pages
  | other value => exact know_strengthen (KnownOn.follows bound) (fun _ _ ha => ha.1) know_done

end

/-- The pair of handlers that is bound when a call of `mainFunc` begins is that
of the current page. -/
def KeysBelongToPage (c : Config) : Prop :=
  c.thread.isReady = true → c.world.ui.pending = false → ∃ page, c.world.ui.page = some page ∧
    c.world.bound .key1 = some page.key1 ∧ c.world.bound .key2 = some page.key2

theorem pageInvariant_page {w : World} {requested : Requested} (h : pageInvariant (w, requested))
    (hsettled : w.ui.pending = false) : ∃ page, w.ui.page = some page ∧
      w.bound .key1 = some page.key1 ∧ w.bound .key2 = some page.key2 := by
  obtain ⟨bound, -, hbound, -, hfollows, -⟩ := h
  have hpage : w.ui.page = bound := Ui.Follows.page hfollows hsettled
  have hnone : w.ui.page ≠ none := Ui.InRange.page hfollows.1
  cases bound with
  | none => exact absurd hpage hnone
  | some page => exact ⟨page, hpage, hbound⟩

theorem pageInvariant_booted {w : World} (h : Booted w) : pageInvariant (w, .nothing) := by
  obtain ⟨⟨key1IsChanged, key2IsChanged, hui⟩, hpins⟩ := h.keys
  have hfollows : w.ui.Follows none := by
    rw [hui]
    exact ⟨⟨nofun, nofun, nofun, nofun, nofun⟩, rfl, rfl, .inl rfl⟩
  exact ⟨none, keysReady_bootPins hpins,
    ⟨bound_bootPins hpins .key1, bound_bootPins hpins .key2⟩, ⟨nofun, nofun, nofun⟩,
    hfollows, rfl, rfl⟩

theorem pageInvariant_congr {w w' : World} {requested : Requested} (hui : w'.ui = w.ui)
    (hpins : w'.pins = w.pins) (h : pageInvariant (w, requested)) :
    pageInvariant (w', requested) := by
  obtain ⟨bound, hready, hbound, hknown⟩ := h
  have hasked : w'.asked requested = w.asked requested := by
    rw [World.asked, hui]
    rfl
  refine ⟨bound, fun key => hpins.symm ▸ hready key, ?_, hasked.symm ▸ hknown⟩
  unfold World.bound
  rw [hpins]
  exact hbound

theorem pageInvariant_polls (env : PollEnv) (w : World) (requested : Requested)
    (h : pageInvariant (w, requested)) : pageInvariant (polls env w, requested) :=
  pageInvariant_congr (polls_panel env w).1 (polls_panel env w).2 h

namespace Watched
variable {c : Watched} {input : Input}

def Sound (c : Watched) : Prop :=
  match c.config.thread with
  | .running program => (program.watch Requested.take).Safe pageKeys
      (fun _ => pageInvariant.holds) (c.config.world, c.requested)
  | _ => pageInvariant (c.config.world, c.requested)

@[simp] theorem sound_polls {w : World} {requested : Requested} :
    Sound ⟨⟨.polls, w⟩, requested⟩ ↔ pageInvariant (w, requested) := Iff.rfl

@[simp] theorem sound_ready {w : World} {requested : Requested} :
    Sound ⟨⟨.ready, w⟩, requested⟩ ↔ pageInvariant (w, requested) := Iff.rfl

@[simp] theorem sound_running {program : Prog RtErr} {w : World} {requested : Requested} :
    Sound ⟨⟨.running program, w⟩, requested⟩ ↔ (program.watch Requested.take).Safe pageKeys
      (fun _ => pageInvariant.holds) (w, requested) := Iff.rfl

theorem Sound.waits (h : c.Sound) : (c.config.world.asked c.requested).Waits := by
  obtain ⟨⟨thread, w⟩, requested⟩ := c
  cases thread with
  | polls => exact pageInvariant.guaranteed _ h
  | ready => exact pageInvariant.guaranteed _ h
  | running program =>
    exact Program.Safe.guaranteed h fun _ t ht => pageInvariant.guaranteed t ht

theorem Sound.belong (h : c.Sound) : KeysBelongToPage c.config := by
  intro hthread hsettled
  obtain ⟨⟨thread, w⟩, requested⟩ := c
  cases thread with
  | polls => exact nomatch hthread
  | ready => exact pageInvariant_page h hsettled
  | running program => exact nomatch hthread

theorem Sound.takesOwn (h : c.Sound)
    (hgranted : c.config.Granted EntersOwnPage (fun _ _ => True) input) : c.TakesOwn input := by
  have hwaits := h.waits
  obtain ⟨⟨thread, w⟩, requested⟩ := c
  cases input with
  | key key => trivial
  | advance env =>
    cases thread with
    | polls => trivial
    | ready => trivial
    | running program =>
      cases program with
      | done a => trivial
      | step label update rest => exact hwaits.own hgranted

theorem Sound.step (h : c.Sound)
    (hgranted : c.config.Granted EntersOwnPage (fun _ _ => True) input) : (c.step input).Sound := by
  obtain ⟨⟨thread, w⟩, requested⟩ := c
  cases input with
  | key key =>
    have hpressed : pageKeys.interferes (w, requested) (World.pressAsked key (w, requested)) :=
      ⟨key, rfl⟩
    cases thread with
    | polls => exact pageInvariant.stable _ _ h hpressed
    | ready => exact pageInvariant.stable _ _ h hpressed
    | running program => exact Program.Safe.interfere h hpressed
  | advance env =>
    cases thread with
    | polls =>
      rw [step_polls, sound_ready]
      exact pageInvariant_polls env.poll w requested (sound_polls.mp h)
    | ready =>
      rw [step_ready, sound_running]
      exact mainFunc_pages env.func _ (sound_ready.mp h)
    | running program =>
      have hsafe := sound_running.mp h
      cases program with
      | done a => exact Program.Safe.post hsafe
      | step label update rest => exact Program.Safe.next hsafe hgranted

theorem Sound.run {inputs : List Input} (h : c.Sound)
    (hinputs : Along Config.step (Config.Granted EntersOwnPage fun _ _ => True) c.config inputs) :
    Always Config.step KeysBelongToPage c.config inputs ∧
      Along Watched.step Watched.TakesOwn c inputs := by
  induction inputs generalizing c with
  | nil => exact ⟨h.belong, trivial⟩
  | cons input inputs ih =>
    have hrest := ih (h.step hinputs.1) hinputs.2
    exact ⟨⟨h.belong, hrest.1⟩, h.takesOwn hinputs.1, hrest.2⟩

end Watched

/-- In a run in which every entry action finds its own page current, the keys always
belong to the page, and no entry action takes the request for another page. -/
theorem keysBelongToPage {w : World} (h : Booted w) (inputs : List Input)
    (hinputs : Along Config.step (Config.Granted EntersOwnPage fun _ _ => True) (.start w) inputs) :
    Always Config.step KeysBelongToPage (.start w) inputs ∧
      Along Watched.step Watched.TakesOwn (.start w) inputs :=
  Watched.Sound.run (c := .start w) (pageInvariant_booted h) hinputs

def pause (n : Nat) : List Input := List.replicate n (.advance (silentPass 0))

/-- KEY1 moves the marker of the menu to SETTINGS, and KEY2 opens the page. -/
def toSettings : List Input :=
  pause 14 ++ [.key .key1, .key .key1, .key .key1, .key .key2] ++ pause 24

/-- On the settings page KEY2 opens a delay page, and confirms a delay there. -/
theorem keysBelongToPage_tour :
    Always Config.step KeysBelongToPage (.start bootedWorld)
        (toSettings ++ .key .key2 :: pause 28 ++ .key .key2 :: pause 34) ∧
      Along Watched.step Watched.TakesOwn (.start bootedWorld)
        (toSettings ++ .key .key2 :: pause 28 ++ .key .key2 :: pause 34) :=
  keysBelongToPage booted_bootedWorld _ (by decide +kernel)

/-- KEY2 comes between reading the page variable in the switch and testing the flag:
the menu consumes the request for DISP_DATA, and the settings page that for a delay page. -/
theorem handover_lost :
    (¬∀ (w : World) (inputs : List Input), Booted w →
      Always Config.step KeysBelongToPage (.start w) inputs) ∧
    ¬∀ (w : World) (inputs : List Input), Booted w →
      Along Watched.step Watched.TakesOwn (.start w) inputs := by
  constructor
  · intro h
    have hrun := h bootedWorld (pause 16 ++ .key .key2 :: pause 11) booted_bootedWorld
    obtain ⟨page, hpage, hkey, -⟩ := hrun.last (by decide +kernel) (by decide +kernel)
    have hdispData := hpage.symm.trans (by decide +kernel : _ = some Page.dispData)
    rw [Option.some.inj hdispData] at hkey
    revert hkey
    decide +kernel
  · intro h
    have hrun := h bootedWorld (toSettings ++ pause 4 ++ .key .key2 :: pause 2)
      booted_bootedWorld
    revert hrun
    decide +kernel

end WeatherStation
