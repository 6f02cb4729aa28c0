import WeatherStation.SdCard
import WeatherStation.Lib.Runs

/-! The contents of data.csv over any number of boots: `isFirstSave` lives in
RAM, the file on the card. -/
namespace WeatherStation
open Lib Gpio

/-- A boot, or a save with the latest readings, its time, and what `open`
returns for the title and for the row. -/
inductive CardInput where
  | boot
  | save (measured : Measured) (tick : UInt32) (titleFd rowFd : Int)

/-- A write is complete whenever its open succeeds. -/
def saveEnv (measured : Measured) (tick : UInt32) (titleFd rowFd : Int) : SaveEnv where
  title := ⟨titleFd, titleLine.length⟩
  tick
  row := ⟨rowFd, (dataLine measured tick).length⟩

def cardStep (w : World) : CardInput → World
  | .boot => w.reboot
  | .save measured tick titleFd rowFd =>
    sdcardSaveCurrData (saveEnv measured tick titleFd rowFd) { w with measured }

/-- The open for the title succeeds, if this save asks for it. -/
def CardInput.titleOpens : CardInput → Bool
  | .boot => false
  | .save _ _ titleFd _ => titleFd ≥ 0

def CardInput.rowOpens : CardInput → Bool
  | .boot => false
  | .save _ _ _ rowFd => rowFd ≥ 0

/-- No other save comes between the latest boot and place `k`. -/
def FirstOfBoot (inputs : List CardInput) (k : Nat) : Prop :=
  k = 0 ∨ inputs[k - 1]? = some .boot

/-- At place `k` is the first save of a boot, and its open for the title succeeds. -/
def OpensTitle (inputs : List CardInput) (k : Nat) : Prop :=
  (∃ input ∈ inputs[k]?, input.titleOpens = true) ∧ FirstOfBoot inputs k

def OpensRow (inputs : List CardInput) (k : Nat) : Prop :=
  ∃ input ∈ inputs[k]?, input.rowOpens = true

/-- At most one boot opens the file for the title, and none opens it for a row before. -/
structure OneTitleFirst (inputs : List CardInput) : Prop where
  one : ∀ j k, OpensTitle inputs j → OpensTitle inputs k → j = k
  first : ∀ k, OpensRow inputs k → ∃ j ≤ k, OpensTitle inputs j

def Event.row? : Event → Option (List Char)
  | .append buffer fd _ => if fd ≥ 0 ∧ buffer ≠ titleLine then some buffer else none
  | _ => none

def writtenRows (history : List Event) : List (List Char) := (history.filterMap Event.row?).reverse

/-- One title, then the rows. -/
def TitleThenRows (w : World) : Prop :=
  w.dataCsv = [] ∨ w.dataCsv = titleLine ++ (writtenRows w.history).flatten

instance (w : World) : Decidable (TitleThenRows w) := inferInstanceAs (Decidable (_ ∨ _))

def writesTitle (w : World) (titleFd : Int) : Prop := w.isFirstSave = true ∧ titleFd ≥ 0

/-- The title goes into an empty file, and a row behind a title. -/
def InOrder (w : World) : CardInput → Prop
  | .boot => True
  | .save _ _ titleFd rowFd =>
    (writesTitle w titleFd → w.dataCsv = []) ∧
      (rowFd ≥ 0 → w.dataCsv ≠ [] ∨ writesTitle w titleFd)

section
variable (measured : Measured) (tick : UInt32) (titleFd rowFd : Int) (w : World)

theorem accepted_complete (fd : Int) (size : Nat) :
    (FileReply.mk fd size).accepted size = if fd ≥ 0 then size else 0 := by
  unfold FileReply.accepted
  simp

instance : Decidable (writesTitle w titleFd) := inferInstanceAs (Decidable (_ ∧ _))

theorem save_dataCsv :
    (cardStep w (.save measured tick titleFd rowFd)).dataCsv =
      w.dataCsv ++ ((if writesTitle w titleFd then titleLine else []) ++
        if rowFd ≥ 0 then dataLine measured tick else []) := by
  dsimp only [cardStep]
  rw [sdcardSaveCurrData_eq]
  unfold SaveEnv.bytes saveEnv writesTitle
  dsimp only
  rw [accepted_complete, accepted_complete]
  by_cases hfirst : w.isFirstSave = true
  · by_cases htitle : titleFd ≥ 0
    · by_cases hrow : rowFd ≥ 0 <;> simp [hfirst, htitle, hrow]
    · by_cases hrow : rowFd ≥ 0 <;> simp [hfirst, htitle, hrow]
  · by_cases hrow : rowFd ≥ 0 <;> simp [hfirst, hrow]

theorem save_writtenRows :
    writtenRows (cardStep w (.save measured tick titleFd rowFd)).history =
      writtenRows w.history ++ if rowFd ≥ 0 then [dataLine measured tick] else [] := by
  have hline : dataLine measured tick ≠ titleLine := (titleLine_ne_dataLine measured tick).symm
  dsimp only [cardStep]
  rw [sdcardSaveCurrData_eq]
  unfold writtenRows
  rw [List.filterMap_append, List.reverse_append]
  unfold SaveEnv.events SaveEnv.appends saveEnv
  by_cases hfirst : w.isFirstSave = true
  · by_cases hrow : rowFd ≥ 0 <;> simp [Event.row?, List.filterMap_cons, hfirst, hline, hrow]
  · by_cases hrow : rowFd ≥ 0 <;> simp [Event.row?, List.filterMap_cons, hfirst, hline, hrow]

end

section
variable {title row file : List Char} {rows : List (List Char)} {withTitle withRow : Prop}
  [Decidable withTitle] [Decidable withRow]

/-- The invariant: also the history knows of no row in an empty file. -/
def FileInvariant (title file : List Char) (rows : List (List Char)) : Prop :=
  file = [] ∧ rows = [] ∨ file = title ++ rows.flatten

theorem FileInvariant.append (h : FileInvariant title file rows) (htitle : title ≠ [])
    (hempty : withTitle → file = []) (hbehind : withRow → file ≠ [] ∨ withTitle) :
    FileInvariant title
      (file ++ ((if withTitle then title else []) ++ if withRow then row else []))
      (rows ++ if withRow then [row] else []) := by
  rcases h with ⟨rfl, rfl⟩ | rfl
  · by_cases hwith : withTitle
    · by_cases hrow : withRow <;> simp [FileInvariant, hwith, hrow]
    · have hnone : ¬withRow := fun hrow => (hbehind hrow).elim (fun h => h rfl) hwith
      simp [FileInvariant, hwith, hnone]
  · have hwith : ¬withTitle := fun hwith => htitle (List.append_eq_nil_iff.mp (hempty hwith)).1
    by_cases hrow : withRow <;> simp [FileInvariant, hwith, hrow]

/-- A title in the middle or a row without a title shows in the length. -/
theorem FileInvariant.of_append (h : FileInvariant title file rows) (htitle : title ≠ [])
    (hrow : row ≠ [])
    (hafter : file ++ ((if withTitle then title else []) ++ if withRow then row else []) = [] ∨
      file ++ ((if withTitle then title else []) ++ if withRow then row else []) =
        title ++ (rows ++ if withRow then [row] else []).flatten) :
    (withTitle → file = []) ∧ (withRow → file ≠ [] ∨ withTitle) := by
  have hlength := hafter.imp (congrArg List.length) (congrArg List.length)
  rcases h with ⟨rfl, rfl⟩ | rfl
  · refine ⟨fun _ => rfl, fun hwithRow => ?_⟩
    by_cases hwith : withTitle
    · exact .inr hwith
    · simp [hwith, hwithRow, htitle, hrow] at hlength
  · refine ⟨fun hwith => ?_, fun _ => .inl (List.append_ne_nil_of_left_ne_nil htitle _)⟩
    by_cases hwithRow : withRow <;> simp [hwith, hwithRow, htitle] at hlength

end

theorem titleThenRows_iff_inOrder (inputs : List CardInput) :
    Always cardStep TitleThenRows (World.powerOn []) inputs ↔
      Along cardStep InOrder (World.powerOn []) inputs := by
  have htitle : titleLine ≠ [] := by decide
  have hrow : ∀ measured tick, dataLine measured tick ≠ [] := by simp [dataLine]
  apply always_iff_along fun w => FileInvariant titleLine w.dataCsv (writtenRows w.history)
  · exact fun w h => h.imp_left And.left
  · intro w input h hinput
    cases input with
    | boot => exact h
    | save measured tick titleFd rowFd =>
      rw [save_dataCsv, save_writtenRows]
      exact h.append htitle hinput.1 hinput.2
  · intro w input h hafter
    cases input with
    | boot => trivial
    | save measured tick titleFd rowFd =>
      unfold TitleThenRows at hafter
      rw [save_dataCsv, save_writtenRows] at hafter
      exact h.of_append htitle (hrow measured tick) hafter
  · exact .inl ⟨rfl, rfl⟩

section
variable {inputs : List CardInput} {k : Nat} {input : CardInput}

/-- The state before the input at place `k`. -/
def worldBefore (inputs : List CardInput) (k : Nat) : World :=
  runs cardStep (World.powerOn []) (inputs.take k)

theorem worldBefore_succ (hinput : inputs[k]? = some input) :
    worldBefore inputs (k + 1) = cardStep (worldBefore inputs k) input :=
  runs_take_succ hinput

/-- The flag in RAM says whether the boot has seen a save, whatever became of its opens. -/
theorem worldBefore_isFirstSave (hk : k ≤ inputs.length) :
    (worldBefore inputs k).isFirstSave = true ↔ FirstOfBoot inputs k := by
  cases k with
  | zero => exact iff_of_true rfl (.inl rfl)
  | succ k =>
    have hinput := List.getElem?_eq_getElem hk
    rw [worldBefore_succ hinput]
    unfold FirstOfBoot
    rw [Nat.add_sub_cancel, hinput]
    cases inputs[k] with
    | boot => simp [cardStep, World.reboot, World.powerOn]
    | save measured tick titleFd rowFd =>
      dsimp only [cardStep]
      rw [sdcardSaveCurrData_eq]
      simp

theorem save_dataCsv_ne_nil (w : World) (measured : Measured) (tick : UInt32)
    (titleFd rowFd : Int) :
    (cardStep w (.save measured tick titleFd rowFd)).dataCsv ≠ [] ↔
      w.dataCsv ≠ [] ∨ writesTitle w titleFd ∨ rowFd ≥ 0 := by
  have htitle : titleLine ≠ [] := by decide
  have hrow : dataLine measured tick ≠ [] := by simp [dataLine]
  rw [save_dataCsv]
  simp only [ne_eq, List.append_eq_nil_iff, not_and_or, ite_eq_right_iff, Classical.not_imp,
    htitle, hrow, not_false_eq_true, and_true]

/-- A successful open leaves something in the file, for the file outlives the boots. -/
theorem worldBefore_dataCsv (hk : k ≤ inputs.length) :
    (worldBefore inputs k).dataCsv ≠ [] ↔ ∃ j < k, OpensTitle inputs j ∨ OpensRow inputs j := by
  induction k with
  | zero => simp [worldBefore, World.powerOn]
  | succ k ih =>
    have hinput := List.getElem?_eq_getElem hk
    have hfirst := worldBefore_isFirstSave (Nat.le_of_succ_le hk)
    rw [worldBefore_succ hinput, Nat.exists_lt_succ_right, ← ih (Nat.le_of_succ_le hk)]
    unfold OpensTitle OpensRow
    rw [hinput, ← hfirst]
    cases inputs[k] with
    | boot => simp [cardStep, World.reboot, World.powerOn, CardInput.titleOpens, CardInput.rowOpens]
    | save measured tick titleFd rowFd =>
      rw [save_dataCsv_ne_nil]
      simp [writesTitle, CardInput.titleOpens, CardInput.rowOpens, and_comm]

/-- What a save finds in RAM and on the card, by the opens so far. -/
theorem inOrder_worldBefore (hinput : inputs[k]? = some input) :
    InOrder (worldBefore inputs k) input ↔
      (OpensTitle inputs k → ¬∃ j < k, OpensTitle inputs j ∨ OpensRow inputs j) ∧
        (OpensRow inputs k →
          (∃ j < k, OpensTitle inputs j ∨ OpensRow inputs j) ∨ OpensTitle inputs k) := by
  have hk : k ≤ inputs.length := (List.getElem?_eq_some_iff.mp hinput).1.le
  have hfirst := worldBefore_isFirstSave hk
  rw [← worldBefore_dataCsv hk]
  unfold OpensTitle OpensRow
  rw [hinput, ← hfirst]
  cases input with
  | boot => simp [InOrder, CardInput.titleOpens, CardInput.rowOpens]
  | save measured tick titleFd rowFd =>
    simp [InOrder, writesTitle, CardInput.titleOpens, CardInput.rowOpens, and_comm]

/-- The first open of all that succeeds is for a title, and it is the only one for a title. -/
theorem oneTitleFirst_iff :
    OneTitleFirst inputs ↔ ∀ k < inputs.length,
      (OpensTitle inputs k → ¬∃ j < k, OpensTitle inputs j ∨ OpensRow inputs j) ∧
        (OpensRow inputs k →
          (∃ j < k, OpensTitle inputs j ∨ OpensRow inputs j) ∨ OpensTitle inputs k) := by
  constructor
  · intro h k _
    refine ⟨?_, fun hrow => ?_⟩
    · rintro htitle ⟨j, hj, htitle' | hrow⟩
      · exact absurd (h.one j k htitle' htitle) hj.ne
      · obtain ⟨i, hi, htitle'⟩ := h.first j hrow
        exact absurd (h.one i k htitle' htitle) (hi.trans_lt hj).ne
    · obtain ⟨j, hj, htitle⟩ := h.first k hrow
      rcases hj.lt_or_eq with hj | rfl
      · exact .inl ⟨j, hj, .inl htitle⟩
      · exact .inr htitle
  · intro h
    have htitle_lt : ∀ k, OpensTitle inputs k → k < inputs.length := by
      rintro k ⟨⟨input, hinput, _⟩, _⟩
      exact (List.getElem?_eq_some_iff.mp hinput).1
    have hrow_lt : ∀ k, OpensRow inputs k → k < inputs.length := by
      rintro k ⟨input, hinput, _⟩
      exact (List.getElem?_eq_some_iff.mp hinput).1
    constructor
    · intro j k hj hk
      rcases Nat.lt_trichotomy j k with hlt | heq | hlt
      · exact absurd ⟨j, hlt, .inl hj⟩ ((h k (htitle_lt k hk)).1 hk)
      · exact heq
      · exact absurd ⟨k, hlt, .inl hk⟩ ((h j (htitle_lt j hj)).1 hj)
    · intro k
      induction k using Nat.strong_induction_on with
      | _ k ih =>
        intro hrow
        rcases (h k (hrow_lt k hrow)).2 hrow with ⟨j, hj, htitle | hrow'⟩ | htitle
        · exact ⟨j, hj.le, htitle⟩
        · obtain ⟨i, hi, htitle⟩ := ih j hj hrow'
          exact ⟨i, hi.trans hj.le, htitle⟩
        · exact ⟨k, le_rfl, htitle⟩

end

/-- In any history of boots and saves the file has its title first and only there
exactly when at most one boot has a first save that opens the file for the title,
and no save opens it for a row before that one. -/
theorem titleThenRows_iff (inputs : List CardInput) :
    Always cardStep TitleThenRows (World.powerOn []) inputs ↔ OneTitleFirst inputs := by
  rw [titleThenRows_iff_inOrder, along_iff_at, oneTitleFirst_iff]
  constructor
  · intro h k hk
    have hinput := List.getElem?_eq_getElem hk
    exact (inOrder_worldBefore hinput).mp (h k inputs[k] hinput)
  · intro h k input hinput
    exact (inOrder_worldBefore hinput).mpr (h k (List.getElem?_eq_some_iff.mp hinput).1)

/-- A save, a boot and another save: the title is there twice. -/
theorem secondBoot_titleAgain :
    ¬∀ inputs : List CardInput, Always cardStep TitleThenRows (World.powerOn []) inputs := by
  intro h
  apply absurd (h [.save Measured.init 5000 3 3, .boot, .save Measured.init 5000 3 3])
  apply not_always_of_last
  decide +kernel

end WeatherStation
