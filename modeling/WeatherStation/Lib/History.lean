import Mathlib.Data.List.Basic

/-! Histories of events, newest first, in which every event has to be
justified by the ones before it. -/
namespace WeatherStation.Lib.History

variable {ε : Type}

/-- Every event of the history is justified by the earlier ones. -/
def Justified (because : ε → List ε → Prop) : List ε → Prop
  | [] => True
  | event :: earlier => because event earlier ∧ Justified because earlier

/-- The events after the latest one that starts a phase. -/
def since (starts : ε → Bool) (history : List ε) : List ε :=
  history.takeWhile fun event => !starts event

/-- The newest value that an event sets, or the initial one. -/
def latest {α : Type} (sets : ε → Option α) (initial : α) (history : List ε) : α :=
  (history.findSome? sets).getD initial

variable {because : ε → List ε → Prop} {starts : ε → Bool} {event : ε} {new old : List ε}

@[simp] theorem justified_nil : Justified because [] := trivial

@[simp] theorem justified_cons :
    Justified because (event :: old) ↔ because event old ∧ Justified because old := Iff.rfl

-- A history that is only spoken of must not be computed.
attribute [irreducible] Justified

instance [∀ event earlier, Decidable (because event earlier)] :
    ∀ history, Decidable (Justified because history)
  | [] => isTrue justified_nil
  | event :: earlier =>
    have := instDecidableJustified earlier
    decidable_of_iff (because event earlier ∧ Justified because earlier) justified_cons.symm

/-- Events of a kind on top of events of that kind. -/
theorem extend_trans {kind : ε → Prop} {first second third : List ε}
    (h : ∃ events : List ε, (∀ event ∈ events, kind event) ∧ second = events ++ first)
    (h' : ∃ events : List ε, (∀ event ∈ events, kind event) ∧ third = events ++ second) :
    ∃ events : List ε, (∀ event ∈ events, kind event) ∧ third = events ++ first := by
  obtain ⟨events, hevents, rfl⟩ := h
  obtain ⟨events', hevents', rfl⟩ := h'
  refine ⟨events' ++ events, List.forall_mem_append.mpr ⟨hevents', hevents⟩, ?_⟩
  rw [List.append_assoc]

theorem Justified.append (hnew : ∀ event ∈ new, ∀ earlier, because event earlier)
    (hold : Justified because old) : Justified because (new ++ old) := by
  induction new with
  | nil => exact hold
  | cons first rest ih =>
    refine justified_cons.mpr ⟨hnew first List.mem_cons_self _, ih fun event hevent => ?_⟩
    exact hnew event (List.mem_cons_of_mem first hevent)

theorem Justified.of_append (h : Justified because (new ++ old)) : Justified because old := by
  induction new with
  | nil => exact h
  | cons first rest ih => exact ih (justified_cons.mp h).2

theorem justified_append_iff (hnew : ∀ event ∈ new, ∀ earlier, because event earlier) :
    Justified because (new ++ old) ↔ Justified because old :=
  ⟨Justified.of_append, Justified.append hnew⟩

@[simp] theorem since_cons :
    since starts (event :: old) = if starts event then [] else event :: since starts old := by
  cases h : starts event <;> simp [since, h]

theorem since_append (hnew : ∀ event ∈ new, starts event = false) :
    since starts (new ++ old) = new ++ since starts old := by
  induction new with
  | nil => rfl
  | cons first rest ih =>
    rw [List.cons_append, since_cons, hnew first List.mem_cons_self,
      ih fun event hevent => hnew event (List.mem_cons_of_mem first hevent)]
    rfl

/-- The phase of a start event ends at it. -/
theorem since_append_cons (hnew : ∀ event ∈ new, starts event = false)
    (hevent : starts event = true) : since starts (new ++ event :: old) = new := by
  rw [since_append hnew, since_cons, if_pos hevent, List.append_nil]

section
variable {α : Type} {sets : ε → Option α} {initial : α}

theorem latest_cons :
    latest sets initial (event :: old) = (sets event).getD (latest sets initial old) := by
  rw [latest, List.findSome?_cons, latest]
  cases sets event with
  | none => rfl
  | some value => rfl

theorem latest_append (hnew : ∀ event ∈ new, sets event = none) :
    latest sets initial (new ++ old) = latest sets initial old := by
  rw [latest, List.findSome?_append, List.findSome?_eq_none_iff.mpr hnew, Option.none_or, latest]

end

end WeatherStation.Lib.History
