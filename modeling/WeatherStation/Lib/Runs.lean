import Mathlib.Data.List.Basic

/-! Runs of a deterministic transition function over a list of inputs, the
states they visit, and conditions on the inputs along the way. -/
namespace WeatherStation.Lib

variable {σ ι : Type}

/-- The state after the inputs. -/
def runs (step : σ → ι → σ) (s : σ) (inputs : List ι) : σ :=
  inputs.foldl step s

/-- Every step of the run meets a condition on its input and the state before. -/
def Along (step : σ → ι → σ) (condition : σ → ι → Prop) : σ → List ι → Prop
  | _, [] => True
  | s, input :: inputs => condition s input ∧ Along step condition (step s input) inputs

/-- Every state of the run, the first and the last included. -/
def Always (step : σ → ι → σ) (property : σ → Prop) : σ → List ι → Prop
  | s, [] => property s
  | s, input :: inputs => property s ∧ Always step property (step s input) inputs

variable {step : σ → ι → σ}

instance {condition : σ → ι → Prop} [∀ s input, Decidable (condition s input)] :
    ∀ s inputs, Decidable (Along step condition s inputs)
  | _, [] => isTrue trivial
  | s, input :: inputs =>
    @instDecidableAnd _ _ inferInstance (instDecidableAlong (step s input) inputs)

@[simp] theorem runs_nil (s : σ) : runs step s [] = s := rfl

@[simp] theorem runs_cons (s : σ) (input : ι) (inputs : List ι) :
    runs step s (input :: inputs) = runs step (step s input) inputs := rfl

@[simp] theorem runs_append (s : σ) (left right : List ι) :
    runs step s (left ++ right) = runs step (runs step s left) right :=
  List.foldl_append

/-- `Along` speaks of each place of the list and of the state that its inputs so far reach. -/
theorem along_iff_at {condition : σ → ι → Prop} {s : σ} {inputs : List ι} :
    Along step condition s inputs ↔
      ∀ k input, inputs[k]? = some input → condition (runs step s (inputs.take k)) input := by
  induction inputs generalizing s with
  | nil => simp [Along]
  | cons input inputs ih =>
    rw [Along, ih]
    constructor
    · rintro ⟨hfirst, hrest⟩ k next hnext
      cases k with
      | zero => exact Option.some.inj hnext ▸ hfirst
      | succ k => exact hrest k next hnext
    · intro h
      exact ⟨h 0 input rfl, fun k next hnext => h (k + 1) next hnext⟩

/-- One input more at the end of a prefix. -/
theorem runs_take_succ {s : σ} {inputs : List ι} {k : Nat} {input : ι}
    (hinput : inputs[k]? = some input) :
    runs step s (inputs.take (k + 1)) = step (runs step s (inputs.take k)) input := by
  rw [List.take_add_one, hinput, runs_append]
  rfl

/-- What every admitted step preserves holds after every admitted run. -/
theorem runs_invariant {invariant : σ → Prop} {condition : σ → ι → Prop}
    (hstep : ∀ s input, invariant s → condition s input → invariant (step s input))
    {s : σ} {inputs : List ι} (hs : invariant s) (hinputs : Along step condition s inputs) :
    invariant (runs step s inputs) := by
  induction inputs generalizing s with
  | nil => exact hs
  | cons input inputs ih => exact ih (hstep s input hs hinputs.1) hinputs.2

theorem runs_induction {invariant : σ → Prop}
    (hstep : ∀ s input, invariant s → invariant (step s input))
    {s : σ} (hs : invariant s) (inputs : List ι) : invariant (runs step s inputs) := by
  induction inputs generalizing s with
  | nil => exact hs
  | cons input inputs ih => exact ih (hstep s input hs)

theorem Always.last {property : σ → Prop} {s : σ} {inputs : List ι}
    (h : Always step property s inputs) : property (runs step s inputs) := by
  induction inputs generalizing s with
  | nil => exact h
  | cons input inputs ih => exact ih h.2

theorem Always.first {property : σ → Prop} {s : σ} {inputs : List ι}
    (h : Always step property s inputs) : property s := by
  cases inputs with
  | nil => exact h
  | cons input inputs => exact h.1

theorem not_always_of_last {property : σ → Prop} {s : σ} {inputs : List ι}
    (h : ¬property (runs step s inputs)) : ¬Always step property s inputs :=
  fun halways => h halways.last

/-- Two systems that run side by side: a condition on the steps of the one and a
condition on the steps of the other that agree on related states pick out the same runs. -/
theorem along_iff_along_of_relation {τ : Type} {step' : τ → ι → τ} {property : σ → ι → Prop}
    {condition : τ → ι → Prop} (relation : σ → τ → Prop)
    (hagree : ∀ s t input, relation s t → (property s input ↔ condition t input))
    (hstep : ∀ s t input, relation s t → condition t input →
      relation (step s input) (step' t input))
    {s : σ} {t : τ} {inputs : List ι} (hs : relation s t) :
    Along step property s inputs ↔ Along step' condition t inputs := by
  induction inputs generalizing s t with
  | nil => exact Iff.rfl
  | cons input inputs ih =>
    rw [Along, Along, hagree s t input hs]
    exact and_congr_right fun hcondition => ih (hstep s t input hs hcondition)

/-- Two conditions on steps that agree under an invariant pick out the same runs. -/
theorem along_iff_along {property condition : σ → ι → Prop} (invariant : σ → Prop)
    (hagree : ∀ s input, invariant s → (property s input ↔ condition s input))
    (hstep : ∀ s input, invariant s → condition s input → invariant (step s input))
    {s : σ} {inputs : List ι} (hs : invariant s) :
    Along step property s inputs ↔ Along step condition s inputs := by
  apply along_iff_along_of_relation fun s t => s = t ∧ invariant s
  · rintro s t input ⟨rfl, hs⟩
    exact hagree s input hs
  · rintro s t input ⟨rfl, hs⟩ hcondition
    exact ⟨rfl, hstep s input hs hcondition⟩
  · exact ⟨rfl, hs⟩

theorem along_append {condition : σ → ι → Prop} {s : σ} {left right : List ι} :
    Along step condition s (left ++ right) ↔
      Along step condition s left ∧ Along step condition (runs step s left) right := by
  induction left generalizing s with
  | nil => exact (and_iff_right trivial).symm
  | cons input left ih =>
    rw [List.cons_append, Along, Along, ih, and_assoc]
    rfl

theorem along_inputs {condition : ι → Prop} {s : σ} {inputs : List ι} :
    Along step (fun _ input => condition input) s inputs ↔ ∀ input ∈ inputs, condition input := by
  induction inputs generalizing s with
  | nil => simp [Along]
  | cons input inputs ih => rw [Along, ih, List.forall_mem_cons]

theorem along_and {condition condition' : σ → ι → Prop} {s : σ} {inputs : List ι} :
    Along step (fun s input => condition s input ∧ condition' s input) s inputs ↔
      Along step condition s inputs ∧ Along step condition' s inputs := by
  induction inputs generalizing s with
  | nil => simp [Along]
  | cons input inputs ih =>
    rw [Along, Along, Along, ih]
    exact and_and_and_comm

theorem always_of_along {property : σ → Prop} {condition : σ → ι → Prop} (invariant : σ → Prop)
    (himplies : ∀ s, invariant s → property s)
    (hstep : ∀ s input, invariant s → condition s input → invariant (step s input))
    {s : σ} {inputs : List ι} (hs : invariant s) (hinputs : Along step condition s inputs) :
    Always step property s inputs := by
  induction inputs generalizing s with
  | nil => exact himplies s hs
  | cons input inputs ih =>
    exact ⟨himplies s hs, ih (hstep s input hs hinputs.1) hinputs.2⟩

/-- The exact condition for a safety property: if admitted steps keep an
invariant that implies the property, and a step that is not admitted breaks
the property at once, then the runs that always have the property are exactly
the runs of admitted steps.  Of all inputs something may be assumed. -/
theorem always_iff_along_of {property : σ → Prop} {condition : σ → ι → Prop}
    (invariant : σ → Prop) (assumed : ι → Prop) (himplies : ∀ s, invariant s → property s)
    (hstep : ∀ s input, assumed input → invariant s → condition s input →
      invariant (step s input))
    (hbreak : ∀ s input, assumed input → invariant s → property (step s input) →
      condition s input)
    {s : σ} {inputs : List ι} (hs : invariant s) (hinputs : ∀ input ∈ inputs, assumed input) :
    Always step property s inputs ↔ Along step condition s inputs := by
  induction inputs generalizing s with
  | nil => exact iff_of_true (himplies s hs) trivial
  | cons input inputs ih =>
    obtain ⟨hinput, hinputs⟩ := List.forall_mem_cons.mp hinputs
    constructor
    · intro h
      have hcondition := hbreak s input hinput hs h.2.first
      exact ⟨hcondition, (ih (hstep s input hinput hs hcondition) hinputs).mp h.2⟩
    · intro h
      exact ⟨himplies s hs, (ih (hstep s input hinput hs h.1) hinputs).mpr h.2⟩

theorem always_iff_along {property : σ → Prop} {condition : σ → ι → Prop} (invariant : σ → Prop)
    (himplies : ∀ s, invariant s → property s)
    (hstep : ∀ s input, invariant s → condition s input → invariant (step s input))
    (hbreak : ∀ s input, invariant s → property (step s input) → condition s input)
    {s : σ} {inputs : List ι} (hs : invariant s) :
    Always step property s inputs ↔ Along step condition s inputs :=
  always_iff_along_of invariant (fun _ => True) himplies (fun s input _ => hstep s input)
    (fun s input _ => hbreak s input) hs fun _ _ => trivial

end WeatherStation.Lib
