import Mathlib.Tactic.SplitIfs

/-! Two stateful programs that run in step.  From related states they return the
same result and end in states that the result relates. -/
namespace WeatherStation.Lib

variable {σ τ α β : Type}

/-! ### Running a program -/

theorem bind_apply (f : StateM σ α) (next : α → StateM σ β) (s : σ) :
    (f >>= next) s = next (f s).1 (f s).2 := rfl

theorem pure_apply (a : α) (s : σ) : (pure a : StateM σ α) s = (a, s) := rfl

/-! ### Running two -/

def Simulates (pre : σ → τ → Prop) (f : StateM σ α) (g : StateM τ α) (post : α → σ → τ → Prop) :
    Prop :=
  ∀ s t, pre s t → (f s).1 = (g t).1 ∧ post (f s).1 (f s).2 (g t).2

namespace Simulates

variable {pre : σ → τ → Prop} {post : α → σ → τ → Prop} {last : β → σ → τ → Prop}
  {f : StateM σ α} {g : StateM τ α}

theorem pure {a : α} (h : ∀ s t, pre s t → post a s t) : Simulates pre (pure a) (pure a) post :=
  fun s t hpre => ⟨rfl, h s t hpre⟩

theorem bind {next : α → StateM σ β} {next' : α → StateM τ β} (hf : Simulates pre f g post)
    (hnext : ∀ a, Simulates (post a) (next a) (next' a) last) :
    Simulates pre (f >>= next) (g >>= next') last := by
  intro s t h
  have ⟨hresult, hpost⟩ := hf s t h
  rw [bind_apply, bind_apply, ← hresult]
  exact hnext _ _ _ hpost

theorem weaken {pre' : σ → τ → Prop} {post' : α → σ → τ → Prop} (hf : Simulates pre f g post)
    (hpre : ∀ s t, pre' s t → pre s t) (hpost : ∀ a s t, post a s t → post' a s t) :
    Simulates pre' f g post' := by
  intro s t h
  have ⟨hresult, hend⟩ := hf s t (hpre s t h)
  exact ⟨hresult, hpost _ _ _ hend⟩

theorem of_and {p : Prop} (h : p → Simulates pre f g post) :
    Simulates (fun s t => p ∧ pre s t) f g post :=
  fun s t hpre => h hpre.1 s t hpre.2

theorem ite {c : Prop} [Decidable c] {f' : StateM σ α} {g' : StateM τ α}
    (ht : c → Simulates pre f g post) (he : ¬c → Simulates pre f' g' post) :
    Simulates pre (if c then f else f') (if c then g else g') post := by
  split_ifs with h
  · exact ht h
  · exact he h

theorem trans {υ : Type} {h : StateM υ α} {pre' : τ → υ → Prop} {post' : α → τ → υ → Prop}
    (hf : Simulates pre f g post) (hg : Simulates pre' g h post') :
    Simulates (fun s u => ∃ t, pre s t ∧ pre' t u) f h
      fun a s u => ∃ t, post a s t ∧ post' a t u := by
  rintro s u ⟨t, hpre, hpre'⟩
  have ⟨hresult, hpost⟩ := hf s t hpre
  have ⟨hresult', hpost'⟩ := hg t u hpre'
  exact ⟨hresult.trans hresult', _, hpost, hresult ▸ hpost'⟩

/-- A relation that each of some actions keeps is kept by any run of them. -/
theorem mapM {ι : Type} {f : ι → StateM σ α} {g : ι → StateM τ α} {inputs : List ι}
    (h : ∀ i ∈ inputs, Simulates pre (f i) (g i) fun _ => pre) :
    Simulates pre (inputs.mapM f) (inputs.mapM g) fun _ => pre := by
  induction inputs with
  | nil => exact .pure fun _ _ hpre => hpre
  | cons i inputs ih =>
    obtain ⟨hi, hinputs⟩ := List.forall_mem_cons.mp h
    rw [List.mapM_cons, List.mapM_cons]
    exact .bind hi fun _ => .bind (ih hinputs) fun _ => .pure fun _ _ hpre => hpre

end Simulates
end WeatherStation.Lib
