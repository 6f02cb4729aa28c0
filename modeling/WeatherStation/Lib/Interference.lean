import WeatherStation.Lib.Program
import Mathlib.Logic.Relation

/-! Rely-guarantee reasoning for interruptible programs.  A triple holds when
every interleaving of the program with its surroundings that starts in the
precondition and is granted its labelled statements keeps the guarantee and
ends in the postcondition. -/
namespace WeatherStation.Lib

open Relation

/-- What the program runs in: the steps others may take between two of its
statements, what it is granted of the state when a labelled statement runs,
and what it guarantees of every state in between. -/
structure Surroundings (L σ : Type) where
  interferes : σ → σ → Prop
  grants : L → σ → Prop
  guarantees : σ → Prop

/-- A property that no interference can destroy and that implies the guarantee. -/
structure Assertion {L σ : Type} (env : Surroundings L σ) where
  holds : σ → Prop
  stable : ∀ s t, holds s → env.interferes s t → holds t
  guaranteed : ∀ s, holds s → env.guarantees s

namespace Assertion

variable {L σ : Type} {env : Surroundings L σ}

instance : CoeFun (Assertion env) fun _ => σ → Prop := ⟨holds⟩

theorem star (assertion : Assertion env) {s t : σ} (hs : assertion s)
    (hst : ReflTransGen env.interferes s t) : assertion t := by
  induction hst with
  | refl => exact hs
  | tail _ hstep ih => exact assertion.stable _ _ ih hstep

/-- An assertion for each value of a ghost. -/
def some {ι : Type} (family : ι → Assertion env) : Assertion env where
  holds s := ∃ i, family i s
  stable := fun s t ⟨i, hs⟩ hst => ⟨i, (family i).stable s t hs hst⟩
  guaranteed := fun s ⟨i, hs⟩ => (family i).guaranteed s hs

end Assertion

namespace Program

variable {L σ α β : Type} {env : Surroundings L σ}

def Safe (env : Surroundings L σ) (post : α → σ → Prop) : Program L σ α → σ → Prop
  | .done a, s => ∀ t, ReflTransGen env.interferes s t → post a t
  | .step label update rest, s =>
      ∀ t, ReflTransGen env.interferes s t →
        env.guarantees t ∧ (env.grants label t → Safe env post (rest t) (update t))

/-- Interference may come at any moment, so a safe program stays safe under it. -/
theorem Safe.interfere {post : α → σ → Prop} {program : Program L σ α} {s t : σ}
    (hsafe : Safe env post program s) (hstep : env.interferes s t) :
    Safe env post program t := by
  cases program with
  | done a => exact fun u hu => hsafe u (.head hstep hu)
  | step label update rest => exact fun u hu => hsafe u (.head hstep hu)

theorem Safe.next {post : α → σ → Prop} {label : L} {update : σ → σ}
    {rest : σ → Program L σ α} {s : σ}
    (hsafe : Safe env post (.step label update rest) s) (hgrant : env.grants label s) :
    Safe env post (rest s) (update s) :=
  (hsafe s .refl).2 hgrant

theorem Safe.post {post : α → σ → Prop} {a : α} {s : σ}
    (hsafe : Safe env post (.done a) s) : post a s :=
  hsafe s .refl

theorem Safe.guaranteed {post : α → σ → Prop} {program : Program L σ α} {s : σ}
    (hsafe : Safe env post program s) (hpost : ∀ a t, post a t → env.guarantees t) :
    env.guarantees s := by
  cases program with
  | done a => exact hpost a s hsafe.post
  | step label update rest => exact (hsafe s .refl).1

theorem Safe.bind {mid : α → σ → Prop} {post : β → σ → Prop} {program : Program L σ α}
    {rest : α → Program L σ β} {s : σ} (hsafe : Safe env mid program s)
    (hrest : ∀ a t, mid a t → Safe env post (rest a) t) :
    Safe env post (program >>= rest) s := by
  induction program generalizing s with
  | done a => exact hrest a s hsafe.post
  | step label update next ih =>
    intro t ht
    have hstep := hsafe t ht
    exact ⟨hstep.1, fun hgrant => ih t (hstep.2 hgrant)⟩

theorem Safe.weaken {post post' : α → σ → Prop} {program : Program L σ α} {s : σ}
    (hsafe : Safe env post' program s) (hpost : ∀ a t, post' a t → post a t) :
    Safe env post program s := by
  induction program generalizing s with
  | done a => exact fun t ht => hpost a t (hsafe t ht)
  | step label update rest ih =>
    intro t ht
    have hstep := hsafe t ht
    exact ⟨hstep.1, fun hgrant => ih t (hstep.2 hgrant)⟩

def Triple (pre : Assertion env) (program : Program L σ α) (post : α → Assertion env) : Prop :=
  ∀ s, pre s → Safe env (fun a => (post a).holds) program s

namespace Triple

variable {pre : Assertion env} {post : α → Assertion env}

theorem bind {mid : α → Assertion env} {post : β → Assertion env} {program : Program L σ α}
    {rest : α → Program L σ β} (hprogram : Triple pre program mid)
    (hrest : ∀ a, Triple (mid a) (rest a) post) : Triple pre (program >>= rest) post :=
  fun s hs => (hprogram s hs).bind fun a t ht => hrest a t ht

theorem pure {a : α} (hpost : ∀ s, pre s → post a s) :
    Triple pre (Pure.pure a : Program L σ α) post :=
  fun s hs _ ht => (post a).star (hpost s hs) ht

theorem strengthen {pre' : Assertion env} {program : Program L σ α}
    (hprogram : Triple pre' program post) (hpre : ∀ s, pre s → pre' s) :
    Triple pre program post :=
  fun s hs => hprogram s (hpre s hs)

theorem weaken {post' : α → Assertion env} {program : Program L σ α}
    (hprogram : Triple pre program post') (hpost : ∀ a s, post' a s → post a s) :
    Triple pre program post :=
  fun s hs => (hprogram s hs).weaken hpost

/-- A ghost of the precondition may be fixed before the program runs. -/
theorem some {ι : Type} {family : ι → Assertion env} {program : Program L σ α}
    (h : ∀ i, Triple (family i) program post) : Triple (.some family) program post :=
  fun s ⟨i, hs⟩ => h i s hs

/-- One atomic statement, which may update the state and return what it found. -/
theorem atomic {label : L} {update : σ → σ} {read : σ → α}
    (hstep : ∀ s, pre s → env.grants label s → post (read s) (update s)) :
    Triple pre (.step label update fun s => .done (read s)) post := by
  intro s hs t ht
  have hpre := pre.star hs ht
  exact ⟨pre.guaranteed t hpre, fun hgrant _ hu => (post _).star (hstep t hpre hgrant) hu⟩

theorem assignAt {post : Unit → Assertion env} {label : L} {update : σ → σ}
    (hupdate : ∀ s, pre s → env.grants label s → post () (update s)) :
    Triple pre (assignAt label update) post := atomic hupdate

theorem readAt {label : L} {read : σ → α}
    (hread : ∀ s, pre s → env.grants label s → post (read s) s) :
    Triple pre (readAt label read) post := atomic hread

section
variable [Inhabited L]

theorem assign {post : Unit → Assertion env} {update : σ → σ}
    (hupdate : ∀ s, pre s → post () (update s)) : Triple pre (assign update) post :=
  assignAt fun s hs _ => hupdate s hs

theorem read {read : σ → α} (hread : ∀ s, pre s → post (read s) s) :
    Triple pre (Program.read read) post :=
  readAt fun s hs _ => hread s hs

end

theorem ite {c : Prop} [Decidable c] {left right : Program L σ α}
    (hleft : c → Triple pre left post) (hright : ¬c → Triple pre right post) :
    Triple pre (if c then left else right) post := by
  split
  · exact hleft ‹_›
  · exact hright ‹_›

theorem repeatTimes {invariant : Assertion env} {body : Program L σ Unit}
    (hbody : Triple invariant body fun _ => invariant) (n : Nat) :
    Triple invariant (Program.repeatTimes n body) fun _ => invariant := by
  induction n with
  | zero => exact Triple.pure fun _ hs => hs
  | succ n ih => exact hbody.bind fun _ => ih

end Triple

/-- One step of an interleaving: of the program or of its surroundings. -/
inductive Interleaves (interferes : σ → σ → Prop) :
    Program L σ α × σ → Program L σ α × σ → Prop
  | statement (label : L) (update : σ → σ) (rest : σ → Program L σ α) (s : σ) :
    Interleaves interferes (.step label update rest, s) (rest s, update s)
  | interference (program : Program L σ α) {s t : σ} :
    interferes s t → Interleaves interferes (program, s) (program, t)

theorem Safe.interleaves {post : α → σ → Prop} {c c' : Program L σ α × σ}
    (hgrants : ∀ label s, env.grants label s) (hsafe : Safe env post c.1 c.2)
    (hsteps : ReflTransGen (Interleaves env.interferes) c c') : Safe env post c'.1 c'.2 := by
  induction hsteps with
  | refl => exact hsafe
  | tail _ hstep ih =>
    cases hstep with
    | statement label update rest s => exact ih.next (hgrants label s)
    | interference program hinterferes => exact ih.interfere hinterferes

/-- Every state that an interleaving passes through satisfies the guarantee. -/
theorem Triple.interleaves {pre : Assertion env} {post : α → Assertion env}
    {program program' : Program L σ α} {s s' : σ} (hprogram : Triple pre program post)
    (hgrants : ∀ label s, env.grants label s) (hs : pre s)
    (hsteps : ReflTransGen (Interleaves env.interferes) (program, s) (program', s')) :
    env.guarantees s' :=
  ((hprogram s hs).interleaves hgrants hsteps).guaranteed fun a t => (post a).guaranteed t

theorem interleaves_iterate (interferes : σ → σ → Prop) (n : Nat) (c : Program L σ α × σ) :
    ReflTransGen (Interleaves interferes) c (next^[n] c) := by
  induction n generalizing c with
  | zero => exact .refl
  | succ n ih =>
    obtain ⟨program, s⟩ := c
    cases program with
    | done a => exact ih _
    | step label update rest => exact .head (.statement label update rest s) (ih _)

theorem interleaves_interference {interferes : σ → σ → Prop} (program : Program L σ α) {s t : σ}
    (hst : ReflTransGen interferes s t) :
    ReflTransGen (Interleaves interferes) (program, s) (program, t) :=
  hst.lift (program, ·) fun _ _ => .interference program

section
variable {γ : Type} (mark : L → γ → γ)

/-- The program with a ghost beside its state, which the labels move. -/
def watch : Program L σ α → Program L (σ × γ) α
  | .done a => .done a
  | .step label update rest =>
    .step label (fun s => (update s.1, mark label s.2)) fun s => watch (rest s.1)

theorem watch_bind (program : Program L σ α) (rest : α → Program L σ β) :
    (program >>= rest).watch mark = program.watch mark >>= fun a => (rest a).watch mark := by
  induction program with
  | done a => rfl
  | step label update next ih => exact congrArg (step label _) (funext fun s => ih s.1)

end

/-- Every statement of the program satisfies a condition on its label and its
update, whatever the reads before it returned. -/
def Every (condition : L → (σ → σ) → Prop) : Program L σ α → Prop
  | .done _ => True
  | .step label update rest => condition label update ∧ ∀ s, Every condition (rest s)

namespace Every

variable {condition : L → (σ → σ) → Prop}

theorem bind {program : Program L σ α} {rest : α → Program L σ β}
    (hprogram : Every condition program) (hrest : ∀ a, Every condition (rest a)) :
    Every condition (program >>= rest) := by
  induction program with
  | done a => exact hrest a
  | step label update next ih => exact ⟨hprogram.1, fun s => ih s (hprogram.2 s)⟩

theorem pure (a : α) : Every condition (Pure.pure a : Program L σ α) := trivial

theorem assignAt {label : L} {update : σ → σ} (h : condition label update) :
    Every condition (assignAt label update) := ⟨h, fun _ => trivial⟩

theorem readAt {label : L} {read : σ → α} (h : condition label id) :
    Every condition (readAt label read) := ⟨h, fun _ => trivial⟩

theorem mono {condition' : L → (σ → σ) → Prop} {program : Program L σ α}
    (hprogram : Every condition program)
    (h : ∀ label update, condition label update → condition' label update) :
    Every condition' program := by
  induction program with
  | done a => trivial
  | step label update rest ih =>
    exact ⟨h label update hprogram.1, fun s => ih s (hprogram.2 s)⟩

theorem exec {program : Program L σ α} (hprogram : Every condition program)
    {invariant : σ → Prop}
    (hstep : ∀ label update s, condition label update → invariant s → invariant (update s))
    {s : σ} (hs : invariant s) : invariant (program.exec s) := by
  induction program generalizing s with
  | done a => exact hs
  | step label update rest ih => exact ih s (hprogram.2 s) (hstep label update s hprogram.1 hs)

theorem triple {program : Program L σ α} (hprogram : Every condition program)
    {invariant : Assertion env}
    (hstep : ∀ label update s, condition label update → env.grants label s →
      invariant s → invariant (update s)) :
    Triple invariant program fun _ => invariant := by
  induction program with
  | done a => exact Triple.pure fun _ hs => hs
  | step label update rest ih =>
    intro s hs t ht
    have hinvariant := invariant.star hs ht
    exact ⟨invariant.guaranteed t hinvariant, fun hgrant =>
      ih t (hprogram.2 t) _ (hstep label update t hprogram.1 hgrant hinvariant)⟩

end Every
end Program
end WeatherStation.Lib
