import Mathlib.Data.List.Nodup
import Mathlib.Data.List.Range

/-! A heap of blocks with identities: an allocation makes a new identity, and
a freed block keeps its contents but is no longer live.  An owner is a global
pointer into such a heap. -/
namespace WeatherStation.Lib

structure Heap (δ : Type) where
  /-- Contents by identity, in allocation order. -/
  blocks : List δ
  /-- Identities passed to `free`, newest first. -/
  freed : List Nat

namespace Heap

variable {δ : Type}

def empty : Heap δ := ⟨[], []⟩

def alloc (heap : Heap δ) (content : δ) : Nat × Heap δ :=
  (heap.blocks.length, { heap with blocks := heap.blocks ++ [content] })

def free (heap : Heap δ) (block : Nat) : Heap δ :=
  { heap with freed := block :: heap.freed }

def store (heap : Heap δ) (block : Nat) (content : δ) : Heap δ :=
  { heap with blocks := heap.blocks.set block content }

def Live (heap : Heap δ) (block : Nat) : Prop :=
  block < heap.blocks.length ∧ block ∉ heap.freed

instance (heap : Heap δ) (block : Nat) : Decidable (heap.Live block) :=
  inferInstanceAs (Decidable (_ ∧ _))

/-- Only allocated blocks were freed, and none of them twice. -/
structure Disciplined (heap : Heap δ) : Prop where
  allocated : ∀ block ∈ heap.freed, block < heap.blocks.length
  once : heap.freed.Nodup

def liveCount (heap : Heap δ) : Nat :=
  (List.range heap.blocks.length).countP fun block => block ∉ heap.freed

variable {heap : Heap δ} {block other : Nat} {content : δ}

theorem disciplined_empty : (empty : Heap δ).Disciplined :=
  ⟨by simp [empty], by simp [empty]⟩

theorem Disciplined.alloc (h : heap.Disciplined) : (heap.alloc content).2.Disciplined where
  allocated block hblock := by
    have := h.allocated block hblock
    simp only [Heap.alloc, List.length_append, List.length_singleton]
    omega
  once := h.once

theorem Disciplined.alloc_live (h : heap.Disciplined) :
    (heap.alloc content).2.Live (heap.alloc content).1 := by
  refine ⟨by simp [Heap.alloc], fun hfreed => ?_⟩
  exact Nat.lt_irrefl _ (h.allocated _ hfreed)

theorem Disciplined.free (h : heap.Disciplined) (hlive : heap.Live block) :
    (heap.free block).Disciplined where
  allocated other hother := by
    rcases List.mem_cons.mp hother with rfl | hother
    · exact hlive.1
    · exact h.allocated other hother
  once := List.nodup_cons.mpr ⟨hlive.2, h.once⟩

theorem Disciplined.store (h : heap.Disciplined) : (heap.store block content).Disciplined where
  allocated other hother := by
    simpa [Heap.store] using h.allocated other hother
  once := h.once

theorem not_live_free : ¬(heap.free block).Live block := by
  intro hlive
  exact hlive.2 List.mem_cons_self

@[simp] theorem live_store : (heap.store block content).Live other ↔ heap.Live other := by
  simp [Live, store]

theorem Disciplined.liveCount_alloc (h : heap.Disciplined) :
    (heap.alloc content).2.liveCount = heap.liveCount + 1 := by
  have hnew : heap.blocks.length ∉ heap.freed := fun hfreed =>
    Nat.lt_irrefl _ (h.allocated _ hfreed)
  unfold liveCount Heap.alloc
  rw [List.length_append, List.length_singleton, List.range_succ, List.countP_append,
    List.countP_singleton, if_pos (by simpa using hnew)]

theorem liveCount_alloc_free :
    ((heap.alloc content).2.free (heap.alloc content).1).liveCount = heap.liveCount := by
  have hsame : ∀ b ∈ List.range heap.blocks.length,
      (decide (b ∉ heap.blocks.length :: heap.freed) = true ↔ decide (b ∉ heap.freed) = true) := by
    intro b hb
    have hne : b ≠ heap.blocks.length := Nat.ne_of_lt (List.mem_range.mp hb)
    simp [hne]
  simp only [liveCount, Heap.alloc, Heap.free, List.length_append, List.length_singleton,
    List.range_succ, List.countP_append, List.countP_singleton, List.mem_cons_self,
    not_true_eq_false, decide_false, Bool.false_eq_true, ↓reduceIte, Nat.add_zero]
  exact List.countP_congr hsame

end Heap

/-- A global pointer and the heap it points into. -/
structure Owner (δ : Type) where
  pointer : Option Nat
  heap : Heap δ

namespace Owner

variable {δ : Type} {owner : Owner δ}

def null : Owner δ := ⟨none, Heap.empty⟩

/-- The content behind the pointer, also when the block was freed. -/
def deref (owner : Owner δ) : Option δ :=
  owner.pointer.bind fun block => owner.heap.blocks[block]?

/-- The pointer is null or points to a live block. -/
def NullOrLive (owner : Owner δ) : Prop :=
  ∀ block, owner.pointer = some block → owner.heap.Live block

/-- Allocate, configure, and on failure free again and return null; the result
overwrites the pointer. -/
def install (owner : Owner δ) (allocates : Bool) (blank : δ) (made : Option δ) : Owner δ :=
  if allocates then
    match made with
    | some content =>
      let (block, heap) := owner.heap.alloc content
      ⟨some block, heap⟩
    | none =>
      let (block, heap) := owner.heap.alloc blank
      ⟨none, heap.free block⟩
  else ⟨none, owner.heap⟩

/-- Whether an `install` leaves a block behind. -/
def installs (allocates : Bool) (made : Option δ) : Bool := allocates && made.isSome

/-- The pointer is null or live, and the heap behind it was used properly. -/
structure Sound (owner : Owner δ) : Prop where
  nullOrLive : owner.NullOrLive
  disciplined : owner.heap.Disciplined

theorem sound_null : (null : Owner δ).Sound where
  nullOrLive _ hblock := nomatch hblock
  disciplined := Heap.disciplined_empty

theorem Sound.install (h : owner.Sound) (allocates : Bool) (blank : δ) (made : Option δ) :
    (owner.install allocates blank made).Sound := by
  have hnull : ∀ heap : Heap δ, (Owner.mk none heap).NullOrLive :=
    fun _ _ hblock => nomatch hblock
  cases allocates with
  | false => exact ⟨hnull _, h.disciplined⟩
  | true =>
    cases made with
    | none => exact ⟨hnull _, h.disciplined.alloc.free h.disciplined.alloc_live⟩
    | some content =>
      refine ⟨fun block hblock => ?_, h.disciplined.alloc⟩
      obtain rfl : owner.heap.blocks.length = block := Option.some.inj hblock
      exact h.disciplined.alloc_live

theorem install_pointer (allocates : Bool) (blank : δ) (made : Option δ) :
    (owner.install allocates blank made).pointer.isSome = installs allocates made := by
  unfold install installs
  cases allocates <;> cases made <;> rfl

theorem install_liveCount (h : owner.heap.Disciplined) (allocates : Bool) (blank : δ)
    (made : Option δ) :
    (owner.install allocates blank made).heap.liveCount =
      owner.heap.liveCount + (installs allocates made).toNat := by
  unfold install installs
  cases allocates
  · rfl
  · cases made
    · exact Heap.liveCount_alloc_free
    · exact h.liveCount_alloc

/-- After a read of the block: its new content if there is one, and freed when
the read failed, with the pointer left as it is. -/
def afterRead (owner : Owner δ) (block : Nat) (content : Option δ) (good : Bool) : Owner δ :=
  let heap := match content with
    | none => owner.heap
    | some content => owner.heap.store block content
  { owner with heap := if good then heap else heap.free block }

/-- A read keeps the owner sound exactly when it is good. -/
theorem Sound.afterRead_iff (h : owner.Sound) {block : Nat} (hpointer : owner.pointer = some block)
    (content : Option δ) (good : Bool) :
    (owner.afterRead block content good).Sound ↔ good = true := by
  cases good with
  | false =>
    have hdead : ¬(owner.afterRead block content false).Sound := fun hsound =>
      Heap.not_live_free (hsound.nullOrLive block hpointer)
    simp [hdead]
  | true =>
    refine ⟨fun _ => rfl, fun _ => ?_⟩
    cases content with
    | none => exact h
    | some content =>
      exact ⟨fun other hother => Heap.live_store.mpr (h.nullOrLive other hother),
        h.disciplined.store⟩

end Owner
end WeatherStation.Lib
