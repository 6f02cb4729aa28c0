import Mathlib.Data.List.Chain
import WeatherStation.Lib.Tiling
import WeatherStation.SmallMem

/-! What mem.c does to its headers, as changes of a list of blocks.  There are three
of them: a block changes its flag, a block is cut in two, two blocks become one. -/
namespace WeatherStation.SmallMem
open Lib Cell ByteMemory

section
variable {heap heap' : Heap} {addr n value ptr ptr2 next prev mem i : ℕ} {used : Bool}

/-! ### Headers in the memory -/

theorem header_congr (h : ∀ i, ptr ≤ i → i < ptr + 12 → heap'.mem i = heap.mem i) :
    heap'.header ptr = heap.header ptr := by
  simp only [Heap.header]
  congr 1
  · exact load_congr fun i _ _ => h i (by omega) (by omega)
  · rw [load_congr fun i _ _ => h i (by omega) (by omega)]
  · exact load_congr fun i _ _ => h i (by omega) (by omega)
  · exact load_congr fun i _ _ => h i (by omega) (by omega)

theorem set_outside (h : i < addr ∨ addr + n ≤ i) : (heap.set addr n value).mem i = heap.mem i := by
  show store heap.mem addr n value i = heap.mem i
  rw [store, blit_outside h]

theorem header_set_apart (h : ptr + 12 ≤ addr ∨ addr + n ≤ ptr) :
    (heap.set addr n value).header ptr = heap.header ptr :=
  header_congr fun _ _ _ => set_outside (by omega)

theorem header_setMagic : (heap.setMagic ptr).header ptr =
    { heap.header ptr with magic := heapMagic } := by
  simp only [Heap.setMagic, Heap.set, Heap.header]
  rw [load_store (by decide), load_store_apart (by omega), load_store_apart (by omega),
    load_store_apart (by omega)]

theorem header_setUsed : (heap.setUsed ptr used).header ptr = { heap.header ptr with used } := by
  simp only [Heap.setUsed, Heap.set, Heap.header]
  rw [load_store (by cases used <;> decide), load_store_apart (by omega),
    load_store_apart (by omega), load_store_apart (by omega)]
  cases used <;> rfl

theorem header_setNext (h : next < 2 ^ 32) :
    (heap.setNext ptr next).header ptr = { heap.header ptr with next } := by
  simp only [Heap.setNext, Heap.set, Heap.header]
  rw [load_store (by simpa using h), load_store_apart (by omega), load_store_apart (by omega),
    load_store_apart (by omega)]

theorem header_setPrev (h : prev < 2 ^ 32) :
    (heap.setPrev ptr prev).header ptr = { heap.header ptr with prev } := by
  simp only [Heap.setPrev, Heap.set, Heap.header]
  rw [load_store (by simpa using h), load_store_apart (by omega), load_store_apart (by omega),
    load_store_apart (by omega)]

theorem header_setHeader (hnext : next < 2 ^ 32) (hprev : prev < 2 ^ 32) :
    (heap.setHeader ptr next prev).header ptr = ⟨heapMagic, false, next, prev⟩ := by
  rw [Heap.setHeader, header_setPrev hprev, header_setNext hnext, header_setUsed, header_setMagic]

theorem setHeader_outside (h : i < ptr ∨ ptr + 12 ≤ i) :
    (heap.setHeader ptr next prev).mem i = heap.mem i := by
  rw [Heap.setHeader, Heap.setPrev, set_outside (by omega), Heap.setNext, set_outside (by omega),
    Heap.setUsed, set_outside (by omega), Heap.setMagic, set_outside (by omega)]

theorem next_lt : (heap.header ptr).next < 2 ^ 32 := by
  have hload : load heap.mem (ptr + 4) 4 < 256 ^ 4 := load_lt
  exact hload

/-- The heap with a new header at `ptr2`, between the ones at `mem` and `next`. -/
structure Splits (heap heap' : Heap) (mem ptr2 next : ℕ) : Prop where
  rest : heap' = { heap with mem := heap'.mem }
  atMem : heap'.header mem = { heap.header mem with next := ptr2 }
  atPtr2 : heap'.header ptr2 = ⟨heapMagic, false, next, mem⟩
  atNext : next ≠ heap.heapEnd → heap'.header next = { heap.header next with prev := ptr2 }
  kept : ∀ i, (i < mem ∨ mem + 12 ≤ i) → (i < ptr2 ∨ ptr2 + 12 ≤ i) →
    (i < next ∨ next + 12 ≤ i) → heap'.mem i = heap.mem i

theorem insertAfter_splits (hnext : (heap.header mem).next = next) (hmem : mem + 12 ≤ ptr2)
    (hptr2 : ptr2 + 12 ≤ next) : Splits heap (heap.insertAfter mem ptr2) mem ptr2 next := by
  have hlt : next < 2 ^ 32 := hnext ▸ next_lt
  -- the heap before the block after it learns of the new one
  set heap1 := (heap.setHeader ptr2 next mem).setNext mem ptr2 with hheap1
  have hmem1 : heap1.header mem = { heap.header mem with next := ptr2 } := by
    rw [hheap1, header_setNext (by omega)]
    rw [show (heap.setHeader ptr2 next mem).header mem = heap.header mem from
      header_congr fun i _ _ => setHeader_outside (by omega)]
  have hptr1 : heap1.header ptr2 = ⟨heapMagic, false, next, mem⟩ := by
    rw [hheap1, Heap.setNext, header_set_apart (by omega), header_setHeader hlt (by omega)]
  have hkept1 (i : ℕ) (hi : i < mem ∨ mem + 12 ≤ i) (hi2 : i < ptr2 ∨ ptr2 + 12 ≤ i) :
      heap1.mem i = heap.mem i := by
    rw [hheap1, Heap.setNext, set_outside (by omega), setHeader_outside hi2]
  have hnext1 : heap1.header next = heap.header next :=
    header_congr fun i _ _ => hkept1 i (by omega) (by omega)
  have heq : heap.insertAfter mem ptr2 =
      if next ≠ heap.heapEnd then heap1.setPrev next ptr2 else heap1 := by
    simp only [Heap.insertAfter, hnext]
    rfl
  rw [heq]
  by_cases hend : next = heap.heapEnd
  · rw [if_neg (not_not_intro hend)]
    exact ⟨rfl, hmem1, hptr1, fun h => absurd hend h, fun i hi hi2 _ => hkept1 i hi hi2⟩
  · rw [if_pos hend]
    refine ⟨rfl, ?_, ?_, fun _ => ?_, fun i hi hi2 hi3 => ?_⟩
    · rw [Heap.setPrev, header_set_apart (by omega), hmem1]
    · rw [Heap.setPrev, header_set_apart (by omega), hptr1]
    · rw [header_setPrev (by omega), hnext1]
    · rw [Heap.setPrev, set_outside (by omega), hkept1 i hi hi2]

/-- The heap in which the header at `b` is forgotten, between the ones at `a` and `next`. -/
structure Joins (heap heap' : Heap) (a b next : ℕ) : Prop where
  rest : heap' = { heap with mem := heap'.mem, lfree := if heap.lfree = b then a else heap.lfree }
  atA : heap'.header a = { heap.header a with next }
  atNext : heap'.header next = { heap.header next with prev := a }
  kept : ∀ i, (i < a ∨ a + 12 ≤ i) → (i < next ∨ next + 12 ≤ i) → heap'.mem i = heap.mem i

theorem combine_joins {a b : ℕ} (hnext : (heap.header b).next = next) (hb : a + 12 ≤ b)
    (hlt : b + 12 ≤ next) : Joins heap (heap.combine a b) a b next := by
  have hnext32 : next < 2 ^ 32 := hnext ▸ next_lt
  set heap0 := if heap.lfree = b then { heap with lfree := a } else heap with hheap0
  have hmem0 : heap0.mem = heap.mem := by
    rw [hheap0]
    split <;> rfl
  have hheader0 (i : ℕ) : heap0.header i = heap.header i := header_congr fun i _ _ => by rw [hmem0]
  set heap1 := heap0.setNext a next with hheap1
  have hb1 : (heap1.header b).next = next := by
    rw [hheap1, Heap.setNext, header_set_apart (by omega), hheader0, hnext]
  have heq : heap.combine a b = heap1.setPrev next a := by
    have hdef : heap.combine a b =
        (heap0.setNext a (heap0.header b).next).setPrev
          ((heap0.setNext a (heap0.header b).next).header b).next a := rfl
    rw [hdef, hheader0, hnext, ← hheap1, hb1]
  rw [heq]
  refine ⟨?_, ?_, ?_, fun i hi hi2 => ?_⟩
  · rw [hheap1, hheap0]
    split <;> rfl
  · rw [Heap.setPrev, header_set_apart (by omega), hheap1, header_setNext hnext32, hheader0]
  · rw [header_setPrev (by omega), hheap1, Heap.setNext, header_set_apart (by omega), hheader0]
  · rw [Heap.setPrev, set_outside (by omega), hheap1, Heap.setNext, set_outside (by omega), hmem0]

end

/-! ### Blocks -/

def node (used : Bool) (next prev : ℕ) : HeapMem := ⟨heapMagic, used, next, prev⟩

/-- The headers cut the heap into these blocks. -/
structure Laid (heap : Heap) (cells : List Cell) : Prop where
  fills : total cells = heap.heapEnd
  small : heap.heapEnd < 2 ^ 32
  sizes : ∀ cell ∈ cells, 16 ≤ cell.size ∧ cell.size % 4 = 0
  links : Linked node heap.header 0 0 cells

section
variable {heap heap' : Heap} {before after cells : List Cell} {used flag : Bool} {n m k i : ℕ}

theorem Laid.wide (h : Laid heap cells) : ∀ cell ∈ cells, 12 ≤ cell.size := fun cell hcell => by
  have := (h.sizes cell hcell).1
  omega

theorem Laid.wideAfter (h : Laid heap (before ++ ⟨used, n⟩ :: after)) :
    ∀ cell ∈ after, 12 ≤ cell.size := fun cell hcell => h.wide cell (by simp [hcell])

theorem Laid.sizeAt (h : Laid heap (before ++ ⟨used, n⟩ :: after)) : 16 ≤ n ∧ n % 4 = 0 :=
  h.sizes ⟨used, n⟩ (by simp)

theorem total_mod (h : Laid heap (before ++ cells)) : total before % 4 = 0 := by
  have hsizes : ∀ cell ∈ before, cell.size % 4 = 0 := fun cell hcell =>
    (h.sizes cell (List.mem_append_left _ hcell)).2
  clear h
  induction before with
  | nil => rfl
  | cons cell before ih =>
    obtain ⟨hcell, hbefore⟩ := List.forall_mem_cons.mp hsizes
    have := ih hbefore
    rw [total_cons]
    omega

theorem Laid.endAt (h : Laid heap (before ++ ⟨used, n⟩ :: after)) :
    total before + n + total after = heap.heapEnd := by
  rw [← h.fills, total_append, total_cons, Nat.add_assoc]

theorem Laid.headerAt (h : Laid heap (before ++ ⟨used, n⟩ :: after)) :
    heap.header (total before) = node used (total before + n) (last 0 0 before) := by
  have hlinked := (linked_append.mp h.links).2.1
  rwa [Nat.zero_add] at hlinked

theorem Laid.restAt (h : Laid heap (before ++ ⟨used, n⟩ :: after)) :
    Linked node heap.header (total before + n) (total before) after := by
  have hlinked := (linked_append.mp h.links).2.2
  rwa [Nat.zero_add] at hlinked

theorem Laid.congr (h : Laid heap cells) (hmem : heap'.mem = heap.mem)
    (hend : heap'.heapEnd = heap.heapEnd) : Laid heap' cells where
  fills := h.fills.trans hend.symm
  small := hend ▸ h.small
  sizes := h.sizes
  links := h.links.congr h.wide fun _ _ _ => header_congr fun _ _ _ => by rw [hmem]

/-- An edit that leaves the blocks before some of them alone. -/
theorem Laid.edit {old new : List Cell} (h : Laid heap (before ++ old ++ after))
    (hend : heap'.heapEnd = heap.heapEnd) (htotal : total new = total old)
    (hsize : ∀ cell ∈ new, 16 ≤ cell.size ∧ cell.size % 4 = 0)
    (hbefore : ∀ i < total before, heap'.mem i = heap.mem i)
    (hnew : Linked node heap'.header (total before) (last 0 0 before) (new ++ after)) :
    Laid heap' (before ++ new ++ after) where
  fills := by
    have hfills := h.fills
    simp only [total_append, hend] at hfills ⊢
    omega
  small := hend ▸ h.small
  sizes cell hcell := by
    simp only [List.mem_append] at hcell
    rcases hcell with (hcell | hcell) | hcell
    · exact h.sizes cell (List.mem_append_left _ (List.mem_append_left _ hcell))
    · exact hsize cell hcell
    · exact h.sizes cell (List.mem_append_right _ hcell)
  links := by
    rw [List.append_assoc] at h ⊢
    have hwide : ∀ cell ∈ before, 12 ≤ cell.size := fun cell hcell =>
      h.wide cell (List.mem_append_left _ hcell)
    refine linked_append.mpr ⟨?_, by rwa [Nat.zero_add]⟩
    refine (linked_append.mp h.links).1.congr hwide fun i _ hi => ?_
    exact header_congr fun j _ hj => hbefore j (by omega)

/-- A block changes its flag or what is in it. -/
theorem Laid.mark (h : Laid heap (before ++ ⟨used, n⟩ :: after))
    (hend : heap'.heapEnd = heap.heapEnd)
    (hheader : heap'.header (total before) = node flag (total before + n) (last 0 0 before))
    (hkept : ∀ i, i < total before ∨ total before + n ≤ i → heap'.mem i = heap.mem i) :
    Laid heap' (before ++ ⟨flag, n⟩ :: after) := by
  have hold : Laid heap (before ++ [⟨used, n⟩] ++ after) := by simpa using h
  have hsize := h.sizeAt
  suffices hnew : Laid heap' (before ++ [⟨flag, n⟩] ++ after) by simpa using hnew
  refine hold.edit hend (by simp) (by simpa using hsize) (fun i hi => hkept i (by omega)) ?_
  refine ⟨hheader, ?_⟩
  show Linked node _ (total before + n) (total before) after
  refine h.restAt.congr h.wideAfter fun i hi _ => header_congr fun j hj _ => ?_
  exact hkept j (by omega)

/-- A block is cut in two, the second of them free. -/
theorem Splits.laid (hs : Splits heap heap' (total before) (total before + k) (total before + n))
    (h : Laid heap (before ++ ⟨used, n⟩ :: after)) (hk : 16 ≤ k ∧ k % 4 = 0) (hn : k + 16 ≤ n) :
    Laid heap' (before ++ ⟨used, k⟩ :: ⟨false, n - k⟩ :: after) := by
  have hold : Laid heap (before ++ [⟨used, n⟩] ++ after) := by simpa using h
  have hsize := h.sizeAt
  have hfills := h.endAt
  have hend : heap'.heapEnd = heap.heapEnd := by
    rw [hs.rest]
    rfl
  suffices hnew : Laid heap' (before ++ [⟨used, k⟩, ⟨false, n - k⟩] ++ after) by simpa using hnew
  refine hold.edit hend ?_ ?_ (fun i hi => ?_) ⟨?_, ?_, ?_⟩
  · simp only [total_cons, total_nil]
    omega
  · simp
    omega
  · exact hs.kept i (by omega) (by omega) (by omega)
  · rw [hs.atMem, h.headerAt]
    rfl
  · show heap'.header (total before + k) = node false (total before + k + (n - k)) (total before)
    rw [hs.atPtr2, show total before + k + (n - k) = total before + n by omega]
    rfl
  · show Linked node _ (total before + k + (n - k)) (total before + k) after
    rw [show total before + k + (n - k) = total before + n by omega]
    refine h.restAt.relink h.wideAfter (fun hafter used next hold => ?_) fun i hi _ => ?_
    · have htail : 0 < total after := by
        cases after with
        | nil => exact absurd rfl hafter
        | cons cell after =>
          have := h.wideAfter cell (by simp)
          rw [total_cons]
          omega
      rw [hs.atNext (by omega), hold]
      rfl
    · exact header_congr fun j hj _ => hs.kept j (by omega) (by omega) (by omega)

/-- Two blocks become one. -/
theorem Joins.laid (hj : Joins heap heap' (total before) (total before + n) (total before + n + m))
    (h : Laid heap (before ++ ⟨used, n⟩ :: ⟨flag, m⟩ :: after)) :
    Laid heap' (before ++ ⟨used, n + m⟩ :: after) := by
  have hold : Laid heap (before ++ [⟨used, n⟩, ⟨flag, m⟩] ++ after) := by simpa using h
  have hnext : Laid heap ((before ++ [⟨used, n⟩]) ++ ⟨flag, m⟩ :: after) := by simpa using h
  have hsize := h.sizeAt
  have hsize2 := hnext.sizeAt
  have hrest := hnext.restAt
  simp only [total_append, total_cons, total_nil, Nat.add_zero] at hrest
  have hend : heap'.heapEnd = heap.heapEnd := by
    rw [hj.rest]
    rfl
  suffices hnew : Laid heap' (before ++ [⟨used, n + m⟩] ++ after) by simpa using hnew
  refine hold.edit hend (by simp) ?_ (fun i hi => hj.kept i (by omega) (by omega)) ⟨?_, ?_⟩
  · simp
    omega
  · rw [hj.atA, h.headerAt]
    simp [node, Nat.add_assoc]
  · show Linked node _ (total before + (n + m)) (total before) after
    rw [← Nat.add_assoc]
    refine hrest.relink hnext.wideAfter (fun _ used next hold => ?_) fun i hi _ => ?_
    · rw [hj.atNext, hold]
      rfl
    · exact header_congr fun j hj' _ => hj.kept j (by omega) (by omega)

end
end WeatherStation.SmallMem
