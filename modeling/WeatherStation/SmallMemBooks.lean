import WeatherStation.SmallMemBlocks

/-! What holds of the blocks between the functions of mem.c: no two free ones meet,
`lfree` is the lowest free one, and `used_mem` counts the used ones.  The searches of
`rt_malloc` walk along them. -/
namespace WeatherStation.SmallMem
open Lib Cell

/-- The offset of the first free block, or the end. -/
def firstFree : ℕ → List Cell → ℕ
  | off, [] => off
  | off, cell :: cells => if cell.used then firstFree (off + cell.size) cells else off

def usedTotal (cells : List Cell) : ℕ := Cell.total (cells.filter Cell.used)

structure Booked (heap : Heap) (cells : List Cell) : Prop extends Laid heap cells where
  lfree : heap.lfree = firstFree 0 cells
  usedMem : heap.usedMem = usedTotal cells

structure Formed (heap : Heap) (cells : List Cell) : Prop extends Booked heap cells where
  apart : cells.IsChain Apart

theorem sub32_of_le {a b : ℕ} (h : b ≤ a) (ha : a < 2 ^ 32) : sub32 a b = a - b := by
  rw [sub32]
  omega

section
variable {heap heap' : Heap} {before after left right cells : List Cell} {cell : Cell}
  {used flag : Bool} {n m k off i : ℕ}

/-! ### The books -/

@[simp] theorem usedTotal_append :
    usedTotal (left ++ right) = usedTotal left + usedTotal right := by
  simp [usedTotal]

@[simp] theorem usedTotal_cons :
    usedTotal (cell :: cells) = (if cell.used then cell.size else 0) + usedTotal cells := by
  rcases cell with ⟨_ | _, size⟩ <;> simp [usedTotal]

@[simp] theorem usedTotal_nil : usedTotal [] = 0 := rfl

theorem usedTotal_le : usedTotal cells ≤ total cells := by
  induction cells with
  | nil => exact Nat.le_refl 0
  | cons cell cells ih =>
    rw [usedTotal_cons, total_cons]
    split <;> omega

theorem firstFree_used (h : ∀ cell ∈ left, cell.used = true) :
    firstFree off (left ++ right) = firstFree (off + total left) right := by
  induction left generalizing off with
  | nil => rfl
  | cons cell left ih =>
    obtain ⟨hcell, hleft⟩ := List.forall_mem_cons.mp h
    rw [List.cons_append, firstFree, if_pos hcell, ih hleft, total_cons, Nat.add_assoc]

/-- What comes after a free block does not matter. -/
theorem firstFree_free (h : ∃ cell ∈ left, cell.used = false) :
    firstFree off (left ++ right) = firstFree off left := by
  induction left generalizing off with
  | nil => simp at h
  | cons cell left ih =>
    rw [List.cons_append, firstFree, firstFree]
    cases hcell : cell.used with
    | false => rfl
    | true => exact ih (by simpa [hcell] using h)

theorem firstFree_lt (hpos : ∀ cell ∈ left, 0 < cell.size) (h : ∃ cell ∈ left, cell.used = false) :
    firstFree off left < off + total left := by
  induction left generalizing off with
  | nil => simp at h
  | cons cell left ih =>
    obtain ⟨hcell, hleft⟩ := List.forall_mem_cons.mp hpos
    rw [firstFree, total_cons]
    cases hused : cell.used with
    | false => simpa using Nat.lt_add_right _ hcell
    | true =>
      have := @ih (off + cell.size) hleft (by simpa [hused] using h)
      simp only [if_true]
      omega

theorem allUsed_or : (∀ cell ∈ left, cell.used = true) ∨ ∃ cell ∈ left, cell.used = false := by
  by_cases h : ∀ cell ∈ left, cell.used = true
  · exact .inl h
  · exact .inr (by simpa using h)

/-- A free block is the lowest one exactly when those before it are in use. -/
theorem firstFree_eq_iff (hpos : ∀ cell ∈ before, 0 < cell.size) :
    firstFree 0 (before ++ ⟨false, n⟩ :: after) = total before ↔
      ∀ cell ∈ before, cell.used = true := by
  rcases @allUsed_or before with hused | hfree
  · simp only [firstFree_used hused]
    simpa [firstFree] using hused
  · have hlt := @firstFree_lt before 0 hpos hfree
    rw [firstFree_free hfree]
    constructor
    · omega
    · obtain ⟨cell, hcell, hnot⟩ := hfree
      intro h
      simp [h cell hcell] at hnot

theorem firstFree_le (hpos : ∀ cell ∈ before, 0 < cell.size) :
    firstFree 0 (before ++ ⟨false, n⟩ :: after) ≤ total before := by
  rcases @allUsed_or before with hused | hfree
  · exact Nat.le_of_eq ((firstFree_eq_iff hpos).mpr hused)
  · have hlt := @firstFree_lt before 0 hpos hfree
    rw [firstFree_free hfree]
    omega

/-- Whether a free block is longer does not matter. -/
theorem firstFree_join : firstFree off (left ++ ⟨false, n⟩ :: after) =
    firstFree off (left ++ ⟨false, m⟩ :: right) := by
  induction left generalizing off with
  | nil => rfl
  | cons cell left ih =>
    simp only [List.cons_append, firstFree]
    rw [ih]

/-! ### The searches -/

theorem Laid.pos (h : Laid heap cells) : ∀ cell ∈ cells, 0 < cell.size := fun cell hcell => by
  have := h.wide cell hcell
  omega

theorem Laid.length_le (h : Laid heap cells) : cells.length < heap.fuel := by
  have hlength : cells.length ≤ total cells := by
    have hpos := h.pos
    clear h
    induction cells with
    | nil => exact Nat.le_refl 0
    | cons cell cells ih =>
      obtain ⟨hcell, hcells⟩ := List.forall_mem_cons.mp hpos
      have := ih hcells
      rw [List.length_cons, total_cons]
      omega
  have := h.fills
  rw [Heap.fuel]
  omega

theorem nextFree_eq {fuel : ℕ} (h : Laid heap (before ++ cells)) (hfuel : cells.length < fuel) :
    heap.nextFree fuel (total before) = firstFree (total before) cells := by
  induction cells generalizing before fuel with
  | nil =>
    have hend : total before = heap.heapEnd := by simpa using h.fills
    cases fuel with
    | zero => rfl
    | succ fuel => rw [Heap.nextFree, if_neg (by simp [hend]), firstFree]
  | cons cell cells ih =>
    rcases cell with ⟨used, n⟩
    have hnext : Laid heap ((before ++ [⟨used, n⟩]) ++ cells) := by simpa using h
    have hend := h.endAt
    have hsize := h.sizeAt
    rw [List.length_cons] at hfuel
    obtain ⟨fuel, rfl⟩ := Nat.exists_eq_add_one.mpr (show 0 < fuel by omega)
    rw [Heap.nextFree, h.headerAt, firstFree]
    cases used with
    | false => simp [node]
    | true =>
      have hrun := ih hnext (show cells.length < fuel by omega)
      simp only [total_append, total_cons, total_nil, Nat.add_zero] at hrun
      rw [if_pos ⟨rfl, by omega⟩]
      exact hrun

/-- `lfree` is the end of the heap or a header that is not in use. -/
theorem Booked.lfree_unused (h : Booked heap cells) :
    heap.lfree = heap.heapEnd ∨ (heap.header heap.lfree).used = false := by
  have hlfree := h.lfree
  cases hfind : cells.find? (!·.used) with
  | none =>
    have hused : ∀ cell ∈ cells, cell.used = true := by simpa using hfind
    left
    rw [hlfree, ← List.append_nil cells, firstFree_used hused, firstFree, Nat.zero_add, h.fills]
  | some cell =>
    obtain ⟨hcell, before, after, rfl, hbefore⟩ := List.find?_eq_some_iff_append.mp hfind
    rcases cell with ⟨used, n⟩
    obtain rfl : used = false := by simpa using hcell
    have hpos : ∀ cell ∈ before, 0 < cell.size := fun cell hmem => h.pos cell (by simp [hmem])
    right
    rw [hlfree, (firstFree_eq_iff hpos).mpr (by simpa using hbefore), h.headerAt]
    rfl

/-- The first block from an offset on with room for the size, before the last place for it. -/
structure Fits (heap : Heap) (size off : ℕ) (cells mid : List Cell) (n : ℕ) (after : List Cell) :
    Prop where
  split : cells = mid ++ ⟨false, n⟩ :: after
  room : size + 12 ≤ n
  place : off + total mid + size < heap.memSizeAligned
  first : ∀ cell ∈ mid, cell.used = false → cell.size < size + 12

variable {size ptr : ℕ}

theorem fits_cons : (∃ mid m after, Fits heap size off (⟨used, n⟩ :: cells) mid m after ∧
      ptr = off + total mid) ↔
    off + size < heap.memSizeAligned ∧
      if used = false ∧ size + 12 ≤ n then ptr = off
      else ∃ mid m after, Fits heap size (off + n) cells mid m after ∧
        ptr = off + n + total mid := by
  constructor
  · rintro ⟨mid, m, after, hfits, rfl⟩
    have hplace := hfits.place
    cases mid with
    | nil =>
      obtain ⟨⟨rfl, rfl⟩, rfl⟩ := List.cons.inj hfits.split
      simpa [hfits.room] using hplace
    | cons cell mid =>
      obtain ⟨rfl, hcells⟩ := List.cons.inj hfits.split
      obtain ⟨hcell, hmid⟩ := List.forall_mem_cons.mp hfits.first
      simp only [total_cons] at hcell hplace ⊢
      have hshort : ¬(used = false ∧ size + 12 ≤ n) := fun h => by
        have := hcell h.1
        omega
      rw [if_neg hshort]
      exact ⟨by omega, mid, m, after, ⟨hcells, hfits.room, by omega, hmid⟩, by omega⟩
  · rintro ⟨hplace, h⟩
    split at h
    case isTrue hfit =>
      obtain ⟨rfl, hroom⟩ := hfit
      exact ⟨[], n, cells, ⟨rfl, hroom, by simpa using hplace, by simp⟩, by simpa using h⟩
    case isFalse hfit =>
      obtain ⟨mid, m, after, hfits, rfl⟩ := h
      refine ⟨⟨used, n⟩ :: mid, m, after, ⟨by rw [hfits.split]; rfl, hfits.room, ?_, ?_⟩, ?_⟩
      · have := hfits.place
        simp only [total_cons]
        omega
      · refine List.forall_mem_cons.mpr ⟨fun hused => ?_, hfits.first⟩
        exact Nat.lt_of_not_le fun hroom => hfit ⟨hused, hroom⟩
      · simp only [total_cons]
        omega

/-- Where some block fits there is a first one. -/
theorem exists_fits (hroom : size + 12 ≤ n) (hplace : off + total before + size < heap.memSizeAligned) :
    ∃ mid m rest, Fits heap size off (before ++ ⟨false, n⟩ :: after) mid m rest := by
  induction before generalizing off with
  | nil => exact ⟨[], n, after, rfl, hroom, hplace, by simp⟩
  | cons cell before ih =>
    rcases cell with ⟨used, k⟩
    simp only [total_cons] at hplace
    by_cases hfit : used = false ∧ size + 12 ≤ k
    · obtain ⟨rfl, hk⟩ := hfit
      exact ⟨[], k, before ++ ⟨false, n⟩ :: after, rfl, hk, by simp only [total_nil]; omega, by simp⟩
    · obtain ⟨mid, m, rest, hfits⟩ := ih (show off + k + total before + size < _ by omega)
      have hrest := fits_cons.mpr ⟨?_, (if_neg hfit).mpr ⟨mid, m, rest, hfits, rfl⟩⟩
      · obtain ⟨mid', m', rest', hfits', -⟩ := hrest
        exact ⟨mid', m', rest', hfits'⟩
      · omega

theorem findFit_iff {fuel : ℕ} (h : Laid heap (before ++ cells))
    (hsize : size ≤ heap.memSizeAligned) (hfuel : cells.length < fuel) :
    heap.findFit size fuel (total before) = some ptr ↔
      ∃ mid n after, Fits heap size (total before) cells mid n after ∧
        ptr = total before + total mid := by
  have hsmall := h.small
  have hfills := h.fills
  simp only [Heap.heapEnd, sizeofStructMem] at hsmall hfills
  have hsub : sub32 heap.memSizeAligned size = heap.memSizeAligned - size :=
    sub32_of_le hsize (by omega)
  obtain ⟨fuel, rfl⟩ := Nat.exists_eq_add_one.mpr (show 0 < fuel by omega)
  induction cells generalizing before fuel with
  | nil =>
    have hend : ¬total before < heap.memSizeAligned - size := by
      rw [List.append_nil] at hfills
      omega
    rw [Heap.findFit, hsub, if_neg hend]
    simp only [reduceCtorEq, false_iff, not_exists]
    rintro mid n after ⟨hfits, -⟩
    simpa using hfits.split
  | cons cell cells ih =>
    rcases cell with ⟨used, n⟩
    have hnext : Laid heap ((before ++ [⟨used, n⟩]) ++ cells) := by simpa using h
    have hend := h.endAt
    simp only [Heap.heapEnd, sizeofStructMem] at hend
    have hn := h.sizeAt
    rw [List.length_cons] at hfuel
    obtain ⟨fuel, rfl⟩ := Nat.exists_eq_add_one.mpr (show 0 < fuel by omega)
    have hroom : sub32 (total before + n) (total before + sizeofStructMem) = n - 12 := by
      rw [sub32_of_le (by simp only [sizeofStructMem]; omega) (by omega)]
      simp only [sizeofStructMem]
      omega
    have hrun := ih hnext hnext.fills fuel (show cells.length < fuel + 1 by omega)
    simp only [total_append, total_cons, total_nil, Nat.add_zero] at hrun
    rw [Heap.findFit, hsub, h.headerAt, fits_cons]
    simp only [node, hroom]
    by_cases hplace : total before + size < heap.memSizeAligned
    · rw [if_pos (by omega)]
      simp only [hplace, true_and]
      by_cases hfit : used = false ∧ size + 12 ≤ n
      · rw [if_pos hfit, if_pos (by simpa [hfit.1] using (show size ≤ n - 12 by omega))]
        simp [eq_comm]
      · rw [if_neg hfit, if_neg fun h => hfit ⟨by simpa using h.1, by omega⟩]
        exact hrun
    · rw [if_neg (by omega)]
      simp [hplace]

/-! ### Neighbours -/

theorem apart_used : (before ++ ⟨true, n⟩ :: after).IsChain Apart ↔
    before.IsChain Apart ∧ after.IsChain Apart := by
  rw [List.isChain_append, List.isChain_cons]
  simp [Apart]

theorem apart_free : (before ++ ⟨false, n⟩ :: after).IsChain Apart ↔
    before.IsChain Apart ∧ after.IsChain Apart ∧
      (∀ cell ∈ before.getLast?, cell.used = true) ∧ ∀ cell ∈ after.head?, cell.used = true := by
  rw [List.isChain_append, List.isChain_cons]
  simp only [List.head?_cons, Option.mem_some_iff, forall_eq', Apart, Bool.false_eq_true, or_false,
    false_or]
  tauto

/-! ### The heap at first -/

theorem clear_rest : heap.clear = { heap with mem := heap.clear.mem } := by
  simp only [Heap.clear, Heap.setHeader, Heap.setMagic, Heap.setUsed, Heap.setNext, Heap.setPrev,
    Heap.set]

theorem clear_heapPtr : heap.clear.heapPtr = heap.heapPtr := by rw [clear_rest]

theorem clear_memSizeAligned : heap.clear.memSizeAligned = heap.memSizeAligned := by rw [clear_rest]

theorem clear_formed (hsize : 16 ≤ heap.heapEnd ∧ heap.heapEnd % 4 = 0)
    (hsmall : heap.heapEnd < 2 ^ 32) (hlfree : heap.lfree = 0) (hused : heap.usedMem = 0) :
    Formed heap.clear [⟨false, heap.heapEnd⟩] := by
  have hheader : heap.clear.header 0 = node false heap.heapEnd 0 := by
    have hfirst : ((heap.setHeader 0 heap.heapEnd 0).setHeader heap.heapEnd heap.heapEnd
        heap.heapEnd).header 0 = (heap.setHeader 0 heap.heapEnd 0).header 0 :=
      header_congr fun i _ hi => setHeader_outside (by omega)
    rw [Heap.clear, Heap.setUsed, header_set_apart (by omega), hfirst,
      header_setHeader hsmall (by omega)]
    rfl
  rw [clear_rest] at hheader ⊢
  generalize heap.clear.mem = mem at hheader ⊢
  have hlaid : Laid { heap with mem := mem } [⟨false, heap.heapEnd⟩] :=
    ⟨by simp [Heap.heapEnd], hsmall, by simpa using hsize, by simpa using hheader, trivial⟩
  exact ⟨⟨hlaid, by simp [hlfree, firstFree], by simp [hused]⟩, List.isChain_singleton _⟩

end
end WeatherStation.SmallMem
