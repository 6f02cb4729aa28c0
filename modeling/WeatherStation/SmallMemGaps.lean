import Mathlib.Algebra.BigOperators.Group.List.Basic
import Mathlib.Order.Bounds.Basic
import WeatherStation.SmallMemRuns

/-! When `rt_malloc` finds room, and where.  Because neighbouring free blocks are always
joined, it fails only if no stretch between the blocks in use is long enough, or if the
only one would end with the heap; because the search begins at `lfree` and goes upwards,
it takes the lowest such stretch. -/
namespace WeatherStation.SmallMem
open Lib Cell ByteMemory Ledger

/-- The offset of the header of a block. -/
def Heap.start (heap : Heap) (block : Block) : ℕ := block.addr - sizeofStructMem - heap.heapPtr

/-- Where a block ends, as its header says. -/
def Heap.stop (heap : Heap) (block : Block) : ℕ := (heap.header (heap.start block)).next

/-- Room for a header and its data that no block takes up. -/
def Gap (heap : Heap) (blocks : List Block) (size lo : ℕ) : Prop :=
  lo + size + sizeofStructMem ≤ heap.heapEnd ∧
    ∀ block ∈ blocks, lo + size + sizeofStructMem ≤ heap.start block ∨ heap.stop block ≤ lo

/-- A gap that the search sees: it stops one place before the last. -/
def SeenGap (heap : Heap) (blocks : List Block) (size lo : ℕ) : Prop :=
  Gap heap blocks size lo ∧ lo + size + sizeofStructMem ≠ heap.heapEnd

section
variable {heap heap' : Heap} {cells : List Cell} {blocks : List Block} {size lo p : ℕ}

theorem Sound.bounds {block : Block} (h : Sound heap cells blocks) (hblock : block ∈ blocks) :
    ∃ before n after, cells = before ++ ⟨true, n⟩ :: after ∧
      block.addr = heap.heapPtr + total before + 12 ∧
      heap.start block = total before ∧ heap.stop block = total before + n := by
  obtain ⟨before, n, after, rfl, haddr, -⟩ := h.find hblock
  have hstart : heap.start block = total before := by
    rw [Heap.start, haddr, sizeofStructMem]
    omega
  refine ⟨before, n, after, rfl, haddr, hstart, ?_⟩
  rw [Heap.stop, hstart, h.formed.headerAt]
  rfl

/-- A used block of the heap belongs to someone. -/
theorem Sound.owner {before after : List Cell} {n : ℕ}
    (h : Sound heap (before ++ ⟨true, n⟩ :: after) blocks) :
    ∃ block ∈ blocks, heap.start block = total before ∧ heap.stop block = total before + n := by
  obtain ⟨block, hblock, haddr⟩ := h.keeps.owned (heap.heapPtr + total before + 12, n - 12) (by simp)
  have hstart : heap.start block = total before := by
    rw [Heap.start, haddr, sizeofStructMem]
    omega
  refine ⟨block, hblock, hstart, ?_⟩
  rw [Heap.stop, hstart, h.formed.headerAt]
  rfl

theorem gap_iff (h : Sound heap cells blocks) : Gap heap blocks size lo ↔
    lo + size + 12 ≤ heap.heapEnd ∧ ∃ before n after, cells = before ++ ⟨false, n⟩ :: after ∧
      total before ≤ lo ∧ lo + size + 12 ≤ total before + n := by
  refine and_congr_right fun hend => ⟨fun hclear => ?_, ?_⟩
  · have hfills := h.formed.fills
    simp only [sizeofStructMem] at hend
    refine gap_in_cell h.formed.apart h.formed.pos (show 0 < size + 12 by omega) (by omega) ?_
    rintro before n after rfl
    obtain ⟨block, hblock, hstart, hstop⟩ := h.owner
    have := hclear block hblock
    rw [hstart, hstop] at this
    exact this
  · rintro ⟨before, n, after, hcells, hle, hlt⟩ block hblock
    obtain ⟨before', m, after', hcells', -, hstart, hstop⟩ := h.bounds hblock
    rw [hstart, hstop, sizeofStructMem]
    rcases compare_splits (hcells.symm.trans hcells') with ⟨-, hsame⟩ | ⟨mid, rfl⟩ | ⟨mid, rfl⟩
    · simp at hsame
    · simp only [total_append, total_cons]
      omega
    · simp only [total_append, total_cons] at hle
      omega

/-- The first block with room begins the lowest gap. -/
theorem Fits.isLeast {before after : List Cell} {n : ℕ} (h : Sound heap cells blocks)
    (hfits : Fits heap size 0 cells before n after) :
    IsLeast {lo | SeenGap heap blocks size lo} (total before) := by
  have hplace := hfits.place
  have hroom := hfits.room
  refine ⟨⟨(gap_iff h).mpr ⟨?_, before, n, after, hfits.split, Nat.le_refl _, by omega⟩, ?_⟩,
    fun lo hlo => ?_⟩
  · simp only [Heap.heapEnd, sizeofStructMem]
    omega
  · simp only [Heap.heapEnd, sizeofStructMem]
    omega
  · obtain ⟨-, before', m, after', hcells, hle, hlt⟩ := (gap_iff h).mp hlo.1
    rcases compare_splits (hfits.split.symm.trans hcells) with ⟨rfl, -⟩ | ⟨mid, rfl⟩ | ⟨mid, rfl⟩
    · exact hle
    · rw [total_append] at hle
      omega
    · have := hfits.first ⟨false, m⟩ (by simp) rfl
      simp only at this
      omega

/-- Where there is a gap before the end there is a block with room. -/
theorem SeenGap.fits (h : Sound heap cells blocks) (hgap : SeenGap heap blocks size lo) :
    ∃ mid n after, Fits heap size 0 cells mid n after := by
  obtain ⟨hend, before, n, after, rfl, hle, hlt⟩ := (gap_iff h).mp hgap.1
  have hlast := hgap.2
  simp only [Heap.heapEnd, sizeofStructMem] at hend hlast
  exact exists_fits (by omega) (by omega)

/-- `rt_malloc` takes the lowest gap before the end of the heap, and fails only if all
gaps end there. -/
theorem malloc_gap (h : Sound heap cells blocks) (hsize : size ≠ 0) :
    ((rtMalloc heap size).map Prod.fst = some (some p) ↔
      ∃ lo, IsLeast {lo | SeenGap heap blocks (need size) lo} lo ∧
        p = heap.heapPtr + lo + sizeofStructMem) ∧
    ((rtMalloc heap size).map Prod.fst = some none ↔
      ∀ lo, Gap heap blocks (need size) lo → lo + need size + sizeofStructMem = heap.heapEnd) := by
  obtain ⟨reply, hreply, hfits⟩ :=
    rtMalloc_answer h.arena.aligned h.formed h.arena.room hsize
  rw [hreply, Option.some_inj, Option.some_inj, hfits p]
  refine ⟨⟨?_, ?_⟩, ?_⟩
  · rintro ⟨mid, n, after, hmid, rfl⟩
    exact ⟨total mid, hmid.isLeast h, rfl⟩
  · rintro ⟨lo, hlo, rfl⟩
    obtain ⟨mid, n, after, hmid⟩ := SeenGap.fits h hlo.1
    exact ⟨mid, n, after, hmid, by rw [hlo.unique (hmid.isLeast h)]⟩
  · constructor
    · intro hnone lo hgap
      by_contra hseen
      obtain ⟨mid, n, after, hmid⟩ := SeenGap.fits h ⟨hgap, hseen⟩
      have hsome := (hfits _).mpr ⟨mid, n, after, hmid, rfl⟩
      rw [hnone] at hsome
      exact Option.some_ne_none _ hsome.symm
    · intro hall
      refine Option.eq_none_iff_forall_ne_some.mpr fun p hp => ?_
      obtain ⟨mid, n, after, hmid, -⟩ := (hfits p).mp hp
      obtain ⟨hgap, hseen⟩ := (hmid.isLeast h).1
      exact hseen (hall _ hgap)

/-! ### What `used_mem` counts -/

theorem places_sum (hsizes : ∀ cell ∈ cells, 12 ≤ cell.size) {base off : ℕ} :
    ((places base off cells).map fun place => place.2 + 12).sum = usedTotal cells := by
  induction cells generalizing off with
  | nil => rfl
  | cons cell cells ih =>
    rcases cell with ⟨used, n⟩
    obtain ⟨hcell, hcells⟩ := List.forall_mem_cons.mp hsizes
    simp only at hcell
    cases used with
    | false => simp [ih hcells]
    | true =>
      simp only [places_cons_true, List.map_cons, List.sum_cons, ih hcells, usedTotal_cons, if_true]
      omega

/-- `used_mem` is what the blocks that are given out take up, headers included. -/
theorem Sound.usedMem (h : Sound heap cells blocks) :
    heap.usedMem = (blocks.map fun block => heap.stop block - heap.start block).sum := by
  let extent (addr : ℕ) : ℕ := heap.stop ⟨addr, []⟩ - heap.start ⟨addr, []⟩
  have hblocks : (blocks.map fun block => heap.stop block - heap.start block) =
      (blocks.map Block.addr).map extent := by
    rw [List.map_map]
    rfl
  have hperm : (blocks.map Block.addr).Perm ((places heap.heapPtr 0 cells).map Prod.fst) := by
    refine (List.perm_ext_iff_of_nodup h.keeps.once (places_nodup h.formed.wide)).mpr fun addr => ?_
    simp only [List.mem_map]
    constructor
    · rintro ⟨block, hblock, rfl⟩
      obtain ⟨place, hplace, hholds⟩ := h.keeps.held block hblock
      exact ⟨place, hplace, hholds.addr.symm⟩
    · rintro ⟨place, hplace, rfl⟩
      exact h.keeps.owned place hplace
  have hextent : ∀ place ∈ places heap.heapPtr 0 cells, extent place.1 = place.2 + 12 := by
    intro place hplace
    obtain ⟨span, hspan, rfl⟩ := List.mem_map.mp hplace
    obtain ⟨before, after, rfl, hoff⟩ := mem_live_iff.mp hspan
    have hsize := h.formed.sizeAt
    have hstart : heap.start ⟨heap.heapPtr + span.1 + 12, []⟩ = total before := by
      simp only [Heap.start, sizeofStructMem]
      omega
    simp only [extent, Heap.stop, hstart, h.formed.headerAt, node]
    omega
  rw [h.formed.usedMem, hblocks, (hperm.map extent).sum_eq, List.map_map,
    ← @places_sum cells h.formed.wide heap.heapPtr 0]
  exact congrArg List.sum (List.map_congr_left fun place hplace => (hextent place hplace).symm)

/-! ### Freeing -/

/-- The answers of `rt_malloc` depend on the blocks only. -/
theorem rtMalloc_congr (h : Formed heap cells) (h' : Formed heap' cells) (hkin : Kin heap heap')
    (haligned : heap.heapPtr % 4 = 0) (hroom : 12 ≤ heap.memSizeAligned) (size : ℕ) :
    (rtMalloc heap' size).map Prod.fst = (rtMalloc heap size).map Prod.fst := by
  by_cases hsize : size = 0
  · subst hsize
    rw [rtMalloc_zero, rtMalloc_zero, Option.map_some, Option.map_some]
  · have hroom' : 12 ≤ heap'.memSizeAligned := hkin.memSizeAligned ▸ hroom
    have hfits {mid after : List Cell} {n : ℕ} : Fits heap' (need size) 0 cells mid n after ↔
        Fits heap (need size) 0 cells mid n after :=
      ⟨fun f => ⟨f.split, f.room, hkin.memSizeAligned ▸ f.place, f.first⟩,
        fun f => ⟨f.split, f.room, hkin.memSizeAligned ▸ f.place, f.first⟩⟩
    obtain ⟨reply, hreply, hiff⟩ := rtMalloc_answer haligned h hroom hsize
    obtain ⟨reply', hreply', hiff'⟩ :=
      rtMalloc_answer (hkin.heapPtr ▸ haligned) h' hroom' hsize
    rw [hreply, hreply', Option.some_inj]
    refine Option.ext fun p => ?_
    rw [hiff, hiff', hkin.heapPtr]
    simp only [hfits]

theorem joined_nil {joined right : List Cell} (hhead : ∀ cell ∈ (joined ++ right).head?, cell.used = true)
    (hfree : ∀ cell ∈ joined, cell.used = false) : joined = [] := by
  cases joined with
  | nil => rfl
  | cons cell joined => simp [hfree cell (by simp)] at hhead

theorem joined_nil_last {left joined : List Cell}
    (hlast : ∀ cell ∈ (left ++ joined).getLast?, cell.used = true)
    (hfree : ∀ cell ∈ joined, cell.used = false) : joined = [] := by
  rcases List.eq_nil_or_concat joined with rfl | ⟨init, cell, rfl⟩
  · rfl
  · simp [hfree cell (by simp)] at hlast

/-- Freeing a block that has just been given out leaves the blocks as they were. -/
theorem free_malloc {heap1 : Heap} (h : Sound heap cells blocks)
    (hmalloc : rtMalloc heap size = some (some p, heap1)) :
    ∃ heap', rtFree heap1 (some p) = some heap' ∧ Kin heap heap' ∧ Formed heap' cells := by
  have hsize : size ≠ 0 := by
    rintro rfl
    simp [rtMalloc_zero] at hmalloc
  rcases rtMalloc_cases h.arena.aligned h.formed h.arena.room hsize with
    ⟨before, n, after, hfits, hrun⟩ | ⟨-, hrun⟩
  case inr => simp [hrun] at hmalloc
  rw [hrun] at hmalloc
  obtain ⟨rfl, rfl⟩ : heap.heapPtr + total before + 12 = p ∧ heap.take (total before) (need size) =
      heap1 := by simpa [sizeofStructMem] using hmalloc
  have hc := hfits.change h.formed
  have hcells := hfits.split
  have htaken := (taken_leftover hfits.room).1
  have hapart := h.formed.apart
  rw [hcells] at hapart
  obtain ⟨-, -, hlast, hhead⟩ := apart_free.mp hapart
  have hformed := hc.formed
  rw [List.append_assoc, List.cons_append] at hformed
  have haligned : (heap.take (total before) (need size)).heapPtr % 4 = 0 := by
    rw [hc.heapPtr]
    exact h.arena.aligned
  obtain ⟨heap', left, joined, joined', right, hleft, hright, hfree, hrunFree, hc'⟩ :=
    rtFree_change haligned hformed
  have hfree' : (∀ cell ∈ joined, cell.used = false) ∧ ∀ cell ∈ joined', cell.used = false := by
    simpa [or_imp, forall_and] using hfree
  -- nothing is joined before the block, and after it only what the request left over
  obtain rfl : joined = [] := joined_nil_last (hleft ▸ hlast) hfree'.1
  rw [List.append_nil] at hleft
  subst hleft
  have hback : right = after ∧ total joined' = total (leftover n (need size)) := by
    rw [leftover] at hright ⊢
    by_cases hsplit : need size + 36 ≤ n
    · rw [if_pos hsplit] at hright ⊢
      cases joined' with
      | nil =>
        have hlone := hc'.formed.apart
        rw [List.append_assoc, List.singleton_append] at hlone
        have hright' : right = ⟨false, n - (need size + 12)⟩ :: after := by simpa using hright.symm
        simp [hright', Apart] at hlone
      | cons cell joined' =>
        obtain ⟨rfl, hafter⟩ := List.cons.inj hright
        have hrest : after = joined' ++ right := hafter
        obtain rfl : joined' = [] := joined_nil (hrest ▸ hhead) fun cell hcell =>
          hfree'.2 cell (by simp [hcell])
        exact ⟨hrest.symm, rfl⟩
    · rw [if_neg hsplit] at hright ⊢
      have hrest : after = joined' ++ right := hright
      obtain rfl : joined' = [] := joined_nil (hrest ▸ hhead) hfree'.2
      exact ⟨hrest.symm, rfl⟩
  obtain ⟨rfl, htotal⟩ := hback
  refine ⟨heap', ?_, hc.kin.trans hc'.kin, ?_⟩
  · rw [← hc.heapPtr]
    exact hrunFree
  · have hfinal := hc'.formed
    rw [total_nil, Nat.zero_add, htotal, htaken] at hfinal
    rw [hcells]
    simpa using hfinal

/-- Without blocks the heap is one free block. -/
theorem Sound.empty (h : Sound heap cells []) : cells = [⟨false, heap.heapEnd⟩] := by
  have hfree : ∀ cell ∈ cells, cell.used = false := by
    rintro ⟨used, n⟩ hcell
    cases used with
    | false => rfl
    | true =>
      obtain ⟨before, after, rfl⟩ := List.append_of_mem hcell
      obtain ⟨block, hblock, -⟩ := h.owner
      nomatch hblock
  have hfills := h.formed.fills
  have hend : 0 < heap.heapEnd := by
    rw [Heap.heapEnd, sizeofStructMem]
    omega
  cases cells with
  | nil =>
    rw [total_nil] at hfills
    omega
  | cons cell cells =>
    rcases cell with ⟨used, n⟩
    obtain rfl : used = false := hfree ⟨used, n⟩ (by simp)
    cases cells with
    | nil => simpa using hfills
    | cons next cells =>
      have hapart := (List.isChain_cons_cons.mp h.formed.apart).1
      simp [Apart, hfree next (by simp)] at hapart

/-- Where a new block ends. -/
theorem malloc_stop {heap1 : Heap} (h : Sound heap cells blocks)
    (hmalloc : rtMalloc heap size = some (some p, heap1)) :
    ∃ n, need size + 12 ≤ n ∧ heap1.heapPtr + heap1.stop ⟨p, []⟩ + 12 = p + taken n (need size) := by
  have hsize : size ≠ 0 := by
    rintro rfl
    simp [rtMalloc_zero] at hmalloc
  rcases rtMalloc_cases h.arena.aligned h.formed h.arena.room hsize with
    ⟨before, n, after, hfits, hrun⟩ | ⟨-, hrun⟩
  case inr => simp [hrun] at hmalloc
  rw [hrun] at hmalloc
  obtain ⟨rfl, rfl⟩ : heap.heapPtr + total before + 12 = p ∧ heap.take (total before) (need size) =
      heap1 := by simpa [sizeofStructMem] using hmalloc
  have hc := hfits.change h.formed
  have hlaid := hc.laid
  rw [List.append_assoc, List.cons_append] at hlaid
  have hptr := hc.heapPtr
  refine ⟨n, hfits.room, ?_⟩
  have hstart : (heap.take (total before) (need size)).start ⟨heap.heapPtr + total before + 12, []⟩ =
      total before := by
    simp only [Heap.start, sizeofStructMem]
    omega
  simp only [Heap.stop, hstart, hlaid.headerAt, node, hptr]
  omega

end

/-! ### After any run -/

section
variable {beginAddr endAddr size p : ℕ} {junk : ℕ → UInt8} {start heap heap1 : Heap}
  {requests : List Request} {blocks : List Block}

theorem reached (hinit : rtSystemHeapInit beginAddr endAddr junk = some start)
    (hend : endAddr < 2 ^ 32) (hroom : 12 ≤ start.memSizeAligned)
    (hplay : play start [] requests = some (heap, blocks)) :
    ∃ cells, Kin start heap ∧ Sound heap cells blocks := by
  obtain ⟨heap', blocks', cells, hplay', hkin, hsound⟩ :=
    play_sound (init_sound hinit hend hroom) requests
  obtain ⟨rfl, rfl⟩ : heap' = heap ∧ blocks' = blocks := by simpa [hplay'] using hplay
  exact ⟨cells, hkin, hsound⟩

theorem smallHeap_malloc (hsize : size ≠ 0) (hneed : need size < 1000) :
    ∃ heap, rtMalloc smallHeap size = some (some 0x2000000c, heap) := by
  have hsound := init_sound smallHeap_init (by decide) smallHeap_room
  have hend : smallHeap.heapEnd = 1012 := by
    rw [Heap.heapEnd, smallHeap, clear_memSizeAligned]
    rfl
  have hptr : smallHeap.heapPtr = 0x20000000 := by rw [smallHeap, clear_heapPtr]
  have hmem : smallHeap.memSizeAligned = 1000 := by rw [smallHeap, clear_memSizeAligned]
  have hfits : Fits smallHeap (need size) 0 [⟨false, smallHeap.heapEnd⟩] [] smallHeap.heapEnd [] := by
    refine ⟨rfl, ?_, ?_, by simp⟩
    · omega
    · rw [total_nil, hmem]
      omega
  rcases rtMalloc_cases hsound.arena.aligned hsound.formed smallHeap_room hsize with
    ⟨before, n, after, hfits', hrun⟩ | ⟨hno, -⟩
  · rw [hptr, ← hfits.unique hsound.formed hfits'] at hrun
    exact ⟨_, hrun⟩
  · exact absurd hfits (hno _ _ _)

/-- A request gets the lowest stretch that no block takes up and that does not end with
the heap, and fails exactly if there is none. -/
theorem malloc_lowest_gap (hinit : rtSystemHeapInit beginAddr endAddr junk = some start)
    (hend : endAddr < 2 ^ 32) (hroom : 12 ≤ start.memSizeAligned)
    (hplay : play start [] requests = some (heap, blocks)) (hsize : size ≠ 0) :
    ((rtMalloc heap size).map Prod.fst = some (some p) ↔
      ∃ lo, IsLeast {lo | SeenGap heap blocks (need size) lo} lo ∧
        p = heap.heapPtr + lo + sizeofStructMem) ∧
    ((rtMalloc heap size).map Prod.fst = some none ↔
      ∀ lo, Gap heap blocks (need size) lo → lo + need size + sizeofStructMem = heap.heapEnd) := by
  obtain ⟨cells, -, hsound⟩ := reached hinit hend hroom hplay
  exact malloc_gap hsound hsize

theorem smallHeap_lowest_gap : ∃ heap blocks,
    play smallHeap [] [.malloc 20, .calloc 3 4] = some (heap, blocks) ∧
      ((rtMalloc heap 8).map Prod.fst = some (some 0x20000044) ↔
        ∃ lo, IsLeast {lo | SeenGap heap blocks (need 8) lo} lo ∧
          0x20000044 = heap.heapPtr + lo + sizeofStructMem) ∧
      ((rtMalloc heap 8).map Prod.fst = some none ↔
        ∀ lo, Gap heap blocks (need 8) lo → lo + need 8 + sizeofStructMem = heap.heapEnd) := by
  obtain ⟨heap, blocks, -, hplay, -⟩ :=
    play_sound (init_sound smallHeap_init (by decide) smallHeap_room) [.malloc 20, .calloc 3 4]
  exact ⟨heap, blocks, hplay,
    malloc_lowest_gap smallHeap_init (by decide) smallHeap_room hplay (by decide)⟩

theorem used_mem_counts (hinit : rtSystemHeapInit beginAddr endAddr junk = some start)
    (hend : endAddr < 2 ^ 32) (hroom : 12 ≤ start.memSizeAligned)
    (hplay : play start [] requests = some (heap, blocks)) :
    heap.usedMem = (blocks.map fun block => heap.stop block - heap.start block).sum := by
  obtain ⟨cells, -, hsound⟩ := reached hinit hend hroom hplay
  exact hsound.usedMem

theorem smallHeap_used_mem : ∃ heap blocks,
    play smallHeap [] [.malloc 20, .calloc 3 4] = some (heap, blocks) ∧
      heap.usedMem = (blocks.map fun block => heap.stop block - heap.start block).sum := by
  obtain ⟨heap, blocks, -, hplay, -⟩ :=
    play_sound (init_sound smallHeap_init (by decide) smallHeap_room) [.malloc 20, .calloc 3 4]
  exact ⟨heap, blocks, hplay, used_mem_counts smallHeap_init (by decide) smallHeap_room hplay⟩

/-- When everything has been freed, the heap answers like a new one. -/
theorem all_freed (hinit : rtSystemHeapInit beginAddr endAddr junk = some start)
    (hend : endAddr < 2 ^ 32) (hroom : 12 ≤ start.memSizeAligned)
    (hplay : play start [] requests = some (heap, [])) :
    heap.usedMem = 0 ∧ heap.lfree = 0 ∧ heap.header 0 = start.header 0 ∧
      ∀ size, (rtMalloc heap size).map Prod.fst = (rtMalloc start size).map Prod.fst := by
  have hstart := init_sound hinit hend hroom
  obtain ⟨cells, hkin, hsound⟩ := reached hinit hend hroom hplay
  obtain rfl := hsound.empty
  have hsame : heap.heapEnd = start.heapEnd := by
    rw [Heap.heapEnd, Heap.heapEnd, hkin.memSizeAligned]
  have hfirst := hsound.formed.links.1
  rw [hsame] at hsound hfirst
  refine ⟨?_, ?_, hfirst.trans hstart.formed.links.1.symm, fun size => ?_⟩
  · simpa using hsound.formed.usedMem
  · simpa [firstFree] using hsound.formed.lfree
  · exact rtMalloc_congr hstart.formed hsound.formed hkin hstart.arena.aligned hroom size

theorem smallHeap_freed : ∃ heap,
    play smallHeap [] [.malloc 20, .free (some 0x2000000c)] = some (heap, []) ∧
      heap.usedMem = 0 ∧ heap.lfree = 0 ∧ heap.header 0 = smallHeap.header 0 ∧
      ∀ size, (rtMalloc heap size).map Prod.fst = (rtMalloc smallHeap size).map Prod.fst := by
  obtain ⟨heap1, hmalloc⟩ := smallHeap_malloc (show 20 ≠ 0 by decide) (by decide)
  obtain ⟨heap2, hfree, -⟩ :=
    free_malloc (init_sound smallHeap_init (by decide) smallHeap_room) hmalloc
  have hplay : play smallHeap [] [.malloc 20, .free (some 0x2000000c)] = some (heap2, []) := by
    simp [play, serve, hmalloc, hfree, Allowed, Held, note, drop]
  exact ⟨heap2, hplay, all_freed smallHeap_init (by decide) smallHeap_room hplay⟩

/-- Freeing a new block undoes its allocation for every later request. -/
theorem malloc_free_undone (hinit : rtSystemHeapInit beginAddr endAddr junk = some start)
    (hend : endAddr < 2 ^ 32) (hroom : 12 ≤ start.memSizeAligned)
    (hplay : play start [] requests = some (heap, blocks))
    (hmalloc : rtMalloc heap size = some (some p, heap1)) :
    ∃ heap2, rtFree heap1 (some p) = some heap2 ∧ heap2.usedMem = heap.usedMem ∧
      heap2.lfree = heap.lfree ∧
      ∀ size, (rtMalloc heap2 size).map Prod.fst = (rtMalloc heap size).map Prod.fst := by
  obtain ⟨cells, -, hsound⟩ := reached hinit hend hroom hplay
  obtain ⟨heap2, hrun, hkin, hformed⟩ := free_malloc hsound hmalloc
  refine ⟨heap2, hrun, ?_, ?_,
    rtMalloc_congr hsound.formed hformed hkin hsound.arena.aligned hsound.arena.room⟩
  · rw [hformed.usedMem, hsound.formed.usedMem]
  · rw [hformed.lfree, hsound.formed.lfree]

theorem smallHeap_undone : ∃ heap1 heap2, rtMalloc smallHeap 20 = some (some 0x2000000c, heap1) ∧
    rtFree heap1 (some 0x2000000c) = some heap2 ∧ heap2.usedMem = smallHeap.usedMem ∧
      heap2.lfree = smallHeap.lfree ∧
      ∀ size, (rtMalloc heap2 size).map Prod.fst = (rtMalloc smallHeap size).map Prod.fst := by
  obtain ⟨heap1, hmalloc⟩ := smallHeap_malloc (show 20 ≠ 0 by decide) (by decide)
  obtain ⟨heap2, hundone⟩ := malloc_free_undone smallHeap_init (by decide) smallHeap_room
    (show play smallHeap [] [.free none] = some (smallHeap, []) from rfl) hmalloc
  exact ⟨heap1, heap2, hmalloc, hundone⟩

/-- A block is as long as it was asked to be unless the size was rounded to nothing. -/
theorem malloc_long_iff (hinit : rtSystemHeapInit beginAddr endAddr junk = some start)
    (hend : endAddr < 2 ^ 32) (hroom : 12 ≤ start.memSizeAligned)
    (hplay : play start [] requests = some (heap, blocks)) (hsize : size < 2 ^ 32)
    (hmalloc : rtMalloc heap size = some (some p, heap1)) :
    (p + size ≤ heap1.heapPtr + heap1.stop ⟨p, []⟩ ↔ size ≤ 2 ^ 32 - 4) ∧
      (2 ^ 32 - 4 < size → rtMalloc heap minSizeAligned = some (some p, heap1) ∧
        p + 12 ≤ heap1.heapPtr + heap1.stop ⟨p, []⟩ ∧
        heap1.heapPtr + heap1.stop ⟨p, []⟩ < p + 36) := by
  obtain ⟨cells, hkin, hsound⟩ := reached hinit hend hroom hplay
  obtain ⟨n, hfits, hstop⟩ := malloc_stop hsound hmalloc
  have htaken := (taken_leftover hfits).2
  have hwrapped (hbig : 2 ^ 32 - 4 < size) : need size = need minSizeAligned := by
    simp only [need, rtAlign, minSizeAligned]
    omega
  have hleast : need minSizeAligned = 12 := rfl
  refine ⟨⟨fun hlong => ?_, fun hsmall => ?_⟩, fun hbig => ⟨?_, ?_⟩⟩
  · by_contra hbig
    rw [hwrapped (by omega), hleast, taken] at hstop
    split at hstop <;> omega
  · have := le_need hsmall
    omega
  · rw [← hmalloc]
    exact (rtMalloc_of_need hsound.arena.aligned hsound.formed hsound.arena.room (by omega)
      (by decide) (hwrapped hbig)).symm
  · rw [hwrapped hbig, hleast, taken] at hstop
    rw [hwrapped hbig, hleast] at hfits
    split at hstop <;> omega

theorem smallHeap_long : ∃ heap1, rtMalloc smallHeap 0xFFFFFFFF = some (some 0x2000000c, heap1) ∧
    (0x2000000c + 0xFFFFFFFF ≤ heap1.heapPtr + heap1.stop ⟨0x2000000c, []⟩ ↔
      0xFFFFFFFF ≤ 2 ^ 32 - 4) ∧
    (2 ^ 32 - 4 < 0xFFFFFFFF → rtMalloc smallHeap minSizeAligned = some (some 0x2000000c, heap1) ∧
      0x2000000c + 12 ≤ heap1.heapPtr + heap1.stop ⟨0x2000000c, []⟩ ∧
      heap1.heapPtr + heap1.stop ⟨0x2000000c, []⟩ < 0x2000000c + 36) := by
  obtain ⟨heap1, hmalloc⟩ := smallHeap_malloc (show 0xFFFFFFFF ≠ 0 by decide) (by decide)
  exact ⟨heap1, hmalloc, malloc_long_iff smallHeap_init (by decide) smallHeap_room
    (show play smallHeap [] [.free none] = some (smallHeap, []) from rfl) (by decide) hmalloc⟩

end
end WeatherStation.SmallMem
