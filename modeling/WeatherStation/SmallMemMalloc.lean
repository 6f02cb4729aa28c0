import WeatherStation.SmallMemBooks

/-! `rt_malloc` on the list of blocks. -/
namespace WeatherStation.SmallMem
open Lib Cell

section
variable {heap heap' : Heap} {before after left right cells : List Cell} {used flag : Bool}
  {n m k off i size ptr : ℕ}

/-! ### Allocation -/

/-- Some neighbouring blocks are replaced, and the memory elsewhere is as it was. -/
structure Edit (heap heap' : Heap) (left old new right : List Cell) : Prop where
  laid : Laid heap' (left ++ new ++ right)
  heapPtr : heap'.heapPtr = heap.heapPtr
  memSizeAligned : heap'.memSizeAligned = heap.memSizeAligned
  kept : ∀ i, i < total left ∨ total left + total old + 12 ≤ i → heap'.mem i = heap.mem i

structure Change (heap heap' : Heap) (left old new right : List Cell) : Prop
    extends Edit heap heap' left old new right where
  formed : Formed heap' (left ++ new ++ right)

/-- What is taken of a free block, and what is left of it. -/
def taken (n size : ℕ) : ℕ := if size + 36 ≤ n then size + 12 else n

def leftover (n size : ℕ) : List Cell :=
  if size + 36 ≤ n then [⟨false, n - (size + 12)⟩] else []

theorem setMagic_laid (h : Laid heap (before ++ ⟨used, n⟩ :: after)) :
    Laid (heap.setMagic (total before)) (before ++ ⟨used, n⟩ :: after) := by
  have hn := h.sizeAt
  refine h.mark rfl ?_ fun i hi => set_outside (by omega)
  rw [header_setMagic, h.headerAt]
  rfl

theorem setUsed_laid (flag : Bool) (h : Laid heap (before ++ ⟨used, n⟩ :: after)) :
    Laid (heap.setUsed (total before) flag) (before ++ ⟨flag, n⟩ :: after) := by
  have hn := h.sizeAt
  refine h.mark rfl ?_ fun i hi => set_outside (by omega)
  rw [header_setUsed, h.headerAt]
  rfl

theorem insertAfter_laid (h : Laid heap (before ++ ⟨used, n⟩ :: after)) (hk : 16 ≤ k ∧ k % 4 = 0)
    (hn : k + 16 ≤ n) :
    Splits heap (heap.insertAfter (total before) (total before + k)) (total before)
        (total before + k) (total before + n) ∧
      Laid (heap.insertAfter (total before) (total before + k))
        (before ++ ⟨used, k⟩ :: ⟨false, n - k⟩ :: after) := by
  have hnext : (heap.header (total before)).next = total before + n := by
    rw [h.headerAt]
    rfl
  have hsplits := insertAfter_splits hnext (show total before + 12 ≤ total before + k by omega)
    (by omega)
  exact ⟨hsplits, hsplits.laid h hk hn⟩

theorem occupy_eq (h : Laid heap (before ++ ⟨used, n⟩ :: after)) :
    heap.occupy (total before) size =
      if size + 36 ≤ n then
        ((heap.insertAfter (total before) (total before + (size + 12))).setUsed
          (total before) true).account (size + 12)
      else (heap.setUsed (total before) true).account n := by
  have hend := h.endAt
  have hsmall := h.small
  have hn := h.sizeAt
  have hnext : (heap.header (total before)).next = total before + n := by
    rw [h.headerAt]
    rfl
  have hroom : sub32 (total before + n) (total before + 12) = n - 12 := by
    rw [sub32_of_le (by omega) (by omega)]
    omega
  have hall : sub32 (total before + n) (total before) = n := by
    rw [sub32_of_le (by omega) (by omega)]
    omega
  simp only [Heap.occupy, hnext, sizeofStructMem, minSizeAligned, hroom, hall]
  rw [show total before + 12 + size = total before + (size + 12) by omega]
  by_cases hsplit : size + 36 ≤ n
  · rw [if_pos (by omega), if_pos hsplit]
  · rw [if_neg (by omega), if_neg hsplit]

theorem occupy_edit (h : Laid heap (before ++ ⟨false, n⟩ :: after)) (hsize : 12 ≤ size)
    (haligned : size % 4 = 0) :
    Edit heap (heap.occupy (total before) size) before [⟨false, n⟩]
        (⟨true, taken n size⟩ :: leftover n size) after ∧
      (heap.occupy (total before) size).usedMem = heap.usedMem + taken n size ∧
      (heap.occupy (total before) size).lfree = heap.lfree := by
  rw [occupy_eq h, taken, leftover]
  by_cases hsplit : size + 36 ≤ n
  · simp only [if_pos hsplit]
    have hk : 16 ≤ size + 12 ∧ (size + 12) % 4 = 0 := by omega
    obtain ⟨hs, hlaid⟩ := insertAfter_laid h hk (show size + 12 + 16 ≤ n by omega)
    generalize heap.insertAfter (total before) (total before + (size + 12)) = heap1 at hs hlaid ⊢
    refine ⟨⟨?_, ?_, ?_, fun i hi => ?_⟩, ?_, ?_⟩
    · rw [List.append_assoc]
      exact (setUsed_laid true hlaid).congr rfl rfl
    · rw [hs.rest]
      rfl
    · rw [hs.rest]
      rfl
    · simp only [total_cons, total_nil, Nat.add_zero] at hi
      refine Eq.trans (set_outside (by omega)) ?_
      exact hs.kept i (by omega) (by omega) (by omega)
    · rw [hs.rest]
      rfl
    · rw [hs.rest]
      rfl
  · simp only [if_neg hsplit]
    refine ⟨⟨?_, rfl, rfl, fun i hi => ?_⟩, rfl, rfl⟩
    · rw [List.append_assoc]
      exact (setUsed_laid true h).congr rfl rfl
    · simp only [total_cons, total_nil, Nat.add_zero] at hi
      exact set_outside (by omega)

theorem taken_leftover (hroom : size + 12 ≤ n) :
    taken n size + total (leftover n size) = n ∧ size + 12 ≤ taken n size := by
  rw [taken, leftover]
  by_cases hsplit : size + 36 ≤ n
  · simp only [if_pos hsplit, total_cons, total_nil]
    omega
  · simp only [if_neg hsplit, total_nil]
    omega

theorem leftover_used : usedTotal (leftover n size) = 0 := by
  rw [leftover]
  split <;> rfl

theorem leftover_apart (h : (before ++ ⟨false, n⟩ :: after).IsChain Apart) :
    (leftover n size ++ after).IsChain Apart := by
  have hapart := apart_free.mp h
  rw [leftover]
  split
  · rw [List.singleton_append, ← List.nil_append (_ :: _)]
    exact apart_free.mpr ⟨.nil, hapart.2.1, by simp, hapart.2.2.2⟩
  · exact hapart.2.1

theorem settle_rest : heap.settle ptr = { heap with lfree := (heap.settle ptr).lfree } := by
  simp only [Heap.settle]
  split <;> rfl

/-- After a free block was taken, the search from `lfree` finds the lowest free one. -/
theorem settle_lfree (h : Laid heap (before ++ cells))
    (hlfree : heap.lfree = firstFree 0 (before ++ ⟨false, n⟩ :: after)) :
    (heap.settle (total before)).lfree = firstFree 0 (before ++ cells) := by
  have hpos : ∀ cell ∈ before, 0 < cell.size := fun cell hcell => h.pos cell (by simp [hcell])
  rw [Heap.settle]
  rcases @allUsed_or before with hused | hfree
  · have hlow : firstFree 0 (before ++ ⟨false, n⟩ :: after) = total before :=
      (firstFree_eq_iff hpos).mpr hused
    have hlength := h.length_le
    rw [List.length_append] at hlength
    rw [hlfree, hlow, if_pos rfl, nextFree_eq h (by omega), firstFree_used hused, Nat.zero_add]
  · have hlow : total before ≠ heap.lfree := fun heq => by
      obtain ⟨cell, hcell, hnot⟩ := hfree
      have hall := (firstFree_eq_iff hpos).mp (hlfree ▸ heq.symm)
      simp [hall cell hcell] at hnot
    rw [if_neg hlow, hlfree, firstFree_free hfree, firstFree_free hfree]

theorem setMagic_usedMem : (heap.setMagic ptr).usedMem = heap.usedMem := rfl

theorem setMagic_lfree : (heap.setMagic ptr).lfree = heap.lfree := rfl

theorem Edit.setMagic {old : List Cell} (h : Edit heap heap' left old (⟨used, n⟩ :: cells) right) :
    Edit heap (heap'.setMagic (total left)) left old (⟨used, n⟩ :: cells) right where
  laid := by
    have hlaid := h.laid
    rw [List.append_assoc, List.cons_append] at hlaid ⊢
    exact setMagic_laid hlaid
  heapPtr := h.heapPtr
  memSizeAligned := h.memSizeAligned
  kept i hi := (set_outside (by omega)).trans (h.kept i hi)

theorem Edit.settle (h : Formed heap (before ++ ⟨false, n⟩ :: after))
    (hedit : Edit heap heap' before [⟨false, n⟩] (⟨true, taken n size⟩ :: leftover n size) after)
    (hused : heap'.usedMem = heap.usedMem + taken n size) (hlfree : heap'.lfree = heap.lfree) :
    Change heap (heap'.settle (total before)) before [⟨false, n⟩]
      (⟨true, taken n size⟩ :: leftover n size) after := by
  have hlaid := hedit.laid
  rw [List.append_assoc] at hlaid
  have hlow := settle_lfree hlaid (hlfree.trans h.lfree)
  have hfinal : Laid (heap'.settle (total before))
      (before ++ (⟨true, taken n size⟩ :: leftover n size) ++ after) := by
    rw [settle_rest]
    exact hedit.laid.congr rfl rfl
  refine ⟨⟨hfinal, ?_, ?_, fun i hi => ?_⟩, ⟨⟨hfinal, ?_, ?_⟩, ?_⟩⟩
  · rw [settle_rest, hedit.heapPtr]
  · rw [settle_rest, hedit.memSizeAligned]
  · rw [settle_rest, hedit.kept i hi]
  · rw [List.append_assoc]
    exact hlow
  · rw [settle_rest, hused, h.usedMem]
    simp [leftover_used]
    omega
  · rw [List.append_assoc, List.cons_append]
    exact apart_used.mpr ⟨(apart_free.mp h.apart).1, leftover_apart h.apart⟩

theorem take_change (h : Formed heap (before ++ ⟨false, n⟩ :: after)) (hsize : 12 ≤ size)
    (haligned : size % 4 = 0) :
    Change heap (heap.take (total before) size) before [⟨false, n⟩]
      (⟨true, taken n size⟩ :: leftover n size) after := by
  obtain ⟨hedit, hused, hlfree⟩ := occupy_edit h.toLaid hsize haligned
  exact hedit.setMagic.settle h (setMagic_usedMem.trans hused) (setMagic_lfree.trans hlfree)

/-! ### `rt_malloc` -/

/-- The bytes that a request takes, apart from the header. -/
def need (size : ℕ) : ℕ := max (rtAlign size) minSizeAligned

theorem need_spec : 12 ≤ need size ∧ need size % 4 = 0 := by
  simp only [need, rtAlign, minSizeAligned]
  omega

theorem le_need (h : size ≤ 2 ^ 32 - 4) : size ≤ need size := by
  simp only [need, rtAlign, minSizeAligned]
  omega

theorem firstFree_split : ∃ used rest, cells = used ++ rest ∧ (∀ cell ∈ used, cell.used = true) ∧
    firstFree off cells = off + total used := by
  induction cells generalizing off with
  | nil => exact ⟨[], [], rfl, by simp, rfl⟩
  | cons cell cells ih =>
    cases hcell : cell.used with
    | false => exact ⟨[], cell :: cells, rfl, by simp, by simp [firstFree, hcell]⟩
    | true =>
      obtain ⟨used, rest, rfl, hused, hfirst⟩ := @ih (off + cell.size)
      refine ⟨cell :: used, rest, rfl, by simpa [hcell] using hused, ?_⟩
      rw [firstFree, if_pos hcell, hfirst, total_cons, Nat.add_assoc]

/-- Used blocks at the start are passed over. -/
theorem fits_used (h : ∀ cell ∈ left, cell.used = true) :
    (∃ mid m after, Fits heap size off (left ++ right) mid m after ∧ ptr = off + total mid) ↔
      ∃ mid m after, Fits heap size (off + total left) right mid m after ∧
        ptr = off + total left + total mid := by
  induction left generalizing off with
  | nil => rfl
  | cons cell left ih =>
    rcases cell with ⟨used, n⟩
    obtain ⟨hcell, hleft⟩ := List.forall_mem_cons.mp h
    obtain rfl : used = true := hcell
    rw [List.cons_append, fits_cons, if_neg (by simp), ih hleft, total_cons, ← Nat.add_assoc]
    refine and_iff_right_of_imp fun hfits => ?_
    obtain ⟨mid, m, after, hfits, -⟩ := hfits
    have := hfits.place
    omega

theorem findFit_lfree (h : Formed heap cells) (hsize : size ≤ heap.memSizeAligned) :
    heap.findFit size heap.fuel heap.lfree = some ptr ↔
      ∃ mid n after, Fits heap size 0 cells mid n after ∧ ptr = total mid := by
  obtain ⟨used, rest, hcells, hused, hfirst⟩ := @firstFree_split cells 0
  have hlaid := h.toLaid
  have hlength := hlaid.length_le
  rw [hcells] at hlaid hlength
  rw [List.length_append] at hlength
  rw [h.lfree, hfirst, Nat.zero_add, findFit_iff hlaid hsize (by omega), hcells]
  simpa using (@fits_used heap used rest 0 size ptr hused).symm

/-- The change that a successful request makes. -/
theorem Fits.change (h : Formed heap cells) (hfits : Fits heap (need size) 0 cells before n after) :
    Change heap (heap.take (total before) (need size)) before [⟨false, n⟩]
      (⟨true, taken n (need size)⟩ :: leftover n (need size)) after := by
  rw [hfits.split] at h
  exact take_change h need_spec.1 need_spec.2

theorem Fits.asserts (haligned : heap.heapPtr % 4 = 0) (h : Formed heap cells)
    (hfits : Fits heap (need size) 0 cells before n after) :
    heap.TakeAsserts (heap.take (total before) (need size)) (total before) (need size) := by
  have hc := hfits.change h
  have hroom := hfits.room
  rw [hfits.split] at h
  have hmod := total_mod h.toLaid
  have hend := h.endAt
  simp only [Heap.TakeAsserts, Heap.heapEnd, hc.heapPtr, hc.memSizeAligned, rtAlignSize,
    sizeofStructMem] at hend ⊢
  refine ⟨fun _ => ?_, by omega, by omega, by omega⟩
  have hlow := hc.formed.lfree_unused
  rwa [Heap.heapEnd, hc.memSizeAligned, sizeofStructMem] at hlow

theorem rtMalloc_big (hsize : size ≠ 0) (hbig : rtAlign size > heap.memSizeAligned) :
    rtMalloc heap size = some (none, heap) := by
  unfold rtMalloc
  rw [if_neg hsize]
  exact if_pos hbig

theorem rtMalloc_none (hsize : size ≠ 0) (hbig : ¬rtAlign size > heap.memSizeAligned)
    (hfound : heap.findFit (need size) heap.fuel heap.lfree = none) :
    rtMalloc heap size = some (none, heap) := by
  simp only [need] at hfound
  simp only [rtMalloc, if_neg hsize, if_neg hbig, hfound]

theorem rtMalloc_some (hsize : size ≠ 0) (hbig : ¬rtAlign size > heap.memSizeAligned)
    (hfound : heap.findFit (need size) heap.fuel heap.lfree = some ptr)
    (hasserts : heap.TakeAsserts (heap.take ptr (need size)) ptr (need size)) :
    rtMalloc heap size =
      some (some (heap.heapPtr + ptr + sizeofStructMem), heap.take ptr (need size)) := by
  simp only [need] at hfound hasserts ⊢
  simp only [rtMalloc, if_neg hsize, if_neg hbig, hfound, if_pos hasserts]

/-- The lowest block with room for the request is taken, if there is one. -/
theorem rtMalloc_cases (haligned : heap.heapPtr % 4 = 0) (h : Formed heap cells)
    (hroom : 12 ≤ heap.memSizeAligned) (hsize : size ≠ 0) :
    (∃ mid n after, Fits heap (need size) 0 cells mid n after ∧ rtMalloc heap size =
      some (some (heap.heapPtr + total mid + sizeofStructMem), heap.take (total mid) (need size))) ∨
    (∀ mid n after, ¬Fits heap (need size) 0 cells mid n after) ∧
      rtMalloc heap size = some (none, heap) := by
  by_cases hbig : rtAlign size > heap.memSizeAligned
  · right
    refine ⟨fun mid n after hfits => ?_, rtMalloc_big hsize hbig⟩
    have := hfits.place
    rw [need] at this
    omega
  · have hneed : need size ≤ heap.memSizeAligned := by
      rw [need]
      exact max_le (by omega) hroom
    cases hfound : heap.findFit (need size) heap.fuel heap.lfree with
    | none =>
      refine .inr ⟨fun mid n after hfits => ?_, rtMalloc_none hsize hbig hfound⟩
      simp [(findFit_lfree h hneed).mpr ⟨mid, n, after, hfits, rfl⟩] at hfound
    | some ptr =>
      obtain ⟨mid, n, after, hfits, rfl⟩ := (findFit_lfree h hneed).mp hfound
      exact .inl ⟨mid, n, after, hfits,
        rtMalloc_some hsize hbig hfound (hfits.asserts haligned h)⟩

/-- The first block with room is the only first one. -/
theorem Fits.unique {mid mid' after after' : List Cell} {n' : ℕ} (h : Formed heap cells)
    (hfits : Fits heap size 0 cells mid n after) (hfits' : Fits heap size 0 cells mid' n' after') :
    total mid = total mid' := by
  have hsize : size ≤ heap.memSizeAligned := by
    have := hfits.place
    omega
  have hone := (findFit_lfree h hsize).mpr ⟨mid, n, after, hfits, rfl⟩
  have htwo := (findFit_lfree h hsize).mpr ⟨mid', n', after', hfits', rfl⟩
  exact Option.some.inj (hone.symm.trans htwo)

/-- What the answer is depends on the list of blocks only. -/
theorem rtMalloc_answer (haligned : heap.heapPtr % 4 = 0) (h : Formed heap cells)
    (hroom : 12 ≤ heap.memSizeAligned) (hsize : size ≠ 0) :
    ∃ reply, (rtMalloc heap size).map Prod.fst = some reply ∧
      ∀ p, reply = some p ↔ ∃ mid n after, Fits heap (need size) 0 cells mid n after ∧
        p = heap.heapPtr + total mid + sizeofStructMem := by
  rcases rtMalloc_cases haligned h hroom hsize with ⟨mid, n, after, hfits, hrun⟩ | ⟨hno, hrun⟩
  · refine ⟨_, by rw [hrun, Option.map_some], fun p => ?_⟩
    constructor
    · intro hp
      exact ⟨mid, n, after, hfits, (Option.some.inj hp).symm⟩
    · rintro ⟨mid', n', after', hfits', rfl⟩
      rw [hfits.unique h hfits']
  · refine ⟨none, by rw [hrun, Option.map_some], fun p => ?_⟩
    simp only [reduceCtorEq, false_iff, not_exists, not_and]
    exact fun mid n after hfits => absurd hfits (hno mid n after)

/-- Nor does it matter how a size comes to need as much. -/
theorem rtMalloc_of_need {size' : ℕ} (haligned : heap.heapPtr % 4 = 0) (h : Formed heap cells)
    (hroom : 12 ≤ heap.memSizeAligned) (hsize : size ≠ 0) (hsize' : size' ≠ 0)
    (hneed : need size = need size') : rtMalloc heap size = rtMalloc heap size' := by
  rcases rtMalloc_cases haligned h hroom hsize with ⟨mid, n, after, hfits, hrun⟩ | ⟨hno, hrun⟩
  · rcases rtMalloc_cases haligned h hroom hsize' with ⟨mid', n', after', hfits', hrun'⟩ | ⟨hno', -⟩
    · rw [← hneed] at hfits'
      rw [hrun, hrun', hfits.unique h hfits', hneed]
    · rw [hneed] at hfits
      exact absurd hfits (hno' mid n after)
  · rcases rtMalloc_cases haligned h hroom hsize' with ⟨mid', n', after', hfits', -⟩ | ⟨-, hrun'⟩
    · rw [← hneed] at hfits'
      exact absurd hfits' (hno mid' n' after')
    · rw [hrun, hrun']

theorem rtMalloc_zero : rtMalloc heap 0 = some (none, heap) := if_pos rfl

end
end WeatherStation.SmallMem
