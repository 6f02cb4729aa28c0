import WeatherStation.SmallMemMalloc

/-! `rt_free` on the list of blocks, and `rt_realloc` where it makes a block shorter. -/
namespace WeatherStation.SmallMem
open Lib Cell

section
variable {heap heap' : Heap} {before after left right cells : List Cell} {used flag : Bool}
  {n m k off i size ptr : ℕ}

/-! ### `rt_free` -/

theorem le_firstFree : off ≤ firstFree off cells := by
  induction cells generalizing off with
  | nil => exact Nat.le_refl off
  | cons cell cells ih =>
    rw [firstFree]
    split
    · exact Nat.le_trans (Nat.le_add_right off cell.size) ih
    · exact Nat.le_refl off

/-- When a block becomes free, the lowest free one is it or the old one. -/
theorem lfree_release (hpos : ∀ cell ∈ before, 0 < cell.size) (hn : 0 < n)
    (h : off = firstFree 0 (before ++ ⟨true, n⟩ :: after)) :
    (if total before < off then total before else off) =
      firstFree 0 (before ++ ⟨false, n⟩ :: after) := by
  rcases @allUsed_or before with hused | hfree
  · rw [(firstFree_eq_iff hpos).mpr hused, if_pos]
    have hle : 0 + total before + n ≤ off := by
      rw [h, firstFree_used hused]
      exact (le_firstFree : 0 + total before + n ≤ firstFree (0 + total before + n) after)
    omega
  · have hlt := @firstFree_lt before 0 hpos hfree
    rw [firstFree_free hfree] at h ⊢
    rw [if_neg (by omega), h]

theorem release_eq : heap.release ptr =
    { (heap.setUsed ptr false).setMagic ptr with
      lfree := if ptr < heap.lfree then ptr else heap.lfree
      usedMem := sub32 heap.usedMem
        (sub32 (((heap.setUsed ptr false).setMagic ptr).header ptr).next ptr) } := by
  have hlfree : ((heap.setUsed ptr false).setMagic ptr).lfree = heap.lfree := rfl
  simp only [Heap.release, hlfree]
  split <;> rfl

theorem release_edit (h : Formed heap (before ++ ⟨true, n⟩ :: after)) :
    Edit heap (heap.release (total before)) before [⟨true, n⟩] [⟨false, n⟩] after ∧
      Booked (heap.release (total before)) (before ++ [⟨false, n⟩] ++ after) := by
  have hend := h.endAt
  have hsmall := h.small
  have hn := h.sizeAt
  have hlaid := setMagic_laid (setUsed_laid false h.toLaid)
  have hnext : (((heap.setUsed (total before) false).setMagic (total before)).header
      (total before)).next = total before + n := by
    rw [hlaid.headerAt]
    rfl
  have hsize : sub32 (total before + n) (total before) = n := by
    rw [sub32_of_le (by omega) (by omega)]
    omega
  have hfinal : Laid (heap.release (total before)) (before ++ [⟨false, n⟩] ++ after) := by
    rw [release_eq, List.append_assoc]
    exact hlaid.congr rfl rfl
  refine ⟨⟨hfinal, ?_, ?_, fun i hi => ?_⟩, hfinal, ?_, ?_⟩
  · rw [release_eq]
    rfl
  · rw [release_eq]
    rfl
  · simp only [total_cons, total_nil, Nat.add_zero] at hi
    rw [release_eq]
    refine Eq.trans (set_outside (by omega)) (set_outside (by omega))
  · have hpos : ∀ cell ∈ before, 0 < cell.size := fun cell hcell => h.pos cell (by simp [hcell])
    rw [release_eq, List.append_assoc]
    exact lfree_release hpos (by omega) h.lfree
  · have hused : usedTotal before + n + usedTotal after ≤ heap.heapEnd := by
      have hle := @usedTotal_le (before ++ ⟨true, n⟩ :: after)
      rw [h.fills] at hle
      simpa [Nat.add_assoc] using hle
    rw [release_eq]
    simp only [hnext, hsize, h.usedMem]
    simp only [usedTotal_append, usedTotal_cons, usedTotal_nil, if_true, Bool.false_eq_true, if_false]
    rw [sub32_of_le (by omega) (by omega)]
    omega

/-! ### Neighbours are joined -/

theorem Joins.booked {next : ℕ} (hj : Joins heap heap' (total before) (total before + n) next)
    (hnext : next = total before + n + m)
    (h : Booked heap (before ++ ⟨false, n⟩ :: ⟨false, m⟩ :: after)) :
    Booked heap' (before ++ ⟨false, n + m⟩ :: after) := by
  subst hnext
  have hn := h.sizeAt
  have hpos : ∀ cell ∈ before, 0 < cell.size := fun cell hcell => h.pos cell (by simp [hcell])
  have hlow : heap.lfree ≠ total before + n := by
    have hle : firstFree 0 (before ++ ⟨false, n⟩ :: ⟨false, m⟩ :: after) ≤ total before :=
      firstFree_le hpos
    rw [h.lfree]
    omega
  refine ⟨hj.laid h.toLaid, ?_, ?_⟩
  · rw [hj.rest]
    show (if heap.lfree = total before + n then total before else heap.lfree) = _
    rw [if_neg hlow, h.lfree]
    exact firstFree_join
  · rw [hj.rest]
    simp [h.usedMem]

theorem Edit.refl {mid : List Cell} (h : Laid heap (left ++ mid ++ right)) :
    Edit heap heap left mid mid right :=
  ⟨h, rfl, rfl, fun _ _ => rfl⟩

theorem Joins.edit {next : ℕ} (hj : Joins heap heap' (total before) (total before + n) next)
    (hnext : next = total before + n + m)
    (h : Laid heap (before ++ ⟨false, n⟩ :: ⟨false, m⟩ :: after)) :
    Edit heap heap' before [⟨false, n⟩, ⟨false, m⟩] [⟨false, n + m⟩] after := by
  subst hnext
  have hn := h.sizeAt
  refine ⟨?_, ?_, ?_, fun i hi => ?_⟩
  · rw [List.append_assoc]
    exact hj.laid h
  · rw [hj.rest]
  · rw [hj.rest]
  · simp only [total_cons, total_nil] at hi
    exact hj.kept i (by omega) (by omega)

theorem plugForward_edit (h : Booked heap (before ++ ⟨false, n⟩ :: after))
    (hafter : after.IsChain Apart) :
    ∃ joined right, after = joined ++ right ∧ (∀ cell ∈ joined, cell.used = false) ∧
      right.IsChain Apart ∧ (∀ cell ∈ right.head?, cell.used = true) ∧
      Edit heap (heap.plugForward (total before)) before (⟨false, n⟩ :: joined)
        [⟨false, n + total joined⟩] right ∧
      Booked (heap.plugForward (total before)) (before ++ ⟨false, n + total joined⟩ :: right) := by
  have hn := h.sizeAt
  have hend := h.endAt
  have hnext : (heap.header (total before)).next = total before + n := by
    rw [h.headerAt]
    rfl
  have hsame : Edit heap heap before [⟨false, n⟩] [⟨false, n⟩] after :=
    .refl (by simpa using h.toLaid)
  simp only [Heap.plugForward, hnext]
  cases after with
  | nil =>
    have hlast : total before + n = heap.heapEnd := by simpa using hend
    rw [if_neg (by simp [hlast])]
    exact ⟨[], [], rfl, by simp, .nil, by simp, hsame, h⟩
  | cons cell after =>
    rcases cell with ⟨used, m⟩
    have hsecond : Laid heap ((before ++ [⟨false, n⟩]) ++ ⟨used, m⟩ :: after) := by
      simpa using h.toLaid
    have hheader := hsecond.headerAt
    simp only [total_append, total_cons, total_nil, Nat.add_zero] at hheader
    cases used with
    | true =>
      rw [if_neg (by simp [hheader, node])]
      exact ⟨[], ⟨true, m⟩ :: after, rfl, by simp, hafter, by simp, hsame, h⟩
    | false =>
      have hm := hsecond.sizeAt
      have hnext2 : (heap.header (total before + n)).next = total before + n + m := by
        rw [hheader]
        rfl
      have hjoins := combine_joins hnext2 (show total before + 12 ≤ total before + n by omega)
        (by omega)
      obtain ⟨hhead, hafter⟩ := List.isChain_cons.mp hafter
      simp only [total_cons] at hend
      rw [if_pos ⟨by omega, by simp [hheader, node], by omega⟩]
      refine ⟨[⟨false, m⟩], after, rfl, by simp, hafter, by simpa [Apart] using hhead, ?_, ?_⟩
      · simpa using hjoins.edit rfl h.toLaid
      · simpa using hjoins.booked rfl h

theorem plugBackward_edit (h : Booked heap (before ++ ⟨false, n⟩ :: after))
    (hbefore : before.IsChain Apart) :
    ∃ left joined, before = left ++ joined ∧ (∀ cell ∈ joined, cell.used = false) ∧
      left.IsChain Apart ∧ (∀ cell ∈ left.getLast?, cell.used = true) ∧
      Edit heap (heap.plugBackward (total before)) left (joined ++ [⟨false, n⟩])
        [⟨false, total joined + n⟩] after ∧
      Booked (heap.plugBackward (total before)) (left ++ ⟨false, total joined + n⟩ :: after) := by
  have hn := h.sizeAt
  have hprev : (heap.header (total before)).prev = last 0 0 before := by
    rw [h.headerAt]
    rfl
  have hsame : Edit heap heap before [⟨false, n⟩] [⟨false, n⟩] after :=
    .refl (by simpa using h.toLaid)
  simp only [Heap.plugBackward, hprev]
  rcases List.eq_nil_or_concat before with rfl | ⟨left, ⟨used, m⟩, rfl⟩
  · rw [if_neg (by simp [last])]
    exact ⟨[], [], rfl, by simp, .nil, by simp, by simpa using hsame, by simpa using h⟩
  · have hfirst : Booked heap (left ++ ⟨used, m⟩ :: ⟨false, n⟩ :: after) := by simpa using h
    have hm := hfirst.sizeAt
    have hlast : last 0 0 (left ++ [⟨used, m⟩]) = total left := by
      simp [last_append, last]
    have hnext : (heap.header (total left + m)).next = total left + m + n := by
      have hheader := h.headerAt
      simp only [List.concat_eq_append, total_append, total_cons, total_nil, Nat.add_zero] at hheader
      rw [hheader]
      rfl
    simp only [List.concat_eq_append, hlast, total_append, total_cons, total_nil, Nat.add_zero]
    cases used with
    | true =>
      rw [if_neg (by simp [hfirst.headerAt, node])]
      refine ⟨left ++ [⟨true, m⟩], [], by simp, by simp, by simpa using hbefore, by simp, ?_, ?_⟩
      · simpa using hsame
      · simpa using h
    | false =>
      have hjoins := combine_joins hnext (show total left + 12 ≤ total left + m by omega) (by omega)
      have hchain : (left ++ Cell.mk false m :: []).IsChain Apart := by simpa using hbefore
      have hapart := apart_free.mp hchain
      rw [if_pos ⟨by omega, by simp [hfirst.headerAt, node]⟩]
      refine ⟨left, [⟨false, m⟩], by simp, by simp, hapart.1, hapart.2.2.1, ?_, ?_⟩
      · simpa using hjoins.edit rfl hfirst.toLaid
      · simpa using hjoins.booked rfl hfirst

theorem plugHoles_change (h : Booked heap (before ++ ⟨false, n⟩ :: after))
    (hbefore : before.IsChain Apart) (hafter : after.IsChain Apart) :
    ∃ heap' left joined joined' right, before = left ++ joined ∧ after = joined' ++ right ∧
      (∀ cell ∈ joined ++ joined', cell.used = false) ∧
      heap.plugHoles (total before) = some heap' ∧
      Change heap heap' left (joined ++ ⟨false, n⟩ :: joined')
        [⟨false, total joined + (n + total joined')⟩] right := by
  have hn := h.sizeAt
  have hend := h.endAt
  have hasserts : ¬(total before ≥ heap.heapEnd ∨ (heap.header (total before)).used = true) := by
    rintro (houtside | hused)
    · omega
    · rw [h.headerAt] at hused
      exact absurd hused Bool.false_ne_true
  obtain ⟨joined', right, rfl, hfree', hright, hhead, hedit', hbooked'⟩ := plugForward_edit h hafter
  obtain ⟨left, joined, rfl, hfree, hleft, hlast, hedit, hbooked⟩ :=
    plugBackward_edit hbooked' hbefore
  rw [Heap.plugHoles, if_neg hasserts]
  clear hasserts
  generalize heap.plugForward (total (left ++ joined)) = heap1 at hedit' hedit hbooked ⊢
  generalize heap1.plugBackward (total (left ++ joined)) = heap2 at hedit hbooked ⊢
  have hfinal : Booked heap2
      (left ++ [⟨false, total joined + (n + total joined')⟩] ++ right) := by
    simpa using hbooked
  refine ⟨heap2, left, joined, joined', right, rfl, rfl, ?_, rfl,
    ⟨hfinal.toLaid, ?_, ?_, fun i hi => ?_⟩, hfinal, ?_⟩
  · simpa [or_imp, forall_and] using And.intro hfree hfree'
  · exact hedit.heapPtr.trans hedit'.heapPtr
  · exact hedit.memSizeAligned.trans hedit'.memSizeAligned
  · have hkept := hedit.kept i
    have hkept' := hedit'.kept i
    simp only [total_append, total_cons, total_nil] at hi hkept hkept'
    exact (hkept (by omega)).trans (hkept' (by omega))
  · rw [List.append_assoc]
    exact apart_free.mpr ⟨hleft, hright, hlast, hhead⟩

/-- Freeing a used block joins it to the free ones next to it. -/
theorem rtFree_change (haligned : heap.heapPtr % 4 = 0)
    (h : Formed heap (before ++ ⟨true, n⟩ :: after)) :
    ∃ heap' left joined joined' right, before = left ++ joined ∧ after = joined' ++ right ∧
      (∀ cell ∈ joined ++ joined', cell.used = false) ∧
      rtFree heap (some (heap.heapPtr + total before + 12)) = some heap' ∧
      Change heap heap' left (joined ++ ⟨true, n⟩ :: joined')
        [⟨false, total joined + (n + total joined')⟩] right := by
  have hn := h.sizeAt
  have hend := h.endAt
  have hmod := total_mod h.toLaid
  obtain ⟨hedit, hbooked⟩ := release_edit h
  obtain ⟨hbefore, hafter⟩ := apart_used.mp h.apart
  rw [List.append_assoc] at hbooked
  obtain ⟨heap', left, joined, joined', right, hleft, hright, hfree, hrun, hplug⟩ :=
    plugHoles_change hbooked hbefore hafter
  refine ⟨heap', left, joined, joined', right, hleft, hright, hfree, ?_, ⟨hplug.laid, ?_, ?_,
    fun i hi => ?_⟩, hplug.formed⟩
  · have hmem : heap.heapPtr + total before + 12 - sizeofStructMem - heap.heapPtr = total before := by
      simp only [sizeofStructMem]
      omega
    have hheader := h.headerAt
    simp only [rtFree, rtAlignSize, hmem, hheader, node]
    rw [if_neg (by omega), if_neg (by simp only [sizeofStructMem]; omega), if_neg (by simp)]
    exact hrun
  · exact hplug.heapPtr.trans hedit.heapPtr
  · exact hplug.memSizeAligned.trans hedit.memSizeAligned
  · have hkept := hedit.kept i
    have hkept' := hplug.kept i
    have htotal : total before = total left + total joined := by rw [hleft, total_append]
    simp only [total_append, total_cons, total_nil] at hi hkept hkept'
    rw [hkept' (by omega), hkept (by omega)]

theorem firstFree_cut : firstFree off (left ++ ⟨true, k⟩ :: ⟨true, m⟩ :: right) =
    firstFree off (left ++ ⟨true, k + m⟩ :: right) := by
  induction left generalizing off with
  | nil => simp [firstFree, Nat.add_assoc]
  | cons cell left ih =>
    simp only [List.cons_append, firstFree]
    rw [ih]

theorem cut_eq (h : heap' = heap.insertAfter ptr (ptr + 12 + k)) : heap.cut ptr size k =
    { heap' with
      lfree := if ptr + 12 + k < heap'.lfree then ptr + 12 + k else heap'.lfree
      usedMem := sub32 heap'.usedMem (sub32 size k) } := by
  simp only [Heap.cut, sizeofStructMem, ← h]
  split <;> rfl

theorem cut_edit (h : Formed heap (before ++ ⟨true, n⟩ :: after)) (hk : 16 ≤ k ∧ k % 4 = 0)
    (hn : k + 24 < n) :
    Edit heap (heap.cut (total before) (n - 12) (k - 12)) before [⟨true, n⟩]
        [⟨true, k⟩, ⟨false, n - k⟩] after ∧
      Booked (heap.cut (total before) (n - 12) (k - 12))
        (before ++ [⟨true, k⟩, ⟨false, n - k⟩] ++ after) ∧
      ∀ i, total before + 12 ≤ i → i < total before + k →
        (heap.cut (total before) (n - 12) (k - 12)).mem i = heap.mem i := by
  have hend := h.endAt
  have hsmall := h.small
  obtain ⟨hs, hlaid⟩ := insertAfter_laid h.toLaid hk (show k + 16 ≤ n by omega)
  have hptr2 : total before + 12 + (k - 12) = total before + k := by omega
  obtain ⟨heap1, hheap1⟩ : ∃ heap1, heap1 = heap.insertAfter (total before) (total before + k) :=
    ⟨_, rfl⟩
  rw [← hheap1] at hs hlaid
  rw [← hptr2] at hheap1
  rw [cut_eq hheap1, hptr2, hs.rest]
  have hfinal : Laid
      { { heap with mem := heap1.mem } with
        lfree := if total before + k < heap.lfree then total before + k else heap.lfree
        usedMem := sub32 heap.usedMem (sub32 (n - 12) (k - 12)) }
      (before ++ [⟨true, k⟩, ⟨false, n - k⟩] ++ after) := by
    rw [List.append_assoc]
    exact hlaid.congr rfl (by rw [hs.rest]; rfl)
  refine ⟨⟨hfinal, ?_, ?_, fun i hi => ?_⟩, ⟨hfinal, ?_, ?_⟩, fun i hi hik => ?_⟩
  · rfl
  · rfl
  · simp only [total_cons, total_nil, Nat.add_zero] at hi
    exact hs.kept i (by omega) (by omega) (by omega)
  · have hpos : ∀ cell ∈ before ++ [Cell.mk true k], 0 < cell.size := by
      intro cell hcell
      rcases List.mem_append.mp hcell with hcell | hcell
      · exact h.pos cell (List.mem_append_left _ hcell)
      · obtain rfl := List.mem_singleton.mp hcell
        exact Nat.lt_of_lt_of_le (by omega) hk.1
    have hold : heap.lfree = firstFree 0 ((before ++ [⟨true, k⟩]) ++ ⟨true, n - k⟩ :: after) := by
      rw [List.append_assoc, List.singleton_append, firstFree_cut, h.lfree,
        show k + (n - k) = n by omega]
    have hlow := lfree_release hpos (show 0 < n - k by omega) hold
    simpa using hlow
  · have hused : usedTotal before + n + usedTotal after ≤ heap.heapEnd := by
      have hle := @usedTotal_le (before ++ ⟨true, n⟩ :: after)
      rw [h.fills] at hle
      simpa [Nat.add_assoc] using hle
    simp only [h.usedMem]
    simp only [usedTotal_append, usedTotal_cons, usedTotal_nil, if_true, Bool.false_eq_true, if_false]
    rw [sub32_of_le (show k - 12 ≤ n - 12 by omega) (by omega), sub32_of_le (by omega) (by omega)]
    omega
  · exact hs.kept i (by omega) (by omega) (by omega)

/-- The end of a used block becomes free, and joins a free block after it. -/
theorem shrink_change (h : Formed heap (before ++ ⟨true, n⟩ :: after)) (hk : 16 ≤ k ∧ k % 4 = 0)
    (hn : k + 24 < n) :
    ∃ heap' joined right, after = joined ++ right ∧ (∀ cell ∈ joined, cell.used = false) ∧
      heap.shrink (total before) (n - 12) (k - 12) = some heap' ∧
      Change heap heap' before (⟨true, n⟩ :: joined)
        [⟨true, k⟩, ⟨false, n - k + total joined⟩] right ∧
      ∀ i, total before + 12 ≤ i → i < total before + k → heap'.mem i = heap.mem i := by
  obtain ⟨hbefore, hafter⟩ := apart_used.mp h.apart
  obtain ⟨hedit, hbooked, hdata⟩ := cut_edit h hk hn
  have hptr2 : total before + sizeofStructMem + (k - 12) = total (before ++ [⟨true, k⟩]) := by
    simp only [sizeofStructMem, total_append, total_cons, total_nil]
    omega
  have hsplit : Booked (heap.cut (total before) (n - 12) (k - 12))
      ((before ++ [⟨true, k⟩]) ++ ⟨false, n - k⟩ :: after) := by
    simpa using hbooked
  have hused : (before ++ [Cell.mk true k]).IsChain Apart := apart_used.mpr ⟨hbefore, .nil⟩
  obtain ⟨heap', left, joined, joined', right, hleft, rfl, hfree, hrun, hplug⟩ :=
    plugHoles_change hsplit hused hafter
  -- the block that was cut is in use, so nothing is joined on that side
  obtain rfl : joined = [] := by
    rcases List.eq_nil_or_concat joined with hnil | ⟨init, cell, rfl⟩
    · exact hnil
    · rw [List.concat_eq_append, ← List.append_assoc] at hleft
      obtain ⟨-, hlast⟩ := List.append_inj' hleft rfl
      obtain rfl := List.singleton_inj.mp hlast
      simpa using hfree ⟨true, k⟩ (by simp)
  rw [List.append_nil] at hleft
  subst hleft
  have htotal : total (before ++ [Cell.mk true k]) = total before + k := by simp
  rw [Heap.shrink, hptr2]
  refine ⟨heap', joined', right, rfl, by simpa using hfree, hrun,
    ⟨⟨?_, ?_, ?_, fun i hi => ?_⟩, ?_⟩, fun i hi hik => ?_⟩
  · simpa using hplug.laid
  · rw [hplug.heapPtr, hedit.heapPtr]
  · rw [hplug.memSizeAligned, hedit.memSizeAligned]
  · have hkept := hplug.kept i
    have hkept' := hedit.kept i
    simp only [htotal, List.nil_append, total_cons, total_nil] at hi hkept hkept'
    rw [hkept (by omega), hkept' (by omega)]
  · simpa using hplug.formed
  · rw [hplug.kept i (by omega), hdata i hi hik]

end
end WeatherStation.SmallMem
