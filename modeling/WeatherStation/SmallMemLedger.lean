import WeatherStation.Lib.Ledger
import WeatherStation.SmallMemFree

/-! The blocks in use against the ledger of those who use them. -/
namespace WeatherStation.SmallMem
open Lib Cell ByteMemory Ledger

/-- The memory by address. -/
def Heap.bytes (heap : Heap) : ℕ → UInt8 := fun addr => heap.mem (addr - heap.heapPtr)

/-- Where the data of the used blocks are, from an offset on. -/
def places (heapPtr off : ℕ) (cells : List Cell) : List (ℕ × ℕ) :=
  (live off cells).map fun span => (heapPtr + span.1 + 12, span.2 - 12)

/-- The heap has room for a block, and lies in the address space. -/
structure Arena (heap : Heap) : Prop where
  room : 12 ≤ heap.memSizeAligned
  aligned : heap.heapPtr % 4 = 0
  bound : heap.heapPtr + heap.heapEnd + 12 ≤ 2 ^ 32

structure Sound (heap : Heap) (cells : List Cell) (blocks : List Block) : Prop where
  arena : Arena heap
  formed : Formed heap cells
  keeps : Keeps heap.bytes (places heap.heapPtr 0 cells) blocks

section
variable {heap heap' : Heap} {left right old new cells : List Cell} {blocks : List Block}
  {cell : Cell} {base off n k size ptr p : ℕ}

@[simp] theorem places_nil : places base off [] = [] := rfl

@[simp] theorem places_append : places base off (left ++ right) =
    places base off left ++ places base (off + total left) right := by
  simp [places, live_append]

@[simp] theorem places_cons_true : places base off (⟨true, n⟩ :: cells) =
    (base + off + 12, n - 12) :: places base (off + n) cells := by
  simp [places, live]

@[simp] theorem places_cons_false : places base off (⟨false, n⟩ :: cells) =
    places base (off + n) cells := by
  simp [places, live]

theorem places_free (h : ∀ cell ∈ cells, cell.used = false) : places base off cells = [] := by
  induction cells generalizing off with
  | nil => rfl
  | cons cell cells ih =>
    rcases cell with ⟨used, n⟩
    obtain ⟨hcell, hcells⟩ := List.forall_mem_cons.mp h
    obtain rfl : used = false := hcell
    rw [places_cons_false, ih hcells]

theorem mem_places {place : ℕ × ℕ} (hsizes : ∀ cell ∈ cells, 12 ≤ cell.size)
    (h : place ∈ places base off cells) :
    base + off + 12 ≤ place.1 ∧ place.1 + place.2 ≤ base + off + total cells := by
  induction cells generalizing off with
  | nil => nomatch h
  | cons cell cells ih =>
    rcases cell with ⟨used, n⟩
    obtain ⟨hcell, hcells⟩ := List.forall_mem_cons.mp hsizes
    have hrest (h : place ∈ places base (off + n) cells) := ih hcells h
    simp only [total_cons] at hcell ⊢
    cases used with
    | false =>
      rw [places_cons_false] at h
      have := hrest h
      omega
    | true =>
      rw [places_cons_true] at h
      rcases List.mem_cons.mp h with rfl | h
      · omega
      · have := hrest h
        omega

theorem places_pairwise (hsizes : ∀ cell ∈ cells, 12 ≤ cell.size) :
    (places base off cells).Pairwise fun a b => a.1 + a.2 + 12 ≤ b.1 := by
  induction cells generalizing off with
  | nil => exact .nil
  | cons cell cells ih =>
    rcases cell with ⟨used, n⟩
    obtain ⟨hcell, hcells⟩ := List.forall_mem_cons.mp hsizes
    simp only at hcell
    cases used with
    | false =>
      rw [places_cons_false]
      exact ih hcells
    | true =>
      rw [places_cons_true]
      refine List.pairwise_cons.mpr ⟨fun place hplace => ?_, ih hcells⟩
      have := mem_places hcells hplace
      omega

theorem places_nodup (hsizes : ∀ cell ∈ cells, 12 ≤ cell.size) :
    ((places base off cells).map Prod.fst).Nodup := by
  refine List.pairwise_map.mpr ((places_pairwise hsizes).imp fun {a b} h => ?_)
  omega

theorem Change.total_eq (hc : Change heap heap' left old new right)
    (h : Laid heap (left ++ old ++ right)) : total new = total old := by
  have hold := h.fills
  have hnew := hc.laid.fills
  rw [Heap.heapEnd, hc.memSizeAligned, ← Heap.heapEnd, ← hold] at hnew
  simp only [total_append] at hnew
  omega

/-- The data of the other blocks stay as they are. -/
theorem Change.same (hc : Change heap heap' left old new right)
    (h : Laid heap (left ++ old ++ right)) :
    Same heap.bytes heap'.bytes (places heap.heapPtr 0 left ++
      places heap.heapPtr (total left + total old) right) := by
  intro place hplace addr hlow hhigh
  have hleft : ∀ cell ∈ left, 12 ≤ cell.size := fun cell hcell => h.wide cell (by simp [hcell])
  have hright : ∀ cell ∈ right, 12 ≤ cell.size := fun cell hcell => h.wide cell (by simp [hcell])
  rw [Heap.bytes, Heap.bytes, hc.heapPtr]
  apply hc.kept
  rcases List.mem_append.mp hplace with hplace | hplace
  · have := mem_places hleft hplace
    omega
  · have := mem_places hright hplace
    omega

theorem Arena.congr (h : Arena heap) (hptr : heap'.heapPtr = heap.heapPtr)
    (hsize : heap'.memSizeAligned = heap.memSizeAligned) : Arena heap' where
  room := hsize ▸ h.room
  aligned := hptr ▸ h.aligned
  bound := by
    have := h.bound
    rw [Heap.heapEnd] at this ⊢
    rw [hptr, hsize]
    exact this

/-- The heap is laid out in the same arena. -/
structure Kin (heap heap' : Heap) : Prop where
  heapPtr : heap'.heapPtr = heap.heapPtr
  memSizeAligned : heap'.memSizeAligned = heap.memSizeAligned

theorem Change.kin (hc : Change heap heap' left old new right) : Kin heap heap' :=
  ⟨hc.heapPtr, hc.memSizeAligned⟩

theorem Kin.trans {heap'' : Heap} (h : Kin heap heap') (h' : Kin heap' heap'') : Kin heap heap'' :=
  ⟨h'.heapPtr.trans h.heapPtr, h'.memSizeAligned.trans h.memSizeAligned⟩

/-- One more block is given out. -/
theorem Change.insert {rest : List Cell} (hc : Change heap heap' left old (⟨true, k⟩ :: rest) right)
    (harena : Arena heap) (h : Laid heap (left ++ old ++ right))
    (hkeeps : Keeps heap.bytes (places heap.heapPtr 0 left ++
      places heap.heapPtr (total left + total old) right) blocks)
    (hrest : ∀ cell ∈ rest, cell.used = false) (hn : n + 12 ≤ k)
    (hp : p = heap.heapPtr + total left + 12) :
    Sound heap' (left ++ (⟨true, k⟩ :: rest) ++ right) (⟨p, slice heap'.bytes p n⟩ :: blocks) := by
  subst hp
  have htotal := hc.total_eq h
  have hplaces : places heap.heapPtr 0 (left ++ (⟨true, k⟩ :: rest) ++ right) =
      places heap.heapPtr 0 left ++ (heap.heapPtr + total left + 12, k - 12) ::
        places heap.heapPtr (total left + total old) right := by
    simp only [total_cons] at htotal
    simp only [places_append, places_cons_true, places_free hrest, Nat.zero_add, List.append_assoc,
      List.cons_append, List.nil_append, ← htotal, Nat.add_assoc]
  refine ⟨harena.congr hc.heapPtr hc.memSizeAligned, hc.formed, ?_⟩
  rw [hc.heapPtr, hplaces]
  refine (hkeeps.congr (hc.same h)).insert ?_ ⟨rfl, ?_, ?_⟩
  · rw [← hplaces]
    exact places_nodup hc.laid.wide
  · rw [length_slice]
    omega
  · rw [length_slice]

theorem malloc_sound (h : Sound heap cells blocks) (hsize : size ≠ 0) (hn : n ≤ need size) :
    rtMalloc heap size = some (none, heap) ∨ ∃ p heap' cells',
      rtMalloc heap size = some (some p, heap') ∧ Kin heap heap' ∧
      Sound heap' cells' (⟨p, slice heap'.bytes p n⟩ :: blocks) := by
  rcases rtMalloc_cases h.arena.aligned h.formed h.arena.room hsize with
    ⟨before, m, after, hfits, hrun⟩ | ⟨-, hrun⟩
  · right
    have hc := hfits.change h.formed
    have hlaid : Laid heap (before ++ [⟨false, m⟩] ++ after) := by
      have := h.formed.toLaid
      rw [hfits.split] at this
      simpa using this
    have htaken := (taken_leftover hfits.room).2
    have hkeeps := h.keeps
    rw [hfits.split] at hkeeps
    simp only [places_append, places_cons_false, Nat.zero_add] at hkeeps
    refine ⟨_, _, _, hrun, hc.kin,
      hc.insert h.arena hlaid (by simpa using hkeeps) (fun cell hcell => ?_) (by omega) rfl⟩
    rw [leftover] at hcell
    split at hcell
    · rw [List.mem_singleton.mp hcell]
    · exact absurd hcell List.not_mem_nil
  · exact .inl hrun

/-- Without one of its blocks, before anything changes. -/
theorem Sound.erase {q m : ℕ} (h : Sound heap (left ++ old ++ right) blocks)
    (hold : places heap.heapPtr (total left) old = [(q, m)]) :
    Keeps heap.bytes (places heap.heapPtr 0 left ++
      places heap.heapPtr (total left + total old) right) (drop blocks q) := by
  have hplaces : places heap.heapPtr 0 (left ++ old ++ right) = places heap.heapPtr 0 left ++
      (q, m) :: places heap.heapPtr (total left + total old) right := by
    simp [hold]
  have hkeeps := h.keeps
  rw [hplaces] at hkeeps
  refine hkeeps.erase ?_
  rw [← hplaces]
  exact places_nodup h.formed.wide

/-- Where a block of the ledger is among the blocks of the heap. -/
theorem Sound.find {b : Block} (h : Sound heap cells blocks) (hb : b ∈ blocks) :
    ∃ before n after, cells = before ++ ⟨true, n⟩ :: after ∧
      b.addr = heap.heapPtr + total before + 12 ∧ b.data.length + 12 ≤ n ∧
      slice heap.bytes b.addr b.data.length = b.data := by
  obtain ⟨place, hplace, hholds⟩ := h.keeps.held b hb
  obtain ⟨span, hspan, rfl⟩ := List.mem_map.mp hplace
  obtain ⟨before, after, rfl, hoff⟩ := mem_live_iff.mp hspan
  rw [Nat.zero_add] at hoff
  have hsize := h.formed.sizeAt
  have hfits := hholds.fits
  have haddr := hholds.addr
  refine ⟨before, span.2, after, rfl, by rw [haddr, hoff], by simp only at hfits; omega, ?_⟩
  rw [haddr]
  exact hholds.data

/-- A block is given back. -/
theorem free_sound {b : Block} (h : Sound heap cells blocks) (hb : b ∈ blocks) :
    ∃ heap' cells', rtFree heap (some b.addr) = some heap' ∧ Kin heap heap' ∧
      Sound heap' cells' (drop blocks b.addr) := by
  obtain ⟨before, n, after, rfl, haddr, -⟩ := h.find hb
  obtain ⟨heap', left, joined, joined', right, rfl, rfl, hfree, hrun, hc⟩ :=
    rtFree_change h.arena.aligned h.formed
  have hfree' : (∀ cell ∈ joined, cell.used = false) ∧ ∀ cell ∈ joined', cell.used = false := by
    simpa [or_imp, forall_and] using hfree
  have hsound : Sound heap (left ++ (joined ++ ⟨true, n⟩ :: joined') ++ right) blocks := by
    simpa using h
  have hold : places heap.heapPtr (total left) (joined ++ ⟨true, n⟩ :: joined') =
      [(b.addr, n - 12)] := by
    simp [places_free hfree'.1, places_free hfree'.2, haddr, Nat.add_assoc]
  have hkeeps := (hsound.erase hold).congr (hc.same hsound.formed.toLaid)
  have htotal := hc.total_eq hsound.formed.toLaid
  refine ⟨heap', _, ?_, hc.kin, h.arena.congr hc.heapPtr hc.memSizeAligned, hc.formed, ?_⟩
  · rw [haddr]
    exact hrun
  · rw [hc.heapPtr]
    simp only [places_append, places_cons_false, places_nil, List.append_nil, Nat.zero_add,
      total_append, htotal] at hkeeps ⊢
    exact hkeeps

/-- A block gives back its end. -/
theorem shrink_sound {before after : List Cell} (h : Sound heap (before ++ ⟨true, n⟩ :: after) blocks)
    (hk : 16 ≤ k ∧ k % 4 = 0) (hn : k + 24 < n) (hm : size + 12 ≤ k) :
    ∃ heap' cells', heap.shrink (total before) (n - 12) (k - 12) = some heap' ∧ Kin heap heap' ∧
      Sound heap' cells'
        (⟨heap.heapPtr + total before + 12,
          slice heap'.bytes (heap.heapPtr + total before + 12) size⟩ ::
          drop blocks (heap.heapPtr + total before + 12)) ∧
      ∀ i < k - 12, heap'.bytes (heap.heapPtr + total before + 12 + i) =
        heap.bytes (heap.heapPtr + total before + 12 + i) := by
  obtain ⟨heap', joined, right, rfl, hfree, hrun, hc, hdata⟩ := shrink_change h.formed hk hn
  have hsound : Sound heap (before ++ (⟨true, n⟩ :: joined) ++ right) blocks := by simpa using h
  have hold : places heap.heapPtr (total before) (⟨true, n⟩ :: joined) =
      [(heap.heapPtr + total before + 12, n - 12)] := by
    simp [places_free hfree]
  refine ⟨heap', _, hrun, hc.kin,
    hc.insert h.arena hsound.formed.toLaid (hsound.erase hold) (by simp) hm rfl, fun i hi => ?_⟩
  rw [Heap.bytes, Heap.bytes, hc.heapPtr]
  exact hdata _ (by omega) (by omega)

/-! ### Writing into a block -/

section
variable {before after : List Cell} {mem' : ℕ → UInt8}

theorem Formed.fill (h : Formed heap (before ++ ⟨true, n⟩ :: after))
    (hsame : ∀ i, i < total before + 12 ∨ total before + n ≤ i → mem' i = heap.mem i) :
    Formed { heap with mem := mem' } (before ++ ⟨true, n⟩ :: after) := by
  have hn := h.sizeAt
  have hheader : Heap.header { heap with mem := mem' } (total before) =
      node true (total before + n) (last 0 0 before) := by
    rw [← h.headerAt]
    exact header_congr fun i _ hi => hsame i (by omega)
  exact ⟨⟨h.toLaid.mark rfl hheader fun i hi => hsame i (by omega), h.lfree, h.usedMem⟩, h.apart⟩

/-- The data of the other blocks are elsewhere. -/
theorem other_places {place : ℕ × ℕ} (h : Laid heap (before ++ ⟨true, n⟩ :: after))
    (hplace : place ∈ places base 0 (before ++ ⟨true, n⟩ :: after))
    (hne : place.1 ≠ base + total before + 12) :
    place.1 + place.2 ≤ base + total before ∨ base + total before + n + 12 ≤ place.1 := by
  have hbefore : ∀ cell ∈ before, 12 ≤ cell.size := fun cell hcell => h.wide cell (by simp [hcell])
  rw [places_append, places_cons_true, Nat.zero_add] at hplace
  rcases List.mem_append.mp hplace with hplace | hplace
  · have := mem_places hbefore hplace
    omega
  · rcases List.mem_cons.mp hplace with rfl | hplace
    · exact absurd rfl hne
    · have := mem_places h.wideAfter hplace
      omega

/-- The newest block is filled. -/
theorem fill_sound {data data' : List UInt8}
    (h : Sound heap (before ++ ⟨true, n⟩ :: after) (⟨p, data⟩ :: blocks))
    (hp : p = heap.heapPtr + total before + 12) (hdata : data'.length + 12 ≤ n)
    (hsame : ∀ i, i < total before + 12 ∨ total before + n ≤ i → mem' i = heap.mem i)
    (hslice : slice mem' (total before + 12) data'.length = data') :
    Sound { heap with mem := mem' } (before ++ ⟨true, n⟩ :: after) (⟨p, data'⟩ :: blocks) where
  arena := h.arena.congr rfl rfl
  formed := h.formed.fill hsame
  keeps := by
    have hplace : (p, n - 12) ∈ places heap.heapPtr 0 (before ++ ⟨true, n⟩ :: after) := by
      simp [hp]
    refine h.keeps.refill (fun place hplace hne i hi hlt => ?_) hplace ⟨rfl, ?_, ?_⟩ rfl
    · have hother := other_places h.formed.toLaid hplace (hp ▸ hne)
      show mem' (i - heap.heapPtr) = heap.mem (i - heap.heapPtr)
      exact hsame _ (by omega)
    · simp only
      omega
    · refine Eq.trans (List.map_congr_left fun i _ => ?_) hslice
      show mem' (p + i - heap.heapPtr) = mem' (total before + 12 + i)
      congr 1
      omega

end
end
end WeatherStation.SmallMem
