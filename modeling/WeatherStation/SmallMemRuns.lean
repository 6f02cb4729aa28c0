import WeatherStation.SmallMemLedger

/-! Runs of the allocator.  Its users keep a ledger of the blocks they hold and of what
they wrote there; they free and resize what they hold, and write nowhere else.  In
every such run no assertion fails, the blocks lie apart, and each still contains what
its ledger says. -/
namespace WeatherStation.SmallMem
open Lib Cell ByteMemory Ledger

inductive Request where
  | malloc (size : ℕ)
  | calloc (count size : ℕ)
  | realloc (rmem : Option ℕ) (newsize : ℕ)
  | free (rmem : Option ℕ)
  | write (addr i : ℕ) (byte : UInt8)
  deriving DecidableEq, Repr

def Heap.poke (heap : Heap) (addr : ℕ) (byte : UInt8) : Heap :=
  { heap with mem := Function.update heap.mem (addr - heap.heapPtr) byte }

/-- The answer, and none where an assertion fails. -/
def serve (heap : Heap) : Request → Option (Option ℕ × Heap)
  | .malloc size => rtMalloc heap size
  | .calloc count size => rtCalloc heap count size
  | .realloc rmem newsize => rtRealloc heap rmem newsize
  | .free rmem => (rtFree heap rmem).map fun heap => (none, heap)
  | .write addr i byte => some (none, heap.poke (addr + i) byte)

def Held (blocks : List Block) (rmem : Option ℕ) : Prop :=
  ∀ addr ∈ rmem, ∃ block ∈ blocks, block.addr = addr

/-- What a user may ask for.  Sizes from 2 ^ 32 - 3 on are rounded to nothing. -/
def Allowed (blocks : List Block) : Request → Prop
  | .malloc size => size ≤ 2 ^ 32 - 4
  | .calloc count size => count * size ≤ 2 ^ 32 - 4
  | .realloc rmem newsize => Held blocks rmem ∧ newsize ≤ 2 ^ 32 - 4
  | .free rmem => Held blocks rmem
  | .write addr i _ => ∃ block ∈ blocks, block.addr = addr ∧ i < block.data.length

instance (blocks : List Block) (request : Request) : Decidable (Allowed blocks request) :=
  match request with
  | .malloc _ => inferInstanceAs (Decidable (_ ≤ _))
  | .calloc _ _ => inferInstanceAs (Decidable (_ ≤ _))
  | .realloc _ _ => inferInstanceAs (Decidable ((∀ addr ∈ _, ∃ block ∈ _, _ = _) ∧ _))
  | .free _ => inferInstanceAs (Decidable (∀ addr ∈ _, ∃ block ∈ _, _ = _))
  | .write _ _ _ => inferInstanceAs (Decidable (∃ block ∈ _, _ ∧ _))

/-- The ledger after an answer.  Of new memory it takes down what is there now, of
memory that moved what was in the old block. -/
def note (bytes : ℕ → UInt8) (blocks : List Block) : Request → Option ℕ → List Block
  | .malloc size, some p => ⟨p, slice bytes p size⟩ :: blocks
  | .calloc count size, some p => ⟨p, List.replicate (count * size) 0⟩ :: blocks
  | .realloc rmem newsize, some p =>
    let old := rmem.elim [] (dataAt blocks)
    ⟨p, (old ++ (slice bytes p newsize).drop old.length).take newsize⟩ :: rmem.elim blocks (drop blocks)
  | .realloc (some rmem) 0, none => drop blocks rmem
  | .free (some rmem), _ => drop blocks rmem
  | .write addr i byte, _ => Ledger.write blocks addr i byte
  | _, _ => blocks

/-- A run; what is not allowed is not asked for. -/
def play (heap : Heap) (blocks : List Block) : List Request → Option (Heap × List Block)
  | [] => some (heap, blocks)
  | request :: requests =>
    if Allowed blocks request then
      (serve heap request).bind fun (reply, heap) =>
        play heap (note heap.bytes blocks request reply) requests
    else play heap blocks requests

section
variable {heap heap' : Heap} {cells : List Cell} {blocks : List Block} {size n p : ℕ}

theorem rtAlign_spec (h : size ≤ 2 ^ 32 - 4) :
    size ≤ rtAlign size ∧ rtAlign size < size + 4 ∧ rtAlign size % 4 = 0 := by
  simp only [rtAlign]
  omega

theorem malloc_served (h : Sound heap cells blocks) (hsize : size ≤ 2 ^ 32 - 4) :
    ∃ reply heap' cells', rtMalloc heap size = some (reply, heap') ∧ Kin heap heap' ∧
      Sound heap' cells' (note heap'.bytes blocks (.malloc size) reply) := by
  by_cases hzero : size = 0
  · subst hzero
    exact ⟨none, heap, cells, rtMalloc_zero, ⟨rfl, rfl⟩, h⟩
  · rcases malloc_sound h hzero (le_need hsize) with hrun | ⟨p, heap', cells', hrun, hkin, hsound⟩
    · exact ⟨none, heap, cells, hrun, ⟨rfl, rfl⟩, h⟩
    · exact ⟨some p, heap', cells', hrun, hkin, hsound⟩

theorem calloc_served {count : ℕ} (h : Sound heap cells blocks) (hsize : count * size ≤ 2 ^ 32 - 4) :
    ∃ reply heap' cells', rtCalloc heap count size = some (reply, heap') ∧ Kin heap heap' ∧
      Sound heap' cells' (note heap'.bytes blocks (.calloc count size) reply) := by
  have hmod : count * size % 2 ^ 32 = count * size := Nat.mod_eq_of_lt (by omega)
  obtain ⟨reply, heap1, cells1, hrun, hkin, hsound⟩ := malloc_served h hsize
  rw [rtCalloc, hmod, hrun]
  cases reply with
  | none => exact ⟨none, heap1, cells1, rfl, hkin, hsound⟩
  | some p =>
    obtain ⟨before, n, after, rfl, hp, hfits, -⟩ := hsound.find List.mem_cons_self
    simp only [length_slice] at hp hfits
    have hoff : p - heap1.heapPtr = total before + 12 := by omega
    refine ⟨some p, _, before ++ ⟨true, n⟩ :: after, rfl, ⟨hkin.heapPtr, hkin.memSizeAligned⟩, ?_⟩
    simp only [Heap.memset, hoff]
    refine fill_sound hsound hp (by simpa using hfits) (fun i hi => blit_outside (by omega)) ?_
    rw [List.length_replicate, slice_blit (Nat.le_refl _)]
    simp

theorem free_served {rmem : Option ℕ} (h : Sound heap cells blocks) (hheld : Held blocks rmem) :
    ∃ heap' cells', rtFree heap rmem = some heap' ∧ Kin heap heap' ∧
      Sound heap' cells' (note heap'.bytes blocks (.free rmem) none) := by
  cases rmem with
  | none => exact ⟨heap, cells, rfl, ⟨rfl, rfl⟩, h⟩
  | some addr =>
    obtain ⟨block, hblock, rfl⟩ := hheld addr rfl
    obtain ⟨heap', cells', hrun, hkin, hsound⟩ := free_sound h hblock
    exact ⟨heap', cells', hrun, hkin, hsound⟩

theorem write_served {block : Block} {i : ℕ} {byte : UInt8} (h : Sound heap cells blocks)
    (hblock : block ∈ blocks) (hi : i < block.data.length) :
    Sound (heap.poke (block.addr + i) byte) cells (Ledger.write blocks block.addr i byte) := by
  obtain ⟨before, n, after, rfl, haddr, hfits, -⟩ := h.find hblock
  have hoff : block.addr + i - heap.heapPtr = total before + 12 + i := by omega
  have hbytes : (heap.poke (block.addr + i) byte).bytes =
      Function.update heap.bytes (block.addr + i) byte := by
    funext a
    simp only [Heap.bytes, Heap.poke, hoff, Function.update_apply]
    congr 1
    simp only [eq_iff_iff]
    omega
  refine ⟨h.arena.congr rfl rfl, h.formed.fill fun j hj => ?_, ?_⟩
  · exact Function.update_of_ne (by omega) ..
  · rw [hbytes]
    refine h.keeps.writeByte hblock fun place hplace hne => ?_
    have hother := other_places h.formed.toLaid hplace (haddr ▸ hne)
    omega

/-! ### `rt_realloc` -/

/-- What was in the old block, as far as the new one goes, and then whatever is there. -/
theorem moved_eq {old : List UInt8} {bytes bytes' : ℕ → UInt8} {addr q : ℕ}
    (hold : slice bytes addr old.length = old)
    (hmoved : ∀ i < min old.length n, bytes' (q + i) = bytes (addr + i)) :
    (old ++ (slice bytes' q n).drop old.length).take n = slice bytes' q n := by
  have hkept : (slice bytes' q n).take old.length = old.take n := by
    rw [← hold, length_slice, slice, slice, ← List.map_take, ← List.map_take, List.take_range,
      List.take_range, min_comm n]
    exact List.map_congr_left fun i hi => hmoved i (List.mem_range.mp hi)
  have hrest : ((slice bytes' q n).drop old.length).take (n - old.length) =
      (slice bytes' q n).drop old.length := List.take_of_length_le (by simp)
  rw [List.take_append, ← hkept, hrest, List.take_append_drop]

theorem note_refused {bytes : ℕ → UInt8} {rmem : Option ℕ} {newsize : ℕ} (h : newsize ≠ 0) :
    note bytes blocks (.realloc rmem newsize) none = blocks := by
  cases rmem with
  | none => rfl
  | some addr =>
    obtain ⟨newsize, rfl⟩ := Nat.exists_eq_succ_of_ne_zero h
    rfl

/-- `rt_realloc` of a block in use. -/
theorem rtRealloc_eq {before after : List Cell} {newsize : ℕ}
    (h : Formed heap (before ++ ⟨true, n⟩ :: after)) (hfits : rtAlign newsize ≤ heap.memSizeAligned)
    (hzero : rtAlign newsize ≠ 0) (hp : p = heap.heapPtr + total before + 12) :
    rtRealloc heap (some p) newsize =
      if n - 12 = rtAlign newsize then some (some p, heap)
      else if rtAlign newsize + 24 < n - 12 then
        (heap.shrink (total before) (n - 12) (rtAlign newsize)).map fun heap => (some p, heap)
      else
        match rtMalloc heap (rtAlign newsize) with
        | none => none
        | some (none, heap) => some (none, heap)
        | some (some nmem, heap) =>
          (rtFree (heap.memcpy (nmem - heap.heapPtr) (p - heap.heapPtr)
            (min (n - 12) (rtAlign newsize))) (some p)).map fun heap => (some nmem, heap) := by
  have hend := h.endAt
  have hsmall := h.small
  have hn := h.sizeAt
  have hptr : p - sizeofStructMem - heap.heapPtr = total before := by
    simp only [sizeofStructMem]
    omega
  have hnext : (heap.header (total before)).next = total before + n := by
    rw [h.headerAt]
    rfl
  have hroom : sub32 (sub32 (total before + n) (total before)) sizeofStructMem = n - 12 := by
    rw [sub32_of_le (show total before ≤ total before + n by omega) (by omega),
      Nat.add_sub_cancel_left, sub32_of_le (by simp only [sizeofStructMem]; omega) (by omega)]
    rfl
  have hleast : rtAlign newsize + sizeofStructMem + minSizeAligned = rtAlign newsize + 24 := rfl
  simp only [rtRealloc, hptr, hnext, hroom, hleast]
  rw [if_neg (by omega), if_neg hzero]
  exact if_neg (by omega)

/-- The block stays, and its size may be another one. -/
theorem stay_sound {before after : List Cell} {m : ℕ}
    (h : Sound heap (before ++ ⟨true, n⟩ :: after) blocks) (hm : m + 12 ≤ n)
    (hp : p = heap.heapPtr + total before + 12) :
    Sound heap (before ++ ⟨true, n⟩ :: after) (⟨p, slice heap.bytes p m⟩ :: drop blocks p) := by
  have hlaid : Laid heap (before ++ [⟨true, n⟩] ++ after) := by simpa using h.formed.toLaid
  have hc : Change heap heap before [⟨true, n⟩] [⟨true, n⟩] after :=
    ⟨.refl hlaid, by simpa using h.formed⟩
  have hsound : Sound heap (before ++ [⟨true, n⟩] ++ after) blocks := by simpa using h
  have hold : places heap.heapPtr (total before) [⟨true, n⟩] = [(p, n - 12)] := by
    simp [hp]
  simpa using hc.insert h.arena hlaid (hsound.erase hold) (by simp) hm hp

/-- The data move to a new block, and the old one is freed. -/
theorem move_sound {block : Block} {newsize : ℕ} (h : Sound heap cells blocks)
    (hblock : block ∈ blocks) (hsize : newsize ≤ 2 ^ 32 - 4) (hzero : rtAlign newsize ≠ 0)
    (hn : block.data.length ≤ n) :
    ∃ reply heap' cells', (match rtMalloc heap (rtAlign newsize) with
      | none => none
      | some (none, heap) => some (none, heap)
      | some (some nmem, heap) =>
        (rtFree (heap.memcpy (nmem - heap.heapPtr) (block.addr - heap.heapPtr)
          (min n (rtAlign newsize))) (some block.addr)).map fun heap => (some nmem, heap)) =
        some (reply, heap') ∧ Kin heap heap' ∧
      Sound heap' cells' (note heap'.bytes blocks (.realloc (some block.addr) newsize) reply) := by
  have halign := rtAlign_spec hsize
  have hnew : newsize ≠ 0 := fun h => hzero (by rw [h]; rfl)
  have hneed : rtAlign newsize ≤ need (rtAlign newsize) := le_need (by omega)
  rcases malloc_sound h hzero hneed with hrun | ⟨q, heap1, cells1, hrun, hkin1, hsound1⟩
  · refine ⟨none, heap, cells, by rw [hrun], ⟨rfl, rfl⟩, ?_⟩
    rw [note_refused hnew]
    exact h
  · obtain ⟨before, m, after, rfl, hq, hfits, -⟩ := hsound1.find List.mem_cons_self
    obtain ⟨left, k, right, -, haddr, -, hdata⟩ := hsound1.find (List.mem_cons_of_mem _ hblock)
    simp only [length_slice] at hq hfits
    have hne : q ≠ block.addr := fun heq => by
      have honce := hsound1.keeps.once
      rw [List.map_cons, List.nodup_cons] at honce
      exact honce.1 (List.mem_map.mpr ⟨block, hblock, heq.symm⟩)
    have hoff : q - heap1.heapPtr = total before + 12 := by omega
    rw [hrun]
    simp only [Heap.memcpy, hoff]
    set mem2 := blit heap1.mem (total before + 12) (min n (rtAlign newsize))
      fun i => heap1.mem (block.addr - heap1.heapPtr + i) with hmem2
    have hmoved (i : ℕ) (hi : i < min block.data.length newsize) :
        mem2 (total before + 12 + i) = heap1.bytes (block.addr + i) := by
      rw [hmem2, blit_inside (by omega), Heap.bytes]
      congr 1
      omega
    have hsound2 : Sound { heap1 with mem := mem2 } (before ++ ⟨true, m⟩ :: after)
        (⟨q, slice mem2 (total before + 12) newsize⟩ :: blocks) := by
      refine fill_sound hsound1 hq (by rw [length_slice]; omega) (fun i hi => ?_) ?_
      · exact blit_outside (by omega)
      · rw [length_slice]
    obtain ⟨heap3, cells3, hfree, hkin3, hsound3⟩ := free_sound hsound2 (List.mem_cons_of_mem _ hblock)
    rw [drop_cons hne] at hsound3
    obtain ⟨-, -, -, -, -, -, hdata3⟩ := hsound3.find List.mem_cons_self
    simp only [length_slice] at hdata3
    refine ⟨some q, heap3, cells3, by rw [hfree]; rfl, hkin1.trans ⟨hkin3.heapPtr, hkin3.memSizeAligned⟩,
      ?_⟩
    simp only [note, Option.elim_some, dataAt_eq h.keeps.once hblock, hdata3]
    rw [moved_eq hdata hmoved]
    exact hsound3

theorem realloc_served {rmem : Option ℕ} {newsize : ℕ} (h : Sound heap cells blocks)
    (hheld : Held blocks rmem) (hsize : newsize ≤ 2 ^ 32 - 4) :
    ∃ reply heap' cells', rtRealloc heap rmem newsize = some (reply, heap') ∧ Kin heap heap' ∧
      Sound heap' cells' (note heap'.bytes blocks (.realloc rmem newsize) reply) := by
  have halign := rtAlign_spec hsize
  by_cases hbig : rtAlign newsize > heap.memSizeAligned
  · refine ⟨none, heap, cells, ?_, ⟨rfl, rfl⟩, ?_⟩
    · simp only [rtRealloc, if_pos hbig]
    · rw [note_refused (by omega)]
      exact h
  by_cases hzero : newsize = 0
  · subst hzero
    obtain ⟨heap', cells', hrun, hkin, hsound⟩ := free_served h hheld
    refine ⟨none, heap', cells', ?_, hkin, ?_⟩
    · simp only [rtRealloc, if_neg hbig, if_pos (show rtAlign 0 = 0 from rfl), hrun, Option.map_some]
    · cases rmem <;> exact hsound
  have hpos : rtAlign newsize ≠ 0 := by omega
  cases rmem with
  | none =>
    have hneed : newsize ≤ need (rtAlign newsize) := halign.1.trans (le_need (by omega))
    have hrealloc : rtRealloc heap none newsize = rtMalloc heap (rtAlign newsize) := by
      simp only [rtRealloc, if_neg hbig, if_neg hpos]
    rw [hrealloc]
    rcases malloc_sound h hpos hneed with hrun | ⟨p, heap', cells', hrun, hkin, hsound⟩
    · exact ⟨none, heap, cells, by rw [hrun], ⟨rfl, rfl⟩, h⟩
    · refine ⟨some p, heap', cells', by rw [hrun], hkin, ?_⟩
      rw [note, Option.elim_none, List.length_nil, List.drop_zero, List.nil_append,
        List.take_of_length_le (by simp)]
      exact hsound
  | some addr =>
    obtain ⟨block, hblock, rfl⟩ := hheld addr rfl
    obtain ⟨before, n, after, rfl, haddr, hfits, hdata⟩ := h.find hblock
    have hold := dataAt_eq h.keeps.once hblock
    rw [rtRealloc_eq h.formed (by omega) hpos haddr]
    have hn := h.formed.sizeAt
    by_cases hsame : n - 12 = rtAlign newsize
    · have hsound := stay_sound h (show newsize + 12 ≤ n by omega) haddr
      refine ⟨some block.addr, heap, before ++ ⟨true, n⟩ :: after, if_pos hsame, ⟨rfl, rfl⟩, ?_⟩
      simp only [note, Option.elim_some, hold]
      rw [moved_eq hdata fun i _ => rfl]
      exact hsound
    rw [if_neg hsame]
    by_cases hless : rtAlign newsize + 24 < n - 12
    · obtain ⟨heap', cells', hrun, hkin, hsound, hkept⟩ := shrink_sound h
        (show 16 ≤ rtAlign newsize + 12 ∧ (rtAlign newsize + 12) % 4 = 0 by omega)
        (by omega) (show newsize + 12 ≤ rtAlign newsize + 12 by omega)
      simp only [← haddr, Nat.add_sub_cancel] at hrun hsound hkept
      refine ⟨some block.addr, heap', cells', ?_, hkin, ?_⟩
      · rw [if_pos hless, hrun]
        rfl
      · simp only [note, Option.elim_some, hold]
        rw [moved_eq hdata fun i hi => hkept i (by omega)]
        exact hsound
    · rw [if_neg hless]
      exact move_sound h hblock hsize hpos (by omega)

/-! ### Every run -/

theorem serve_sound {request : Request} (h : Sound heap cells blocks)
    (hallowed : Allowed blocks request) :
    ∃ reply heap' cells', serve heap request = some (reply, heap') ∧ Kin heap heap' ∧
      Sound heap' cells' (note heap'.bytes blocks request reply) := by
  cases request with
  | malloc size =>
    obtain ⟨reply, heap', cells', hrun, hkin, hsound⟩ := malloc_served h hallowed
    exact ⟨reply, heap', cells', hrun, hkin, hsound⟩
  | calloc count size =>
    obtain ⟨reply, heap', cells', hrun, hkin, hsound⟩ := calloc_served h hallowed
    exact ⟨reply, heap', cells', hrun, hkin, hsound⟩
  | realloc rmem newsize => exact realloc_served h hallowed.1 hallowed.2
  | free rmem =>
    obtain ⟨heap', cells', hrun, hkin, hsound⟩ := free_served h hallowed
    refine ⟨none, heap', cells', ?_, hkin, hsound⟩
    rw [serve, hrun]
    rfl
  | write addr i byte =>
    obtain ⟨block, hblock, rfl, hi⟩ := hallowed
    exact ⟨none, _, cells, rfl, ⟨rfl, rfl⟩, write_served h hblock hi⟩

theorem play_sound (h : Sound heap cells blocks) (requests : List Request) :
    ∃ heap' blocks' cells', play heap blocks requests = some (heap', blocks') ∧ Kin heap heap' ∧
      Sound heap' cells' blocks' := by
  induction requests generalizing heap cells blocks with
  | nil => exact ⟨heap, blocks, cells, rfl, ⟨rfl, rfl⟩, h⟩
  | cons request requests ih =>
    rw [play]
    split
    case isTrue hallowed =>
      obtain ⟨reply, heap1, cells1, hrun, hkin, hsound⟩ := serve_sound h hallowed
      obtain ⟨heap', blocks', cells', hplay, hkin', hsound'⟩ := ih hsound
      exact ⟨heap', blocks', cells', by rw [hrun]; exact hplay, hkin.trans hkin', hsound'⟩
    case isFalse => exact ih h

theorem init_clear {beginAddr endAddr : ℕ} {junk : ℕ → UInt8}
    (hinit : rtSystemHeapInit beginAddr endAddr junk = some heap) :
    ∃ heap0, heap = Heap.clear heap0 ∧ heap0.lfree = 0 ∧ heap0.usedMem = 0 ∧
      heap0.heapPtr % 4 = 0 ∧ heap0.memSizeAligned % 4 = 0 ∧
      heap0.heapPtr + heap0.heapEnd + 12 ≤ endAddr := by
  simp only [rtSystemHeapInit] at hinit
  split at hinit
  case isFalse => nomatch hinit
  case isTrue hfits =>
    refine ⟨_, (Option.some.inj hinit).symm, rfl, rfl, ?_, ?_, ?_⟩
    all_goals
      simp only [Heap.heapEnd, sizeofStructMem, rtAlign, rtAlignDown] at hfits ⊢
      omega

theorem init_sound {beginAddr endAddr : ℕ} {junk : ℕ → UInt8}
    (hinit : rtSystemHeapInit beginAddr endAddr junk = some heap) (hend : endAddr < 2 ^ 32)
    (hroom : 12 ≤ heap.memSizeAligned) : Sound heap [⟨false, heap.heapEnd⟩] [] := by
  obtain ⟨heap0, rfl, hlfree, hused, hptr, hsize, hbound⟩ := init_clear hinit
  rw [clear_memSizeAligned] at hroom
  have hheapEnd : heap0.clear.heapEnd = heap0.heapEnd := by
    rw [Heap.heapEnd, clear_memSizeAligned, Heap.heapEnd]
  have hdef : heap0.heapEnd = heap0.memSizeAligned + 12 := rfl
  refine ⟨⟨?_, ?_, ?_⟩, ?_, ?_, ?_, List.nodup_nil⟩
  · rwa [clear_memSizeAligned]
  · rwa [clear_heapPtr]
  · rw [clear_heapPtr, hheapEnd]
    omega
  · rw [hheapEnd]
    exact clear_formed (by omega) (by omega) hlfree hused
  · simp
  · simp

/-- What the users of a heap rely on. -/
structure Safe (start heap : Heap) (blocks : List Block) : Prop where
  aligned : ∀ block ∈ blocks, block.addr % rtAlignSize = 0
  inside : ∀ block ∈ blocks, start.heapPtr + sizeofStructMem ≤ block.addr ∧
    block.addr + block.data.length ≤ start.heapPtr + start.heapEnd
  apart : blocks.Pairwise fun a b => a.addr + a.data.length + sizeofStructMem ≤ b.addr ∨
    b.addr + b.data.length + sizeofStructMem ≤ a.addr
  kept : ∀ block ∈ blocks, slice heap.bytes block.addr block.data.length = block.data

theorem Sound.safe {start : Heap} (h : Sound heap cells blocks) (hkin : Kin start heap) :
    Safe start heap blocks where
  aligned block hblock := by
    obtain ⟨before, n, after, rfl, haddr, -⟩ := h.find hblock
    have := total_mod h.formed.toLaid
    have := h.arena.aligned
    rw [rtAlignSize]
    omega
  inside block hblock := by
    obtain ⟨before, n, after, rfl, haddr, hfits, -⟩ := h.find hblock
    have hend := h.formed.endAt
    simp only [Heap.heapEnd, hkin.heapPtr, hkin.memSizeAligned, sizeofStructMem] at haddr hend ⊢
    omega
  apart := h.keeps.apart (places_pairwise h.formed.wide)
  kept block hblock := by
    obtain ⟨-, -, -, -, -, -, hdata⟩ := h.find hblock
    exact hdata

/-- In every run from a fresh heap no assertion fails, the blocks lie apart inside the
heap, and each contains what was written to it. -/
theorem runs_safe {beginAddr endAddr : ℕ} {junk : ℕ → UInt8}
    (hinit : rtSystemHeapInit beginAddr endAddr junk = some heap) (hend : endAddr < 2 ^ 32)
    (hroom : 12 ≤ heap.memSizeAligned) (requests : List Request) :
    ∃ heap' blocks, play heap [] requests = some (heap', blocks) ∧ Safe heap heap' blocks := by
  obtain ⟨heap', blocks, cells, hplay, hkin, hsound⟩ :=
    play_sound (init_sound hinit hend hroom) requests
  exact ⟨heap', blocks, hplay, hsound.safe hkin⟩

/-- A heap of 1024 bytes from 0x20000000 on, in a memory of zeros. -/
def smallHeap : Heap := Heap.clear ⟨0x20000000, 1000, fun _ => 0, 0, 0, 0⟩

theorem smallHeap_init :
    rtSystemHeapInit 0x20000000 0x20000400 (fun _ => 0) = some smallHeap := by
  simp [rtSystemHeapInit, rtAlign, rtAlignDown, sizeofStructMem, smallHeap]

theorem smallHeap_room : 12 ≤ smallHeap.memSizeAligned := by
  rw [smallHeap, clear_memSizeAligned]
  decide

theorem smallHeap_safe : ∃ heap blocks,
    play smallHeap [] [.malloc 20, .write 0x2000000c 19 7, .realloc (some 0x2000000c) 200,
      .free none] = some (heap, blocks) ∧ Safe smallHeap heap blocks :=
  runs_safe smallHeap_init (by decide) smallHeap_room _

end
end WeatherStation.SmallMem
