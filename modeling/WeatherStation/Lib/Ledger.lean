import Mathlib.Data.List.Nodup
import Mathlib.Data.List.Pairwise
import WeatherStation.Lib.ByteMemory

/-! Which blocks of a memory were given out, and what they contain.  A ledger is kept
by those who use the memory; a list of places says where the blocks really are. -/
namespace WeatherStation.Lib

structure Block where
  addr : ℕ
  data : List UInt8
  deriving DecidableEq, Repr

namespace Ledger

def drop (blocks : List Block) (addr : ℕ) : List Block :=
  blocks.filter fun block => block.addr ≠ addr

/-- The contents of the block at an address. -/
def dataAt (blocks : List Block) (addr : ℕ) : List UInt8 :=
  (blocks.find? fun block => block.addr = addr).elim [] Block.data

/-- One byte of a block is written. -/
def write (blocks : List Block) (addr i : ℕ) (byte : UInt8) : List Block :=
  blocks.map fun block =>
    if block.addr = addr then { block with data := block.data.set i byte } else block

/-- A block is at its place, with its contents. -/
structure Holds (mem : ℕ → UInt8) (place size : ℕ) (block : Block) : Prop where
  addr : block.addr = place
  fits : block.data.length ≤ size
  data : ByteMemory.slice mem place block.data.length = block.data

/-- Places with their sizes; each has one block, and each block a place. -/
structure Keeps (mem : ℕ → UInt8) (places : List (ℕ × ℕ)) (blocks : List Block) : Prop where
  held : ∀ block ∈ blocks, ∃ place ∈ places, Holds mem place.1 place.2 block
  owned : ∀ place ∈ places, ∃ block ∈ blocks, block.addr = place.1
  once : (blocks.map Block.addr).Nodup

/-- The memory is the same at these places. -/
def Same (mem mem' : ℕ → UInt8) (places : List (ℕ × ℕ)) : Prop :=
  ∀ place ∈ places, ∀ i, place.1 ≤ i → i < place.1 + place.2 → mem' i = mem i

variable {mem mem' : ℕ → UInt8} {places left right : List (ℕ × ℕ)} {blocks : List Block}
  {block : Block} {place new old : ℕ × ℕ} {addr i : ℕ} {byte : UInt8}

theorem Holds.same (h : Holds mem place.1 place.2 block)
    (hsame : ∀ i, place.1 ≤ i → i < place.1 + place.2 → mem' i = mem i) :
    Holds mem' place.1 place.2 block where
  addr := h.addr
  fits := h.fits
  data := by
    have := h.fits
    rw [ByteMemory.slice_congr fun i hi hlt => hsame i hi (by omega), h.data]

theorem Keeps.congr (h : Keeps mem places blocks) (hsame : Same mem mem' places) :
    Keeps mem' places blocks where
  held block hblock := by
    obtain ⟨place, hplace, hholds⟩ := h.held block hblock
    exact ⟨place, hplace, hholds.same (hsame place hplace)⟩
  owned := h.owned
  once := h.once

/-- A block is given out. -/
theorem Keeps.insert (h : Keeps mem (left ++ right) blocks)
    (hplaces : ((left ++ new :: right).map Prod.fst).Nodup) (hnew : Holds mem new.1 new.2 block) :
    Keeps mem (left ++ new :: right) (block :: blocks) where
  held other hother := by
    rcases List.mem_cons.mp hother with rfl | hother
    · exact ⟨new, by simp, hnew⟩
    · obtain ⟨place, hplace, hholds⟩ := h.held other hother
      exact ⟨place, by simp at hplace ⊢; tauto, hholds⟩
  owned place hplace := by
    by_cases hsame : place = new
    · exact ⟨block, List.mem_cons_self, by rw [hsame, hnew.addr]⟩
    · obtain ⟨other, hother, haddr⟩ := h.owned place (by simp [hsame] at hplace ⊢; exact hplace)
      exact ⟨other, List.mem_cons_of_mem _ hother, haddr⟩
  once := by
    refine List.nodup_cons.mpr ⟨fun hmem => ?_, h.once⟩
    obtain ⟨other, hother, haddr⟩ := List.mem_map.mp hmem
    obtain ⟨place, hplace, hholds⟩ := h.held other hother
    have hfresh := (List.nodup_middle.mp (by simpa using hplaces)).notMem
    refine hfresh ?_
    rw [← hnew.addr, ← haddr, hholds.addr]
    simpa using List.mem_map_of_mem (f := Prod.fst) hplace

/-- A block is given back. -/
theorem Keeps.erase (h : Keeps mem (left ++ old :: right) blocks)
    (hplaces : ((left ++ old :: right).map Prod.fst).Nodup) :
    Keeps mem (left ++ right) (drop blocks old.1) where
  held block hblock := by
    obtain ⟨hblock, hne⟩ := List.mem_filter.mp hblock
    obtain ⟨place, hplace, hholds⟩ := h.held block hblock
    refine ⟨place, ?_, hholds⟩
    have hother : place ≠ old := by
      rintro rfl
      simp [hholds.addr] at hne
    simp [hother] at hplace ⊢
    exact hplace
  owned place hplace := by
    obtain ⟨block, hblock, haddr⟩ := h.owned place (by simp at hplace ⊢; tauto)
    refine ⟨block, List.mem_filter.mpr ⟨hblock, ?_⟩, haddr⟩
    have hfresh := (List.nodup_middle.mp (by simpa using hplaces)).notMem
    have hne : place.1 ≠ old.1 := fun heq => hfresh (by
      rw [← heq]
      simpa using List.mem_map_of_mem (f := Prod.fst) hplace)
    simpa [haddr] using hne
  once := (List.filter_sublist.map Block.addr).nodup h.once

theorem dataAt_eq (h : (blocks.map Block.addr).Nodup) (hblock : block ∈ blocks) :
    dataAt blocks block.addr = block.data := by
  cases hfound : blocks.find? fun other => other.addr = block.addr with
  | none => simpa using List.find?_eq_none.mp hfound block hblock
  | some other =>
    have haddr : other.addr = block.addr := by simpa using List.find?_some hfound
    have hsame := List.inj_on_of_nodup_map h (List.mem_of_find?_eq_some hfound) hblock haddr
    rw [dataAt, hfound, hsame]
    rfl

theorem drop_cons (h : block.addr ≠ addr) :
    drop (block :: blocks) addr = block :: drop blocks addr := by
  simp [drop, h]

/-- The newest block is filled with something else. -/
theorem Keeps.refill {block' : Block} (h : Keeps mem places (block :: blocks))
    (hsame : ∀ place ∈ places, place.1 ≠ block.addr →
      ∀ i, place.1 ≤ i → i < place.1 + place.2 → mem' i = mem i)
    (hplace : place ∈ places) (hnew : Holds mem' place.1 place.2 block')
    (haddr : block'.addr = block.addr) : Keeps mem' places (block' :: blocks) where
  held other hother := by
    have honce := h.once
    rw [List.map_cons, List.nodup_cons] at honce
    rcases List.mem_cons.mp hother with rfl | hother
    · exact ⟨place, hplace, hnew⟩
    · obtain ⟨place', hplace', hholds⟩ := h.held other (List.mem_cons_of_mem _ hother)
      refine ⟨place', hplace', hholds.same (hsame place' hplace' fun heq => honce.1 ?_)⟩
      rw [← heq, ← hholds.addr]
      exact List.mem_map_of_mem hother
  owned place' hplace' := by
    obtain ⟨other, hother, hplace⟩ := h.owned place' hplace'
    rcases List.mem_cons.mp hother with rfl | hother
    · exact ⟨block', List.mem_cons_self, haddr.trans hplace⟩
    · exact ⟨other, List.mem_cons_of_mem _ hother, hplace⟩
  once := by simpa [haddr] using h.once

/-- A byte of a block is written, outside the other places. -/
theorem Keeps.writeByte (h : Keeps mem places blocks) (hblock : block ∈ blocks)
    (hsep : ∀ place ∈ places, place.1 ≠ block.addr →
      block.addr + i < place.1 ∨ place.1 + place.2 ≤ block.addr + i) :
    Keeps (Function.update mem (block.addr + i) byte) places
      (write blocks block.addr i byte) where
  held other hother := by
    obtain ⟨old, hold, rfl⟩ := List.mem_map.mp hother
    obtain ⟨place, hplace, hholds⟩ := h.held old hold
    refine ⟨place, hplace, ?_⟩
    by_cases haddr : old.addr = block.addr
    · obtain rfl : old = block := List.inj_on_of_nodup_map h.once hold hblock haddr
      rw [if_pos rfl]
      refine ⟨hholds.addr, by simpa using hholds.fits, ?_⟩
      rw [← hholds.addr, List.length_set, ByteMemory.slice_update, hholds.addr, hholds.data]
    · rw [if_neg haddr]
      refine hholds.same fun j hj hlt => Function.update_of_ne ?_ ..
      have := hsep place hplace (hholds.addr ▸ haddr)
      omega
  owned place hplace := by
    obtain ⟨other, hother, haddr⟩ := h.owned place hplace
    refine ⟨_, List.mem_map_of_mem hother, ?_⟩
    split <;> exact haddr
  once := by
    have haddrs : (write blocks block.addr i byte).map Block.addr = blocks.map Block.addr := by
      rw [write, List.map_map]
      refine List.map_congr_left fun other _ => ?_
      simp only [Function.comp_apply]
      split <;> rfl
    rw [haddrs]
    exact h.once

/-- Blocks at places that lie apart lie apart. -/
theorem Keeps.apart {gap : ℕ} (h : Keeps mem places blocks)
    (hplaces : places.Pairwise fun a b => a.1 + a.2 + gap ≤ b.1) :
    blocks.Pairwise fun a b =>
      a.addr + a.data.length + gap ≤ b.addr ∨ b.addr + b.data.length + gap ≤ a.addr := by
  let R (a b : ℕ × ℕ) : Prop := a.1 + a.2 + gap ≤ b.1 ∨ b.1 + b.2 + gap ≤ a.1
  have hsymm : Std.Symm R := ⟨fun _ _ => Or.symm⟩
  have hboth : places.Pairwise R := hplaces.imp .inl
  refine (List.pairwise_map.mp h.once).imp_of_mem fun {a b} ha hb hne => ?_
  obtain ⟨pa, hpa, ha⟩ := h.held a ha
  obtain ⟨pb, hpb, hb⟩ := h.held b hb
  have hdiffer : pa ≠ pb := fun heq => hne (by rw [ha.addr, hb.addr, heq])
  have hapart : R pa pb := hboth.forall hpa hpb hdiffer
  have := ha.fits
  have := hb.fits
  rw [ha.addr, hb.addr]
  rcases hapart with hapart | hapart <;> omega

end Ledger
end WeatherStation.Lib
