import WeatherStation.Lib.ByteMemory

/-! The small memory allocator of rt-thread/src/mem.c.  Offsets count from `heap_ptr`;
a header is in the twelve bytes before the data of its block. -/
namespace WeatherStation.SmallMem
open Lib

def heapMagic : ℕ := 0x1ea0

/-- `struct heap_mem`, the used flag as a truth value. -/
structure HeapMem where
  magic : ℕ
  used : Bool
  next : ℕ
  prev : ℕ
  deriving DecidableEq, Repr

def rtAlignSize : ℕ := 4
def minSizeAligned : ℕ := 12
def sizeofStructMem : ℕ := 12

/-- `RT_ALIGN` on 32 bits. -/
def rtAlign (size : ℕ) : ℕ := (size + 3) % 2 ^ 32 / 4 * 4

def rtAlignDown (size : ℕ) : ℕ := size / 4 * 4

/-- The difference of two unsigned words. -/
def sub32 (a b : ℕ) : ℕ := (a + 2 ^ 32 - b) % 2 ^ 32

/-- The global variables of mem.c and the memory. -/
structure Heap where
  heapPtr : ℕ
  memSizeAligned : ℕ
  /-- `heap_ptr[]` -/
  mem : ℕ → UInt8
  lfree : ℕ
  usedMem : ℕ
  maxMem : ℕ

namespace Heap

/-- The offset of `heap_end`. -/
def heapEnd (heap : Heap) : ℕ := heap.memSizeAligned + sizeofStructMem

def header (heap : Heap) (ptr : ℕ) : HeapMem where
  magic := ByteMemory.load heap.mem ptr 2
  used := ByteMemory.load heap.mem (ptr + 2) 2 != 0
  next := ByteMemory.load heap.mem (ptr + 4) 4
  prev := ByteMemory.load heap.mem (ptr + 8) 4

/-- One field of a header, or any other bytes. -/
def set (heap : Heap) (addr n value : ℕ) : Heap :=
  { heap with mem := ByteMemory.store heap.mem addr n value }

def setMagic (heap : Heap) (ptr : ℕ) : Heap := heap.set ptr 2 heapMagic

def setUsed (heap : Heap) (ptr : ℕ) (used : Bool) : Heap := heap.set (ptr + 2) 2 used.toNat

def setNext (heap : Heap) (ptr next : ℕ) : Heap := heap.set (ptr + 4) 4 next

def setPrev (heap : Heap) (ptr prev : ℕ) : Heap := heap.set (ptr + 8) 4 prev

/-- A whole header that is not in use. -/
def setHeader (heap : Heap) (ptr next prev : ℕ) : Heap :=
  (((heap.setMagic ptr).setUsed ptr false).setNext ptr next).setPrev ptr prev

/-- The block at `b` becomes a part of the one at `a`. -/
def combine (heap : Heap) (a b : ℕ) : Heap :=
  let heap := if heap.lfree = b then { heap with lfree := a } else heap
  let heap := heap.setNext a (heap.header b).next
  heap.setPrev (heap.header b).next a

def plugForward (heap : Heap) (mem : ℕ) : Heap :=
  let nmem := (heap.header mem).next
  if mem ≠ nmem ∧ !(heap.header nmem).used ∧ nmem ≠ heap.heapEnd then heap.combine mem nmem
  else heap

def plugBackward (heap : Heap) (mem : ℕ) : Heap :=
  let pmem := (heap.header mem).prev
  if pmem ≠ mem ∧ !(heap.header pmem).used then heap.combine pmem mem else heap

/-- None where an assertion fails; an offset is never before `heap_ptr`. -/
def plugHoles (heap : Heap) (mem : ℕ) : Option Heap :=
  if mem ≥ heap.heapEnd ∨ (heap.header mem).used then none
  else some ((heap.plugForward mem).plugBackward mem)

end Heap

/-- One free block, and the header at `heap_end`. -/
def Heap.clear (heap : Heap) : Heap :=
  let next := heap.heapEnd
  ((heap.setHeader 0 next 0).setHeader next next next).setUsed next true

/-- `rt_system_heap_init`; none where it reports an error. -/
def rtSystemHeapInit (beginAddr endAddr : ℕ) (junk : ℕ → UInt8) : Option Heap :=
  let beginAlign := rtAlign beginAddr
  let endAlign := rtAlignDown endAddr
  if endAlign > 2 * sizeofStructMem ∧ endAlign - 2 * sizeofStructMem ≥ beginAlign then
    let memSizeAligned := endAlign - beginAlign - 2 * sizeofStructMem
    some (Heap.clear ⟨beginAlign, memSizeAligned, junk, 0, 0, 0⟩)
  else none

namespace Heap

def account (heap : Heap) (size : ℕ) : Heap :=
  let usedMem := heap.usedMem + size
  { heap with usedMem, maxMem := max heap.maxMem usedMem }

/-- A new unused block at `ptr2`, between `mem` and the block after it. -/
def insertAfter (heap : Heap) (mem ptr2 : ℕ) : Heap :=
  let next := (heap.header mem).next
  let heap := (heap.setHeader ptr2 next mem).setNext mem ptr2
  if next ≠ heap.heapEnd then heap.setPrev next ptr2 else heap

/-- The first loop of `rt_malloc`. -/
def findFit (heap : Heap) (size : ℕ) : ℕ → ℕ → Option ℕ
  | 0, _ => none
  | fuel + 1, ptr =>
    if ptr < sub32 heap.memSizeAligned size then
      let mem := heap.header ptr
      if !mem.used ∧ sub32 mem.next (ptr + sizeofStructMem) ≥ size then some ptr
      else findFit heap size fuel mem.next
    else none

/-- The second loop: the lowest block from `lfree` on that is not used. -/
def nextFree (heap : Heap) : ℕ → ℕ → ℕ
  | 0, lfree => lfree
  | fuel + 1, lfree =>
    if (heap.header lfree).used ∧ lfree ≠ heap.heapEnd then
      nextFree heap fuel (heap.header lfree).next
    else lfree

/-- More than either loop can take. -/
def fuel (heap : Heap) : ℕ := heap.heapEnd + 1

/-- The block that has been found becomes a used one, cut in two if it is long enough. -/
def occupy (heap : Heap) (ptr size : ℕ) : Heap :=
  let room := sub32 (heap.header ptr).next (ptr + sizeofStructMem)
  if room ≥ size + sizeofStructMem + minSizeAligned then
    ((heap.insertAfter ptr (ptr + sizeofStructMem + size)).setUsed ptr true).account
      (size + sizeofStructMem)
  else (heap.setUsed ptr true).account (sub32 (heap.header ptr).next ptr)

/-- If the lowest free block was taken, the next one is looked for. -/
def settle (heap : Heap) (ptr : ℕ) : Heap :=
  if ptr = heap.lfree then { heap with lfree := heap.nextFree heap.fuel heap.lfree } else heap

def take (heap : Heap) (ptr size : ℕ) : Heap := ((heap.occupy ptr size).setMagic ptr).settle ptr

/-- The assertions of `rt_malloc` on the block that it took and on `lfree`, which is
looked at only if it was moved. -/
def TakeAsserts (heap taken : Heap) (ptr size : ℕ) : Prop :=
  (ptr = heap.lfree → taken.lfree = taken.heapEnd ∨ (taken.header taken.lfree).used = false) ∧
    ptr + sizeofStructMem + size ≤ taken.heapEnd ∧
    (taken.heapPtr + ptr + sizeofStructMem) % rtAlignSize = 0 ∧
    (taken.heapPtr + ptr) % rtAlignSize = 0

instance (heap taken : Heap) (ptr size : ℕ) : Decidable (TakeAsserts heap taken ptr size) :=
  inferInstanceAs (Decidable ((_ → _ ∨ _) ∧ _))

end Heap

/-- The address of the data, if there is room, and the heap; none where an assertion fails. -/
def rtMalloc (heap : Heap) (size : ℕ) : Option (Option ℕ × Heap) :=
  if size = 0 then some (none, heap)
  else
    let size := rtAlign size
    if size > heap.memSizeAligned then some (none, heap)
    else
      let size := max size minSizeAligned
      match heap.findFit size heap.fuel heap.lfree with
      | none => some (none, heap)
      | some ptr =>
        let taken := heap.take ptr size
        if heap.TakeAsserts taken ptr size then
          some (some (heap.heapPtr + ptr + sizeofStructMem), taken)
        else none

def Heap.release (heap : Heap) (mem : ℕ) : Heap :=
  let heap := (heap.setUsed mem false).setMagic mem
  let heap := if mem < heap.lfree then { heap with lfree := mem } else heap
  { heap with usedMem := sub32 heap.usedMem (sub32 (heap.header mem).next mem) }

/-- None where an assertion fails. -/
def rtFree (heap : Heap) (rmem : Option ℕ) : Option Heap :=
  match rmem with
  | none => some heap
  | some rmem =>
    if rmem % rtAlignSize ≠ 0 ∨ rmem < heap.heapPtr ∨ rmem ≥ heap.heapPtr + heap.heapEnd then none
    -- then `mem >= heap_ptr` fails in `plug_holes`, if nothing fails before
    else if rmem < heap.heapPtr + sizeofStructMem then none
    else
      let mem := rmem - sizeofStructMem - heap.heapPtr
      let header := heap.header mem
      if !header.used ∨ header.magic ≠ heapMagic then none
      else (heap.release mem).plugHoles mem

def Heap.memcpy (heap : Heap) (dst src n : ℕ) : Heap :=
  { heap with mem := ByteMemory.blit heap.mem dst n fun i => heap.mem (src + i) }

def Heap.memset (heap : Heap) (dst : ℕ) (byte : UInt8) (n : ℕ) : Heap :=
  { heap with mem := ByteMemory.blit heap.mem dst n fun _ => byte }

/-- The end of a block becomes a block of its own. -/
def Heap.cut (heap : Heap) (ptr size newsize : ℕ) : Heap :=
  let ptr2 := ptr + sizeofStructMem + newsize
  let heap := heap.insertAfter ptr ptr2
  let heap := if ptr2 < heap.lfree then { heap with lfree := ptr2 } else heap
  { heap with usedMem := sub32 heap.usedMem (sub32 size newsize) }

def Heap.shrink (heap : Heap) (ptr size newsize : ℕ) : Option Heap :=
  (heap.cut ptr size newsize).plugHoles (ptr + sizeofStructMem + newsize)

/-- The address afterwards and the heap; none where an assertion fails. -/
def rtRealloc (heap : Heap) (rmem : Option ℕ) (newsize : ℕ) : Option (Option ℕ × Heap) :=
  let newsize := rtAlign newsize
  if newsize > heap.memSizeAligned then some (none, heap)
  else if newsize = 0 then (rtFree heap rmem).map fun heap => (none, heap)
  else
    match rmem with
    | none => rtMalloc heap newsize
    | some rmem =>
      if rmem < heap.heapPtr ∨ rmem ≥ heap.heapPtr + heap.heapEnd then some (some rmem, heap)
      else
        let ptr := rmem - sizeofStructMem - heap.heapPtr
        let size := sub32 (sub32 (heap.header ptr).next ptr) sizeofStructMem
        if size = newsize then some (some rmem, heap)
        else if newsize + sizeofStructMem + minSizeAligned < size then
          (heap.shrink ptr size newsize).map fun heap => (some rmem, heap)
        else
          match rtMalloc heap newsize with
          | none => none
          | some (none, heap) => some (none, heap)
          | some (some nmem, heap) =>
            let heap := heap.memcpy (nmem - heap.heapPtr) (rmem - heap.heapPtr) (min size newsize)
            (rtFree heap (some rmem)).map fun heap => (some nmem, heap)

/-- None where an assertion fails. -/
def rtCalloc (heap : Heap) (count size : ℕ) : Option (Option ℕ × Heap) :=
  let size := count * size % 2 ^ 32
  match rtMalloc heap size with
  | none => none
  | some (none, heap) => some (none, heap)
  | some (some p, heap) => some (some p, heap.memset (p - heap.heapPtr) 0 size)

end WeatherStation.SmallMem
