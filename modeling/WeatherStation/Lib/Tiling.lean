import Mathlib.Data.List.Basic
import Mathlib.Data.List.Chain
import Mathlib.Data.List.Pairwise

/-! Memory cut into cells that lie one after the other.  Each cell begins with a
header that names the offsets of its neighbours; what such headers represent is a
list of cells, and changing a few headers changes the list in one place. -/
namespace WeatherStation.Lib

structure Cell where
  used : Bool
  size : ℕ
  deriving DecidableEq, Repr

namespace Cell

def total : List Cell → ℕ
  | [] => 0
  | cell :: cells => cell.size + total cells

/-- The offset of the last cell, or what is before the first one. -/
def last : ℕ → ℕ → List Cell → ℕ
  | _, prev, [] => prev
  | off, _, cell :: cells => last (off + cell.size) off cells

/-- The used cells, as offsets and sizes. -/
def live : ℕ → List Cell → List (ℕ × ℕ)
  | _, [] => []
  | off, cell :: cells =>
    (if cell.used then [(off, cell.size)] else []) ++ live (off + cell.size) cells

section
variable {off prev n : ℕ} {cell : Cell} {cells left right : List Cell}

@[simp] theorem total_nil : total [] = 0 := rfl

@[simp] theorem total_cons : total (cell :: cells) = cell.size + total cells := rfl

@[simp] theorem total_append : total (left ++ right) = total left + total right := by
  induction left with
  | nil => simp
  | cons cell left ih => simp [ih, Nat.add_assoc]

theorem last_append : last off prev (left ++ right) =
    last (off + total left) (last off prev left) right := by
  induction left generalizing off prev with
  | nil => rfl
  | cons cell left ih => simp [last, ih, Nat.add_assoc]

theorem live_append : live off (left ++ right) = live off left ++ live (off + total left) right := by
  induction left generalizing off with
  | nil => rfl
  | cons cell left ih => simp [live, ih, Nat.add_assoc]

/-- A used cell is where a split of the list says it is. -/
theorem mem_live_iff {span : ℕ × ℕ} : span ∈ live off cells ↔
    ∃ before after, cells = before ++ ⟨true, span.2⟩ :: after ∧ span.1 = off + total before := by
  constructor
  · intro h
    induction cells generalizing off with
    | nil => nomatch h
    | cons cell cells ih =>
      rcases List.mem_append.mp h with hhead | htail
      · rcases cell with ⟨_ | _, size⟩
        · nomatch hhead
        · obtain rfl := List.mem_singleton.mp hhead
          exact ⟨[], cells, rfl, rfl⟩
      · obtain ⟨before, after, rfl, hoff⟩ := ih htail
        exact ⟨cell :: before, after, rfl, by rw [hoff, total_cons, Nat.add_assoc]⟩
  · rintro ⟨before, after, rfl, hoff⟩
    rw [live_append]
    exact List.mem_append_right _ (List.mem_append_left _ (by simp [← hoff]))

end

/-- Two cells of one list are the same, or one lies before the other. -/
theorem compare_splits {x y : Cell} {before after before' after' : List Cell}
    (h : before ++ x :: after = before' ++ y :: after') :
    (before = before' ∧ x = y) ∨ (∃ mid, before' = before ++ x :: mid) ∨
      ∃ mid, before = before' ++ y :: mid := by
  rcases List.append_eq_append_iff.mp h with ⟨mid, rfl, hmid⟩ | ⟨mid, rfl, hmid⟩
  · cases mid with
    | nil => exact .inl ⟨by simp, (List.cons.inj hmid).1⟩
    | cons cell mid =>
      obtain rfl := (List.cons.inj hmid).1
      exact .inr (.inl ⟨mid, rfl⟩)
  · cases mid with
    | nil => exact .inl ⟨by simp, (List.cons.inj hmid).1.symm⟩
    | cons cell mid =>
      obtain rfl := (List.cons.inj hmid).1
      exact .inr (.inr ⟨mid, rfl⟩)

/-! ### Gaps -/

/-- One of two neighbours is in use. -/
def Apart (left right : Cell) : Prop := left.used ∨ right.used

section
variable {pos len : ℕ} {cells : List Cell}

theorem locate (h : pos < total cells) : ∃ before cell after, cells = before ++ cell :: after ∧
    total before ≤ pos ∧ pos < total before + cell.size := by
  induction cells generalizing pos with
  | nil => exact absurd h (Nat.not_lt_zero pos)
  | cons cell cells ih =>
    rw [total_cons] at h
    by_cases hfirst : pos < cell.size
    · exact ⟨[], cell, cells, rfl, Nat.zero_le pos, by simpa using hfirst⟩
    · obtain ⟨before, other, after, rfl, hle, hlt⟩ := ih (show pos - cell.size < total cells by omega)
      refine ⟨cell :: before, other, after, rfl, ?_, ?_⟩
      · rw [total_cons]
        omega
      · rw [total_cons]
        omega

/-- Where no two unused cells meet, a stretch without used cells lies in one unused cell. -/
theorem gap_in_cell (hapart : cells.IsChain Apart) (hsizes : ∀ cell ∈ cells, 0 < cell.size)
    (hlen : 0 < len) (hend : pos + len ≤ total cells)
    (hclear : ∀ before n after, cells = before ++ ⟨true, n⟩ :: after →
      pos + len ≤ total before ∨ total before + n ≤ pos) :
    ∃ before n after, cells = before ++ ⟨false, n⟩ :: after ∧ total before ≤ pos ∧
      pos + len ≤ total before + n := by
  obtain ⟨before, ⟨used, n⟩, after, hcells, hle, hlt⟩ := locate (show pos < total cells by omega)
  simp only at hlt
  cases used with
  | true =>
    have := hclear before n after hcells
    omega
  | false =>
    refine ⟨before, n, after, hcells, hle, ?_⟩
    cases after with
    | nil =>
      rw [hcells] at hend
      simpa using hend
    | cons next after =>
      -- the cell after it is in use, so the stretch ends before that one
      obtain ⟨used, m⟩ := next
      rw [hcells, List.isChain_append_cons_cons] at hapart
      obtain rfl : used = true := by simpa [Apart] using hapart.2.1
      have hm : 0 < m := hsizes ⟨true, m⟩ (by simp [hcells])
      have := hclear (before ++ [⟨false, n⟩]) m after (by simp [hcells])
      simp only [total_append, total_cons, total_nil] at this
      omega

end

/-! ### Headers -/

section
variable {H : Type} (node : Bool → ℕ → ℕ → H)

/-- The headers from an offset on are those of the cells. -/
def Linked (header : ℕ → H) : ℕ → ℕ → List Cell → Prop
  | _, _, [] => True
  | off, prev, cell :: cells =>
    header off = node cell.used (off + cell.size) prev ∧
      Linked header (off + cell.size) off cells

variable {node} {header header' : ℕ → H} {off prev : ℕ} {cells left right : List Cell}

theorem linked_append : Linked node header off prev (left ++ right) ↔
    Linked node header off prev left ∧
      Linked node header (off + total left) (last off prev left) right := by
  induction left generalizing off prev with
  | nil => simp [Linked, last]
  | cons cell left ih =>
    simp only [List.cons_append, Linked, last, total_cons, ih, and_assoc, Nat.add_assoc]

variable {width : ℕ}

/-- Only the headers at the cells matter, each of them at most as wide as its cell. -/
theorem Linked.congr (hsize : ∀ cell ∈ cells, width ≤ cell.size)
    (h : Linked node header off prev cells)
    (hsame : ∀ i, off ≤ i → i + width ≤ off + total cells → header' i = header i) :
    Linked node header' off prev cells := by
  induction cells generalizing off prev with
  | nil => trivial
  | cons cell cells ih =>
    obtain ⟨hcell, hcells⟩ := List.forall_mem_cons.mp hsize
    rw [total_cons] at hsame
    refine ⟨(hsame off (Nat.le_refl off) (by omega)).trans h.1, ih hcells h.2 fun i hi hle => ?_⟩
    exact hsame i (by omega) (by omega)

/-- The first of the cells gets another cell before it. -/
theorem Linked.relink {prev' : ℕ} (hsize : ∀ cell ∈ cells, width ≤ cell.size)
    (h : Linked node header off prev cells)
    (hfirst : cells ≠ [] → ∀ used next, header off = node used next prev →
      header' off = node used next prev')
    (hrest : ∀ i, off + width ≤ i → i + width ≤ off + total cells → header' i = header i) :
    Linked node header' off prev' cells := by
  cases cells with
  | nil => trivial
  | cons cell cells =>
    obtain ⟨hcell, hcells⟩ := List.forall_mem_cons.mp hsize
    rw [total_cons] at hrest
    refine ⟨hfirst (List.cons_ne_nil _ _) _ _ h.1, h.2.congr hcells fun i hi hle => ?_⟩
    exact hrest i (by omega) (by omega)

end
end Cell
end WeatherStation.Lib
