import Mathlib.Data.Rat.Floor
import Mathlib.Tactic.Linarith

/-! The printf conversions `%d`, `%.nf` and left justification, for integers
and exactly represented rationals. -/
namespace WeatherStation.Lib.Printf

def decimal (n : Int) : List Char :=
  if n < 0 then '-' :: Nat.toDigits 10 n.natAbs else Nat.toDigits 10 n.natAbs

/-- The nearest natural number; a tie goes to the even neighbour. -/
def roundHalfEven (q : ℚ) : Nat :=
  let low := ⌊q⌋₊
  let rest := q - low
  if rest < 1 / 2 then low
  else if 1 / 2 < rest then low + 1
  else if low % 2 = 0 then low
  else low + 1

/-- `%.nf`: sign, integer part, and `precision` digits after the point. -/
def fixed (precision : Nat) (q : ℚ) : List Char :=
  let scaled := roundHalfEven (|q| * 10 ^ precision)
  let digits := Nat.toDigits 10 (scaled / 10 ^ precision) ++
    if precision = 0 then []
    else '.' :: (Nat.toDigits 10 (scaled % 10 ^ precision)).leftpad precision '0'
  if q < 0 then '-' :: digits else digits

/-- The `-` flag: pad on the right to the field width. -/
def leftJustify (width : Nat) (text : List Char) : List Char :=
  text.rightpad width ' '

theorem decimal_head (n : Int) :
    ∃ c rest, decimal n = c :: rest ∧ (c = '-' ∨ c.isDigit = true) := by
  by_cases hneg : n < 0
  · exact ⟨'-', Nat.toDigits 10 n.natAbs, by simp [decimal, hneg], .inl rfl⟩
  · obtain ⟨c, rest, hdigits⟩ := List.exists_cons_of_ne_nil
      (Nat.toDigits_ne_nil (n := n.natAbs) (b := 10))
    refine ⟨c, rest, by simp [decimal, hneg, hdigits], .inr ?_⟩
    exact Nat.isDigit_of_mem_toDigits (by decide) (by decide) (hdigits ▸ List.mem_cons_self)

/-- What a printed number consists of. -/
def NumberChar (c : Char) : Prop := c.isDigit = true ∨ c = '-' ∨ c = '.'

instance (c : Char) : Decidable (NumberChar c) :=
  inferInstanceAs (Decidable (c.isDigit = true ∨ c = '-' ∨ c = '.'))

theorem numberChar_toDigits {n : Nat} {c : Char} (h : c ∈ Nat.toDigits 10 n) : NumberChar c :=
  .inl (Nat.isDigit_of_mem_toDigits (by decide) (by decide) h)

theorem decimal_chars {n : Int} {c : Char} (h : c ∈ decimal n) : NumberChar c := by
  unfold decimal at h
  split at h
  · rcases List.mem_cons.mp h with rfl | hdigit
    · exact .inr (.inl rfl)
    · exact numberChar_toDigits hdigit
  · exact numberChar_toDigits h

section
variable {precision : Nat} {q : ℚ}

theorem fixed_chars {c : Char} (h : c ∈ fixed precision q) : NumberChar c := by
  have hdigits : ∀ {whole part : Nat}, c ∈ Nat.toDigits 10 whole ++ (if precision = 0 then []
      else '.' :: (Nat.toDigits 10 part).leftpad precision '0') → NumberChar c := by
    intro whole part hc
    rcases List.mem_append.mp hc with hwhole | hpart
    · exact numberChar_toDigits hwhole
    · split at hpart
      · exact absurd hpart List.not_mem_nil
      · rcases List.mem_cons.mp hpart with rfl | hpadded
        · exact .inr (.inr rfl)
        · rcases List.mem_append.mp hpadded with hzero | hdigit
          · rw [List.eq_of_mem_replicate hzero]
            exact .inl rfl
          · exact numberChar_toDigits hdigit
  unfold fixed at h
  dsimp only at h
  split at h
  · rcases List.mem_cons.mp h with rfl | hrest
    · exact .inr (.inl rfl)
    · exact hdigits hrest
  · exact hdigits h

theorem roundHalfEven_le {n : Nat} (hq : 0 ≤ q) (h : q ≤ n) : roundHalfEven q ≤ n := by
  have hfloor : ⌊q⌋₊ ≤ n := by
    have hlow : (⌊q⌋₊ : ℚ) ≤ n := (Nat.floor_le hq).trans h
    exact_mod_cast hlow
  unfold roundHalfEven
  dsimp only
  rcases Nat.lt_or_eq_of_le hfloor with hlt | heq
  · split
    · exact hfloor
    · split
      · exact hlt
      · split
        · exact hfloor
        · exact hlt
  · -- nothing is left to round up
    have hrest : q - (⌊q⌋₊ : ℚ) < 1 / 2 := by
      rw [heq]
      linarith
    rw [if_pos hrest]
    exact hfloor

theorem roundHalfEven_natCast (n : Nat) : roundHalfEven n = n := by
  unfold roundHalfEven
  dsimp only
  rw [Nat.floor_natCast, sub_self, if_pos (by norm_num)]

theorem length_fixed (hprecision : 0 < precision) :
    (fixed precision q).length = (if q < 0 then 1 else 0) +
      ((Nat.toDigits 10 (roundHalfEven (|q| * 10 ^ precision) / 10 ^ precision)).length +
        (precision + 1)) := by
  have hpart : (Nat.toDigits 10
      (roundHalfEven (|q| * 10 ^ precision) % 10 ^ precision)).length ≤ precision :=
    (Nat.length_toDigits_le_iff (by decide) hprecision).mpr
      (Nat.mod_lt _ (Nat.pow_pos (by decide)))
  unfold fixed
  dsimp only
  rw [if_neg (Nat.ne_of_gt hprecision)]
  split
  · rw [List.length_cons, List.length_append, List.length_cons, List.length_leftpad,
      Nat.max_eq_left hpart, Nat.add_comm]
  · rw [List.length_append, List.length_cons, List.length_leftpad, Nat.max_eq_left hpart,
      Nat.zero_add]

/-- A number of at most `digits` digits before the point. -/
theorem length_fixed_le (n digits : Nat) (hprecision : 0 < precision) (hdigits : 0 < digits)
    (hq : |q| ≤ n) (hn : n < 10 ^ digits) :
    (fixed precision q).length ≤ (if q < 0 then 1 else 0) + (digits + (precision + 1)) := by
  have hscaled : roundHalfEven (|q| * 10 ^ precision) ≤ n * 10 ^ precision := by
    apply roundHalfEven_le (by positivity)
    push_cast
    gcongr
  have hwhole : roundHalfEven (|q| * 10 ^ precision) / 10 ^ precision < 10 ^ digits :=
    (Nat.div_le_of_le_mul (by rwa [Nat.mul_comm])).trans_lt hn
  have hlength := (Nat.length_toDigits_le_iff (by decide) hdigits).mpr hwhole
  rw [length_fixed hprecision]
  omega

end

theorem length_fixed_le_of_nonneg {precision : Nat} {q : ℚ} (n digits : Nat)
    (hprecision : 0 < precision) (hdigits : 0 < digits) (hq : 0 ≤ q) (hle : q ≤ n) (hn : n < 10 ^ digits) :
    (fixed precision q).length ≤ digits + (precision + 1) := by
  have hlength := length_fixed_le n digits hprecision hdigits (by rwa [abs_of_nonneg hq]) hn
  rwa [if_neg (not_lt.mpr hq), Nat.zero_add] at hlength

theorem length_decimal_le {n : Int} (digits : Nat) (hdigits : 0 < digits)
    (hn : n.natAbs < 10 ^ digits) :
    (decimal n).length ≤ (if n < 0 then 1 else 0) + digits := by
  have hlength := (Nat.length_toDigits_le_iff (by decide) hdigits).mpr hn
  unfold decimal
  split
  · rw [List.length_cons]
    omega
  · omega

/-- Reads an integer back. -/
def number : List Char → Int
  | '-' :: digits => -Nat.ofDigitChars 10 digits 0
  | digits => Nat.ofDigitChars 10 digits 0

theorem number_toDigits (n : Nat) : number (Nat.toDigits 10 n) = n := by
  obtain ⟨c, rest, hdigits⟩ := List.exists_cons_of_ne_nil (Nat.toDigits_ne_nil (n := n) (b := 10))
  have hc : c ≠ '-' := by
    rintro rfl
    have hdigit := Nat.isDigit_of_mem_toDigits (by decide) (by decide)
      (hdigits ▸ List.mem_cons_self : '-' ∈ Nat.toDigits 10 n)
    exact absurd hdigit (by decide)
  have hnumber : number (c :: rest) = Nat.ofDigitChars 10 (c :: rest) 0 := by
    unfold number
    split
    · rename_i heq
      exact absurd (List.cons.inj heq).1 hc
    · rfl
  rw [hdigits, hnumber, ← hdigits, Nat.ofDigitChars_ten_toDigits]

theorem number_decimal (n : Int) : number (decimal n) = n := by
  unfold decimal
  split
  · rw [number, Nat.ofDigitChars_ten_toDigits]
    omega
  · rw [number_toDigits]
    omega

/-- What a line of separated fields contains besides the separators. -/
theorem exists_mem_of_mem_intercalate {separator c : Char} {fields : List (List Char)}
    (h : c ∈ [separator].intercalate fields) (hc : c ≠ separator) :
    ∃ field ∈ fields, c ∈ field := by
  induction fields with
  | nil => exact absurd h List.not_mem_nil
  | cons field fields ih =>
    cases fields with
    | nil => exact ⟨field, List.mem_cons_self, by simpa using h⟩
    | cons next fields =>
      rw [List.intercalate_cons_cons, List.append_assoc] at h
      rcases List.mem_append.mp h with hfield | hrest
      · exact ⟨field, List.mem_cons_self, hfield⟩
      · have hrest := (List.mem_append.mp hrest).resolve_left (mt List.mem_singleton.mp hc)
        obtain ⟨other, hother, hmem⟩ := ih hrest
        exact ⟨other, List.mem_cons_of_mem _ hother, hmem⟩

end WeatherStation.Lib.Printf
