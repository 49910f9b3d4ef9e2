import LinkReport.Proofs.Json.Numerals

/-!
# Written floats

The text of a finite float is a numeral with a point or an exponent, so that no reader takes it
for an integer. Its digits are those of the shortest decimal, which is not zero unless the float
is: the reals that round to a positive float are all positive.

* `Shortest.digits_pos` the digits of a positive float
* `exists_numeral_write` the numeral of a finite float
-/

namespace LinkReport.Decimal.Shortest

variable {i : Interval} {tie : Tie}

theorem multiple?_pos {step n : Nat} (hlow : 0 < i.low) (h : i.multiple? tie step = some n) :
    0 < n := by
  have hcontains : ∀ point, i.contains point = true → 0 < point := by
    intro point hpoint
    unfold Interval.contains at hpoint
    split at hpoint
    · simp only [Bool.and_eq_true, decide_eq_true_eq] at hpoint
      omega
    · simp only [Bool.and_eq_true, decide_eq_true_eq] at hpoint
      omega
  -- the multiple above is never zero, and the one below is not if the interval contains it
  have hbelow : i.contains (i.value / step * step) = true → 0 < i.value / step :=
    fun hpoint => Nat.pos_of_mul_pos_right (hcontains _ hpoint)
  have habove : 0 < i.value / step + 1 := Nat.succ_pos _
  unfold Interval.multiple? at h
  dsimp only at h
  split at h
  · cases h
  · next hpoint _ =>
    cases h
    exact hbelow hpoint
  · cases h
    exact habove
  · next hpoint _ =>
    have hn : n = i.value / step ∨ n = i.value / step + 1 := by grind
    rcases hn with rfl | rfl
    · exact hbelow hpoint
    · exact habove

theorem coarsest_pos {unit : Nat} (hlow : 0 < i.low) (hunit : 0 < unit) (hvalue : unit ≤ i.value) :
    ∀ n, 0 < (coarsest tie i unit n).1
  | 0 => by
    rw [coarsest]
    cases hsteps : i.multiple? tie unit with
    | none => exact Nat.div_pos hvalue hunit
    | some steps => exact multiple?_pos hlow hsteps
  | n + 1 => by
    rw [coarsest]
    split
    · next steps hsteps => exact multiple?_pos hlow hsteps
    · exact coarsest_pos hlow hunit hvalue n

/-- A unit of the finest grid is no more than four of those in which numbers are counted. -/
theorem unit_le : 1 <<< (Binary64.unitBits + 2) ≤ 4 * Nat.pow 10 finest := by
  have hpower : ∀ n, 1 <<< (179 * n + 2) ≤ 4 * Nat.pow 10 (54 * n) := by
    intro n
    have hle : (2 ^ 179) ^ n ≤ (10 ^ 54) ^ n := Nat.pow_le_pow_left (by decide) n
    rw [Nat.shiftLeft_eq, Nat.pow_add, Nat.pow_mul, Nat.pow_eq, Nat.pow_mul]
    omega
  have hbits : Binary64.unitBits + 2 = 179 * 6 + 2 := rfl
  have hdigits : finest = 54 * 6 := rfl
  rw [hbits, hdigits]
  exact hpower 6

/-- The reals that round to a positive number are positive, and it is no less than a unit. -/
theorem interval_pos {mantissa : Nat} (hmantissa : 0 < mantissa) (scale : Nat) :
    0 < (interval mantissa scale).low ∧
      1 <<< (Binary64.unitBits + 2) ≤ (interval mantissa scale).value := by
  have hpower : 0 < 2 ^ scale := Nat.pow_pos (by decide)
  have htens : ∀ n, 0 < Nat.pow 10 n := fun n => Nat.pow_pos (by decide)
  constructor
  · have hbelow : ∀ below ≤ 2, below <<< scale < (4 * mantissa) <<< scale := by
      intro below hle
      rw [Nat.shiftLeft_eq, Nat.shiftLeft_eq]
      exact Nat.mul_lt_mul_of_pos_right (by omega) hpower
    have hlow := hbelow (if mantissa = 1 <<< (Binary64.precision - 1) ∧ 0 < scale then 1 else 2)
      (by split <;> decide)
    exact Nat.mul_pos (Nat.sub_pos_of_lt hlow) (htens finest)
  · have hvalue : 4 ≤ (4 * mantissa) <<< scale := by
      rw [Nat.shiftLeft_eq]
      exact (Nat.le_mul_of_pos_right 4 hmantissa).trans (Nat.le_mul_of_pos_right _ hpower)
    exact unit_le.trans (Nat.mul_le_mul_right _ hvalue)

/-- No positive number has the decimal zero. -/
theorem digits_pos {mantissa : Nat} (hmantissa : 0 < mantissa) (tie : Tie) (scale : Nat) :
    0 < (ofFinite tie mantissa scale).digits := by
  obtain ⟨hlow, hvalue⟩ := interval_pos hmantissa scale
  exact coarsest_pos hlow (by decide +kernel) hvalue grids

end LinkReport.Decimal.Shortest

namespace LinkReport.Json

open Grammar Decimal

theorem isDigits_zero : IsDigits ['0'] :=
  ⟨List.cons_ne_nil _ _, by simp⟩

/-- A numeral with a point or an exponent, without its sign. -/
inductive FloatMagnitude : List Char → Prop where
  | mk {whole fractionText fraction exponentText : List Char} {exponent : Option Int}
    (hwhole : IsDigits whole) (hzero : whole.head? = some '0' → whole = ['0'])
    (hfraction : Fraction fractionText fraction) (hexponent : Exponent exponentText exponent)
    (hfloat : ¬(fraction = [] ∧ exponent = none)) :
    FloatMagnitude (whole ++ fractionText ++ exponentText)

theorem FloatMagnitude.numeral {cs : List Char} (h : FloatMagnitude cs) (negative : Bool) :
    ∃ x, Numeral ((if negative then ['-'] else []) ++ cs) (.float x) := by
  obtain ⟨hwhole, hzero, hfraction, hexponent, hfloat⟩ := h
  rename_i exponent
  have hnumeral := Numeral.mk (@rfl _ (if negative then ['-'] else [])) hwhole hzero hfraction
    hexponent
  rw [numeralValue, if_neg hfloat] at hnumeral
  rw [← List.append_assoc, ← List.append_assoc]
  exact ⟨_, hnumeral⟩

/-- Digits with a point among or after them. -/
theorem FloatMagnitude.pointed {whole fraction : List Char} (hwhole : IsDigits whole)
    (hzero : whole.head? = some '0' → whole = ['0']) (hfraction : IsDigits fraction) :
    FloatMagnitude (whole ++ '.' :: fraction) := by
  rw [← List.append_nil (whole ++ _)]
  exact .mk hwhole hzero (.some hfraction) .none fun h => hfraction.1 h.1

section

variable {ds : List Char}

theorem isDigits_append {xs ys : List Char} (hxs : ∀ c ∈ xs, c.isDigit = true)
    (hys : ∀ c ∈ ys, c.isDigit = true) (hne : xs ++ ys ≠ []) : IsDigits (xs ++ ys) :=
  ⟨hne, fun c hc => (List.mem_append.1 hc).elim (hxs c) (hys c)⟩

theorem isDigit_of_mem_zeros {n : Nat} : ∀ c ∈ List.replicate n '0', c.isDigit = true := by
  intro c hc
  rw [List.eq_of_mem_replicate hc]
  rfl

theorem head?_eq_of_append {more : List Char} (h : IsDigits ds) :
    (ds ++ more).head? = ds.head? := by
  rw [List.head?_append, List.head?_eq_some_head h.1]
  rfl

/-- By where the point goes: before all digits, after them, or among them. -/
theorem floatMagnitude_writtenOut (h : IsDigits ds) (hhead : ds.head? ≠ some '0') (place : Int) :
    FloatMagnitude (floatLayout.writtenOut ds place) := by
  unfold Layout.writtenOut
  split
  · have hfraction : IsDigits (List.replicate (-place).toNat '0' ++ ds) :=
      isDigits_append isDigit_of_mem_zeros h.2 (List.append_ne_nil_of_right_ne_nil _ h.1)
    rw [List.append_assoc]
    exact .pointed isDigits_zero (fun _ => rfl) hfraction
  · split
    · have hwhole : IsDigits (ds ++ List.replicate (place.toNat - ds.length) '0') :=
        isDigits_append h.2 isDigit_of_mem_zeros (List.append_ne_nil_of_left_ne_nil h.1 _)
      refine .pointed hwhole (fun hzero => ?_) isDigits_zero
      rw [head?_eq_of_append h] at hzero
      exact absurd hzero hhead
    · next hpositive hinside =>
      have hsplit : ds.take place.toNat ++ ds.drop place.toNat = ds := List.take_append_drop _ _
      have htake : IsDigits (ds.take place.toNat) := by
        refine ⟨fun hnil => ?_, fun c hc => h.2 c (List.mem_of_mem_take hc)⟩
        rcases List.take_eq_nil_iff.1 hnil with hzero | hzero
        · omega
        · exact h.1 hzero
      have hdrop : IsDigits (ds.drop place.toNat) := by
        refine ⟨fun hnil => ?_, fun c hc => h.2 c (List.mem_of_mem_drop hc)⟩
        exact hinside (List.drop_eq_nil_iff.1 hnil)
      refine .pointed htake (fun hzero => ?_) hdrop
      rw [← head?_eq_of_append htake, hsplit] at hzero
      exact absurd hzero hhead

theorem floatMagnitude_scientific (h : IsDigits ds) (place : Int) :
    FloatMagnitude (Layout.scientific ds place) := by
  obtain ⟨d, more, rfl⟩ := List.exists_cons_of_ne_nil h.1
  have hdigit : IsDigits [d] := by
    refine ⟨List.cons_ne_nil _ _, fun c hc => ?_⟩
    rw [List.mem_singleton.1 hc]
    exact h.2 d List.mem_cons_self
  have hsign : ∃ negative, Sign [if place - 1 < 0 then '-' else '+'] negative := by
    split
    · exact ⟨_, .minus⟩
    · exact ⟨_, .plus⟩
  have hfraction : ∃ fraction,
      Fraction (if (d :: more).length ≤ 1 then [] else '.' :: more) fraction := by
    split
    · exact ⟨_, .none⟩
    · next hlong =>
      refine ⟨more, .some ⟨?_, fun c hc => h.2 c (List.mem_cons_of_mem d hc)⟩⟩
      rintro rfl
      exact hlong (Nat.le_refl 1)
  obtain ⟨negative, hsign⟩ := hsign
  obtain ⟨fraction, hfraction⟩ := hfraction
  have hexponent := Exponent.some (.inl rfl) hsign (isDigits_toDigits (place - 1).natAbs)
  have hmagnitude := FloatMagnitude.mk hdigit (fun hzero => by rw [Option.some.inj hzero])
    hfraction hexponent fun hplain => nomatch hplain.2
  rw [Layout.scientific, List.append_assoc _ ['e', _]]
  exact hmagnitude

end

/-- A finite float is written as a numeral that is read as a float. -/
theorem exists_numeral_write {x : Binary64} (h : x.isFinite = true) :
    ∃ y, Numeral (floatLayout.write x) (.float y) := by
  cases x with
  | nan => cases h
  | infinite negative => cases h
  | finite negative mantissa scale =>
    refine FloatMagnitude.numeral ?_ negative
    unfold Layout.magnitude
    split
    · exact .pointed isDigits_zero (fun _ => rfl) isDigits_zero
    · next hmantissa =>
      have hpos := Shortest.digits_pos (Nat.pos_of_ne_zero hmantissa) floatLayout.tie scale
      dsimp only
      split
      · exact floatMagnitude_writtenOut (isDigits_toDigits _) (head?_toDigits_ne_zero hpos) _
      · exact floatMagnitude_scientific (isDigits_toDigits _) _

end LinkReport.Json
