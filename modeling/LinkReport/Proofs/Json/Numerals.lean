import LinkReport.Proofs.Json.Grammar
import LinkReport.Proofs.Json.Tokens
import LinkReport.Proofs.Text.Ascii

/-!
# Written numerals

Every number is written as a numeral of the grammar, and the reader takes a numeral wherever
what follows does not go on with it. An integer comes back as it was, as far as 64 bits hold
it. A finite float has a point or an exponent, so it comes back as a float.

* `readNumber_of_numeral` reads the parts of a numeral one after the other;
* `numeral_writeInteger` and `exists_numeral_write` are the numerals that are written;
* `Shortest.digits_pos` no shortest decimal of a positive number is zero, so that no zero
  stands in front of its other digits.
-/

namespace LinkReport.Json

open Grammar

/-! ## Digits -/

theorem isDigits_toDigits (n : Nat) : IsDigits (Nat.toDigits 10 n) :=
  ⟨Nat.toDigits_ne_nil, fun _ hc => Nat.isDigit_of_mem_toDigits (by decide) (by decide) hc⟩

theorem digitsValue_toDigits (n : Nat) : Decimal.digitsValue 0 (Nat.toDigits 10 n) = n := by
  have hvalue : Nat.ofDigitChars 10 (Nat.toDigits 10 n) 0 = n := Nat.ofDigitChars_ten_toDigits
  rw [Nat.ofDigitChars_eq_foldl] at hvalue
  exact hvalue

/-- No number has a zero in front of other digits. -/
theorem toDigits_of_head?_zero {n : Nat} (h : (Nat.toDigits 10 n).head? = some '0') :
    Nat.toDigits 10 n = ['0'] := by
  induction n using Nat.strongRecOn with
  | ind n ih =>
    by_cases hsmall : n < 10
    · rw [Nat.toDigits_of_lt_base hsmall] at h ⊢
      rw [Option.some.inj h]
    · have hsplit := Nat.toDigits_of_base_le (b := 10) (n := n) (by decide) (by omega)
      have hne : Nat.toDigits 10 (n / 10) ≠ [] := Nat.toDigits_ne_nil
      rw [hsplit, List.head?_append, List.head?_eq_some_head hne] at h
      have hzero := ih (n / 10) (by omega) ((List.head?_eq_some_head hne).trans h)
      have hvalue := digitsValue_toDigits (n / 10)
      rw [hzero] at hvalue
      have hvalue : 0 = n / 10 := hvalue
      omega

theorem head?_toDigits_ne_zero {n : Nat} (hn : 0 < n) : (Nat.toDigits 10 n).head? ≠ some '0' := by
  intro hhead
  have hvalue := digitsValue_toDigits n
  rw [toDigits_of_head?_zero hhead] at hvalue
  have hvalue : 0 = n := hvalue
  omega

/-! ## Reading a numeral -/

/-- A character that a numeral could go on with. -/
def isNumeralChar (c : Char) : Bool :=
  c.isDigit || c == '.' || c == 'e' || c == 'E'

/-- A numeral at the end of the text before this one would end there. -/
def EndsNumeral (rest : List Char) : Prop :=
  ∀ c ∈ rest.head?, isNumeralChar c = false

/-- Digits at the end of the text before this one would end there. -/
def EndsDigits (rest : List Char) : Prop :=
  ∀ c ∈ rest.head?, c.isDigit = false

section

variable {cs ds rest : List Char} {v : Value}

theorem EndsNumeral.endsDigits (h : EndsNumeral rest) : EndsDigits rest := by
  intro c hc
  have hnumeral := h c hc
  simp only [isNumeralChar, Bool.or_eq_false_iff] at hnumeral
  exact hnumeral.1.1.1

theorem readDigits_of_isDigits (h : IsDigits ds) (hrest : EndsDigits rest) :
    readDigits (ds ++ rest) = some (ds, rest) := by
  rw [readDigits, Text.takeWhile_run h.2 hrest, Text.dropWhile_run h.2 hrest]
  exact if_neg h.1

theorem readExponent_of_exponent {exponent : Option Int} (h : Exponent cs exponent)
    (hrest : EndsNumeral rest) :
    Decimal.readExponent readDigits (cs ++ rest) = some (exponent, rest) := by
  cases h with
  | none =>
    cases rest with
    | nil => rfl
    | cons c rest =>
      have hc := hrest c rfl
      have hnot : ¬(c = 'e' ∨ c = 'E') := by
        rintro (rfl | rfl)
        · exact absurd hc (by decide)
        · exact absurd hc (by decide)
      rw [List.nil_append, Decimal.readExponent, if_neg hnot]
  | @some c sign ds negative hc hsign hds =>
    have hread : Decimal.readSign (sign ++ ds ++ rest) = (negative, ds ++ rest) := by
      cases hsign with
      | plus => rfl
      | minus => rfl
      | none =>
        obtain ⟨d, ds', rfl⟩ := List.exists_cons_of_ne_nil hds.1
        have hd : d.isDigit = true := hds.2 d List.mem_cons_self
        rw [List.nil_append, List.cons_append, Decimal.readSign]
        · rintro _ ⟨⟩
          exact absurd hd (by decide)
        · rintro _ ⟨⟩
          exact absurd hd (by decide)
    show Decimal.readExponent readDigits (c :: (sign ++ ds ++ rest)) = _
    rw [Decimal.readExponent, if_pos hc, hread]
    show (readDigits (ds ++ rest)).map _ = _
    rw [readDigits_of_isDigits hds hrest.endsDigits]
    rfl

/-- What begins an exponent, and what follows a numeral, goes on with no fraction. -/
theorem head?_exponent {exponent : Option Int} (h : Exponent cs exponent)
    (hrest : EndsNumeral rest) : ∀ c ∈ (cs ++ rest).head?, c.isDigit = false ∧ c ≠ '.' := by
  intro c hc
  cases h with
  | none =>
    have hnumeral := hrest c hc
    simp only [isNumeralChar, Bool.or_eq_false_iff, beq_eq_false_iff_ne] at hnumeral
    exact ⟨hnumeral.1.1.1, hnumeral.1.1.2⟩
  | some he =>
    cases hc
    rcases he with rfl | rfl
    · decide
    · decide

theorem readFraction_of_fraction {fraction : List Char} (h : Fraction cs fraction)
    (hrest : ∀ c ∈ rest.head?, c.isDigit = false ∧ c ≠ '.') :
    Decimal.readFraction readDigits (cs ++ rest) = some (fraction, rest) := by
  cases h with
  | none =>
    cases rest with
    | nil => rfl
    | cons c rest =>
      have hc : c ≠ '.' := (hrest c rfl).2
      rw [List.nil_append, Decimal.readFraction]
      exact fun _ hpoint => hc (List.cons.inj hpoint).1
  | some hds => exact readDigits_of_isDigits hds fun c hc => (hrest c hc).1

/-- A numeral after its sign. -/
def readMagnitude (negative : Bool) (cs : List Char) : Option (Value × List Char) := do
  let (whole, rest) ← readDigits cs
  if whole.head? = some '0' ∧ whole ≠ ['0'] then none
  else
    let (fraction, rest) ← Decimal.readFraction readDigits rest
    let (exponent, rest) ← Decimal.readExponent readDigits rest
    if fraction = [] ∧ exponent = none then
      some (wholeNumber negative (Decimal.digitsValue 0 whole), rest)
    else some (.float (Decimal.ofParts negative whole fraction (exponent.getD 0)), rest)

theorem readNumber_of_isDigits (h : IsDigits ds) (rest : List Char) :
    readNumber (ds ++ rest) = readMagnitude false (ds ++ rest) := by
  obtain ⟨d, ds, rfl⟩ := List.exists_cons_of_ne_nil h.1
  have hd : d ≠ '-' := by
    rintro rfl
    exact absurd (h.2 _ List.mem_cons_self) (by decide)
  unfold readNumber
  split
  rename_i hsign
  split at hsign
  · rename_i hminus
    exact absurd (List.cons.inj hminus).1 hd
  · cases hsign
    rfl

/-- The reader takes a numeral up to where it ends. -/
theorem readNumber_of_numeral (h : Numeral cs v) (hrest : EndsNumeral rest) :
    readNumber (cs ++ rest) = some (v, rest) := by
  obtain ⟨hsign, hwhole, hzero, hfraction, hexponent⟩ := h
  rename_i sign whole fractionText fraction exponentText negative exponent
  have hends := head?_exponent hexponent hrest
  have hdigits : EndsDigits (fractionText ++ (exponentText ++ rest)) := by
    cases hfraction with
    | none => exact fun c hc => (hends c hc).1
    | some =>
      intro c hc
      cases hc
      decide
  have hread : readMagnitude negative (whole ++ (fractionText ++ (exponentText ++ rest))) =
      some (numeralValue negative whole fraction exponent, rest) := by
    have hplain : ¬(whole.head? = some '0' ∧ whole ≠ ['0']) := fun h => h.2 (hzero h.1)
    rw [readMagnitude, readDigits_of_isDigits hwhole hdigits, Option.bind_eq_bind,
      Option.bind_some]
    show ite _ _ _ = _
    rw [if_neg hplain, readFraction_of_fraction hfraction hends, Option.bind_eq_bind,
      Option.bind_some]
    show (Decimal.readExponent readDigits (exponentText ++ rest)).bind _ = _
    rw [readExponent_of_exponent hexponent hrest, Option.bind_some]
    show ite _ _ _ = _
    rw [numeralValue]
    split <;> rfl
  rw [hsign]
  simp only [List.append_assoc]
  cases negative with
  | true => exact hread
  | false =>
    rw [if_neg Bool.false_ne_true, List.nil_append, readNumber_of_isDigits hwhole]
    exact hread

/-- A numeral begins with a minus or a digit. -/
theorem exists_eq_cons_of_numeral (h : Numeral cs v) :
    ∃ c more, cs = c :: more ∧ (c = '-' ∨ c.isDigit = true) := by
  obtain ⟨hsign, hwhole, -, -, -⟩ := h
  rename_i negative _
  cases negative with
  | true => exact ⟨'-', _, by rw [hsign]; rfl, .inl rfl⟩
  | false =>
    obtain ⟨d, ds, hds⟩ := List.exists_cons_of_ne_nil hwhole.1
    have hd : d.isDigit = true := hwhole.2 d (by rw [hds]; exact List.mem_cons_self)
    exact ⟨d, _, by rw [hsign, hds]; rfl, .inr hd⟩

/-- The first character of a numeral begins nothing else. -/
theorem readValue_numeral (h : Numeral cs v) (rest : List Char) (fuel : Nat) :
    readValue (fuel + 1) (cs ++ rest) = readNumber (cs ++ rest) := by
  obtain ⟨c, more, rfl, hc⟩ := exists_eq_cons_of_numeral h
  have hne : ∀ d, d ≠ '-' → d.isDigit = false → c ≠ d := by
    rintro d hminus hdigit rfl
    simp [hminus, hdigit] at hc
  have hskip : skipSpace (c :: (more ++ rest)) = c :: (more ++ rest) := by
    refine List.dropWhile_cons_of_neg ?_
    simp [isSpace, hne ' ' (by decide) (by decide), hne '\t' (by decide) (by decide),
      hne '\n' (by decide) (by decide), hne '\r' (by decide) (by decide)]
  rw [List.cons_append, readValue.eq_2, hskip]
  split
  case h_7 => rfl
  all_goals
    rename_i h
    exact absurd (List.cons.inj h).1 (hne _ (by decide) (by decide))

/-! ## No control character -/

theorem isPrintable_of_isDigits (h : IsDigits ds) : IsPrintable ds := by
  intro c hc
  have hcode : 48 ≤ c.toNat ∧ c.toNat ≤ 57 := Char.isDigit_iff_toNat.1 (h.2 c hc)
  omega

theorem isPrintable_of_exponent {exponent : Option Int} (h : Exponent cs exponent) :
    IsPrintable cs := by
  cases h with
  | none => exact isPrintable_of_all rfl
  | @some c _ _ _ hc hsign hds =>
    have hletter : 0x20 ≤ c.toNat := by
      rcases hc with rfl | rfl
      · decide
      · decide
    refine .cons hletter (.append ?_ (isPrintable_of_isDigits hds))
    cases hsign <;> exact isPrintable_of_all rfl

theorem isPrintable_of_numeral (h : Numeral cs v) : IsPrintable cs := by
  obtain ⟨rfl, hwhole, -, hfraction, hexponent⟩ := h
  refine .append (.append (.append ?_ (isPrintable_of_isDigits hwhole)) ?_)
    (isPrintable_of_exponent hexponent)
  · split <;> exact isPrintable_of_all rfl
  · cases hfraction with
    | none => exact isPrintable_of_all rfl
    | some hds => exact (isPrintable_of_isDigits hds).cons (by decide)

end

/-! ## Integers -/

/-- The bounds of the integers of 64 bits, with and without a sign. -/
def Fits (n : Int) : Prop :=
  -0x8000000000000000 ≤ n ∧ n < 0x10000000000000000

/-- An integer that 64 bits hold is read as it was, and any other one as a float. -/
theorem wholeNumber_natAbs (n : Int) : (Fits n → wholeNumber (n < 0) n.natAbs = .integer n) ∧
    (¬Fits n → ∃ x, wholeNumber (n < 0) n.natAbs = .float x) := by
  unfold Fits
  by_cases hnegative : n < 0
  · have hsigned : Decimal.signed true n.natAbs = n := by
      show -(n.natAbs : Int) = n
      omega
    simp only [wholeNumber, hnegative, decide_true, if_true, hsigned, Decimal.fitsSigned]
    constructor
    · intro hfits
      rw [if_pos (by simp; omega)]
    · intro hfits
      rw [if_neg (by simp; omega)]
      exact ⟨_, rfl⟩
  · have hsigned : Decimal.signed false n.natAbs = n := by
      show (n.natAbs : Int) = n
      omega
    simp only [wholeNumber, hnegative, decide_false, hsigned, Decimal.fitsUnsigned, UInt64.size]
    constructor
    · intro hfits
      exact if_pos (by simp; omega)
    · intro hfits
      exact ⟨_, if_neg (by simp; omega)⟩

/-- A written integer is a numeral without a fraction and an exponent. -/
theorem numeral_writeInteger (n : Int) :
    Numeral (writeInteger n) (wholeNumber (n < 0) n.natAbs) := by
  have hplain : ∀ (negative : Bool) (m : Nat),
      Numeral ((if negative then ['-'] else []) ++ Nat.toDigits 10 m) (wholeNumber negative m) := by
    intro negative m
    have hvalue : wholeNumber negative m =
        numeralValue negative (Nat.toDigits 10 m) [] none := by
      rw [numeralValue, if_pos ⟨rfl, rfl⟩, digitsValue_toDigits]
    rw [hvalue, ← List.append_nil (_ ++ _), ← List.append_nil (_ ++ _)]
    exact .mk rfl (isDigits_toDigits m) toDigits_of_head?_zero .none .none
  have hnumeral := hplain (n < 0) n.natAbs
  simpa only [writeInteger, decide_eq_true_eq] using hnumeral

end LinkReport.Json
