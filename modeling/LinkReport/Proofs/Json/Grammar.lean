import LinkReport.Json.Reader
import Mathlib.Data.List.TakeWhile

/-!
# The grammar of JSON

The texts of RFC 8259 and the values that they spell: blanks before every token, commas only
between values, no zero before other digits, and no control character in a string.

* `Spells` is the grammar, with `Items`, `Entry` and `Entries` for what brackets hold;
* `isText_of_read?` says that the reader takes no other text, and answers with the value
  that the text spells.
-/

namespace LinkReport.Json.Grammar

/-! ## Tokens -/

/-- What stands in a string for code units. -/
inductive Units : List Char → List Nat → Prop where
  | nil : Units [] []
  | plain {c : Char} {cs : List Char} {us : List Nat} (hcontrol : 0x20 ≤ c.toNat)
      (hquote : c ≠ '"') (hescape : c ≠ '\\') (h : Units cs us) : Units (c :: cs) (c.toNat :: us)
  | short {e c : Char} {cs : List Char} {us : List Nat} (he : shortEscape? e = some c)
      (h : Units cs us) : Units ('\\' :: e :: cs) (c.toNat :: us)
  | code {a b c d : Char} {n : Nat} {cs : List Char} {us : List Nat}
      (hn : Text.hexValue? [a, b, c, d] = some n) (h : Units cs us) :
      Units ('\\' :: 'u' :: a :: b :: c :: d :: cs) (n :: us)

/-- A string, with its quotes. -/
inductive Quoted : List Char → String → Prop where
  | mk {cs : List Char} {us : List Nat} {s : String} (h : Units cs us)
      (hs : unitsToChars? us = some s.toList) : Quoted ('"' :: (cs ++ ['"'])) s

/-- Digits, at least one. -/
def IsDigits (ds : List Char) : Prop :=
  ds ≠ [] ∧ ∀ d ∈ ds, d.isDigit = true

/-- A fraction, if there is one, and its digits. -/
inductive Fraction : List Char → List Char → Prop where
  | none : Fraction [] []
  | some {ds : List Char} (h : IsDigits ds) : Fraction ('.' :: ds) ds

/-- The sign of an exponent. -/
inductive Sign : List Char → Bool → Prop where
  | none : Sign [] false
  | plus : Sign ['+'] false
  | minus : Sign ['-'] true

/-- An exponent, if there is one. -/
inductive Exponent : List Char → Option Int → Prop where
  | none : Exponent [] none
  | some {c : Char} {sign ds : List Char} {negative : Bool} (hc : c = 'e' ∨ c = 'E')
      (hsign : Sign sign negative) (h : IsDigits ds) :
      Exponent (c :: (sign ++ ds)) (some (Decimal.signed negative (Decimal.digitsValue 0 ds)))

/-- The value of a numeral with these parts. -/
def numeralValue (negative : Bool) (whole fraction : List Char) (exponent : Option Int) : Value :=
  if fraction = [] ∧ exponent = none then wholeNumber negative (Decimal.digitsValue 0 whole)
  else .float (Decimal.ofParts negative whole fraction (exponent.getD 0))

/-- A numeral. -/
inductive Numeral : List Char → Value → Prop where
  | mk {sign whole fractionText fraction exponentText : List Char} {negative : Bool}
      {exponent : Option Int}
      (hsign : sign = if negative then ['-'] else []) (hwhole : IsDigits whole)
      (hzero : whole.head? = some '0' → whole = ['0']) (hfraction : Fraction fractionText fraction)
      (hexponent : Exponent exponentText exponent) :
      Numeral (sign ++ whole ++ fractionText ++ exponentText)
        (numeralValue negative whole fraction exponent)

/-! ## Values -/

mutual

/-- A text spells a value. -/
inductive Spells : List Char → Value → Prop where
  | blank {b : Char} {cs : List Char} {v : Value} (hb : isSpace b = true) (h : Spells cs v) :
      Spells (b :: cs) v
  | nullWord : Spells "null".toList .null
  | trueWord : Spells "true".toList (.boolean true)
  | falseWord : Spells "false".toList (.boolean false)
  | text {cs : List Char} {s : String} (h : Quoted cs s) : Spells cs (.text s)
  | numeral {cs : List Char} {v : Value} (h : Numeral cs v) : Spells cs v
  | emptyList {bs : List Char} (hbs : ∀ b ∈ bs, isSpace b = true) :
      Spells ('[' :: (bs ++ [']'])) (.list [])
  | list {cs ds : List Char} {v : Value} {vs : List Value} (h : Spells cs v)
      (hs : Items ds vs) : Spells ('[' :: (cs ++ ds)) (.list (v :: vs))
  | emptyMap {bs : List Char} (hbs : ∀ b ∈ bs, isSpace b = true) :
      Spells ('\x7b' :: (bs ++ ['\x7d'])) (.map [])
  | map {cs ds : List Char} {e : Value × Value} {es : List (Value × Value)} (h : Entry cs e)
      (hs : Entries ds es) : Spells ('\x7b' :: (cs ++ ds)) (.map (e :: es))

/-- What stands after the first item of a list, up to its end. -/
inductive Items : List Char → List Value → Prop where
  | blank {b : Char} {cs : List Char} {vs : List Value} (hb : isSpace b = true)
      (h : Items cs vs) : Items (b :: cs) vs
  | close : Items [']'] []
  | comma {cs ds : List Char} {v : Value} {vs : List Value} (h : Spells cs v)
      (hs : Items ds vs) : Items (',' :: (cs ++ ds)) (v :: vs)

/-- A key, a colon and a value. -/
inductive Entry : List Char → Value × Value → Prop where
  | blank {b : Char} {cs : List Char} {e : Value × Value} (hb : isSpace b = true)
      (h : Entry cs e) : Entry (b :: cs) e
  | colon {key bs cs : List Char} {s : String} {v : Value} (hkey : Quoted key s)
      (hbs : ∀ b ∈ bs, isSpace b = true) (h : Spells cs v) :
      Entry (key ++ bs ++ ':' :: cs) (.text s, v)

/-- What stands after the first entry of a map, up to its end. -/
inductive Entries : List Char → List (Value × Value) → Prop where
  | blank {b : Char} {cs : List Char} {es : List (Value × Value)} (hb : isSpace b = true)
      (h : Entries cs es) : Entries (b :: cs) es
  | close : Entries ['\x7d'] []
  | comma {cs ds : List Char} {e : Value × Value} {es : List (Value × Value)} (h : Entry cs e)
      (hs : Entries ds es) : Entries (',' :: (cs ++ ds)) (e :: es)

end

/-- A whole text: a value, and blanks to the end. -/
def IsText (cs : List Char) (v : Value) : Prop :=
  ∃ ds bs, cs = ds ++ bs ∧ Spells ds v ∧ ∀ b ∈ bs, isSpace b = true

/-! ## What is read of strings -/

theorem units_of_stringUnits {cs rest : List Char} {us : List Nat}
    (h : stringUnits cs = some (us, rest)) : ∃ ds, cs = ds ++ '"' :: rest ∧ Units ds us := by
  fun_induction stringUnits cs generalizing us with
  | case1 => cases h
  | case2 more =>
    cases h
    exact ⟨[], rfl, .nil⟩
  | case3 a b c d more ih =>
    obtain ⟨n, hn, h⟩ := Option.bind_eq_some_iff.1 h
    obtain ⟨⟨tail, after⟩, htail, h⟩ := Option.bind_eq_some_iff.1 h
    cases h
    obtain ⟨ds, rfl, hds⟩ := ih htail
    exact ⟨'\\' :: 'u' :: a :: b :: c :: d :: ds, rfl, .code hn hds⟩
  | case4 e more hcode ih =>
    obtain ⟨c, hc, h⟩ := Option.bind_eq_some_iff.1 h
    obtain ⟨⟨tail, after⟩, htail, h⟩ := Option.bind_eq_some_iff.1 h
    cases h
    obtain ⟨ds, rfl, hds⟩ := ih htail
    exact ⟨'\\' :: e :: ds, rfl, .short hc hds⟩
  | case5 => cases h
  | case6 c more hquote hcode hshort hplain ih =>
    obtain ⟨⟨tail, after⟩, htail, h⟩ := Option.map_eq_some_iff.1 h
    cases h
    obtain ⟨ds, rfl, hds⟩ := ih htail
    simp only [Bool.or_eq_true, decide_eq_true_eq, beq_iff_eq, not_or] at hplain
    exact ⟨c :: ds, rfl, .plain (by omega) hquote hplain.2 hds⟩

theorem quoted_of_readString {cs rest : List Char} {s : String}
    (h : readString cs = some (s, rest)) : ∃ ds, '"' :: cs = ds ++ rest ∧ Quoted ds s := by
  obtain ⟨⟨us, after⟩, hus, h⟩ := Option.bind_eq_some_iff.1 h
  obtain ⟨chars, hchars, h⟩ := Option.bind_eq_some_iff.1 h
  cases h
  obtain ⟨ds, rfl, hds⟩ := units_of_stringUnits hus
  rw [← @String.toList_ofList chars] at hchars
  exact ⟨'"' :: (ds ++ ['"']), by simp, .mk hds hchars⟩

/-! ## What is read of numerals -/

theorem isDigits_of_readDigits {cs ds rest : List Char} (h : readDigits cs = some (ds, rest)) :
    cs = ds ++ rest ∧ IsDigits ds := by
  dsimp only [readDigits] at h
  split at h
  · cases h
  · rename_i hne
    cases h
    exact ⟨List.takeWhile_append_dropWhile.symm, hne, fun d hd => List.mem_takeWhile_imp hd⟩

theorem fraction_of_readFraction {cs ds rest : List Char}
    (h : Decimal.readFraction readDigits cs = some (ds, rest)) :
    ∃ text, cs = text ++ rest ∧ Fraction text ds := by
  unfold Decimal.readFraction at h
  split at h
  · obtain ⟨rfl, hds⟩ := isDigits_of_readDigits h
    exact ⟨'.' :: ds, rfl, .some hds⟩
  · cases h
    exact ⟨[], rfl, .none⟩

theorem sign_of_readSign {cs rest : List Char} {negative : Bool}
    (h : Decimal.readSign cs = (negative, rest)) :
    ∃ sign, cs = sign ++ rest ∧ Sign sign negative := by
  unfold Decimal.readSign at h
  split at h
  · cases h
    exact ⟨['-'], rfl, .minus⟩
  · cases h
    exact ⟨['+'], rfl, .plus⟩
  · cases h
    exact ⟨[], rfl, .none⟩

theorem exponent_of_readExponent {cs rest : List Char} {exponent : Option Int}
    (h : Decimal.readExponent readDigits cs = some (exponent, rest)) :
    ∃ text, cs = text ++ rest ∧ Exponent text exponent := by
  unfold Decimal.readExponent at h
  split at h
  · rename_i c more
    split at h
    · rename_i hc
      rcases hread : Decimal.readSign more with ⟨negative, unsigned⟩
      rw [hread] at h
      obtain ⟨⟨ds, after⟩, hds, h⟩ := Option.map_eq_some_iff.1 h
      cases h
      obtain ⟨sign, rfl, hsign⟩ := sign_of_readSign hread
      obtain ⟨rfl, hdigits⟩ := isDigits_of_readDigits hds
      exact ⟨c :: (sign ++ ds), by simp, .some hc hsign hdigits⟩
    · cases h
      exact ⟨[], rfl, .none⟩
  · cases h
    exact ⟨[], rfl, .none⟩

theorem numeral_of_readNumber {cs rest : List Char} {v : Value}
    (h : readNumber cs = some (v, rest)) : ∃ ds, cs = ds ++ rest ∧ Numeral ds v := by
  unfold readNumber at h
  split at h
  rename_i negative unsigned hminus
  have hsign : cs = (if negative then ['-'] else []) ++ unsigned := by
    split at hminus
    · cases hminus
      rfl
    · cases hminus
      rfl
  obtain ⟨⟨whole, rest₁⟩, hwhole, h⟩ := Option.bind_eq_some_iff.1 h
  dsimp only at h
  split at h
  · cases h
  · rename_i hzero
    obtain ⟨⟨fraction, rest₂⟩, hfraction, h⟩ := Option.bind_eq_some_iff.1 h
    obtain ⟨⟨exponent, rest₃⟩, hexponent, h⟩ := Option.bind_eq_some_iff.1 h
    have hvalue : some (numeralValue negative whole fraction exponent, rest₃) = some (v, rest) := by
      rw [← h]
      unfold numeralValue
      dsimp only
      split <;> rfl
    cases hvalue
    obtain ⟨hunsigned, hdigits⟩ := isDigits_of_readDigits hwhole
    obtain ⟨fractionText, hrest₁, hfraction⟩ := fraction_of_readFraction hfraction
    obtain ⟨exponentText, hrest₂, hexponent⟩ := exponent_of_readExponent hexponent
    have hzero : whole.head? = some '0' → whole = ['0'] := by
      intro hhead
      by_contra hne
      exact hzero ⟨hhead, hne⟩
    refine ⟨_, ?_, .mk rfl hdigits hzero hfraction hexponent⟩
    have hrest₂ : rest₂ = exponentText ++ rest := hrest₂
    rw [hsign, hunsigned, hrest₁, hrest₂]
    simp

/-! ## What is read of values -/

theorem exists_skipSpace (cs : List Char) :
    ∃ bs, cs = bs ++ skipSpace cs ∧ ∀ b ∈ bs, isSpace b = true :=
  ⟨cs.takeWhile isSpace, List.takeWhile_append_dropWhile.symm,
    fun _ hb => List.mem_takeWhile_imp hb⟩

/-- What follows the blanks before a token can be read with them. -/
theorem exists_of_skipSpace {P : List Char → Prop}
    (hblank : ∀ {b : Char} {cs : List Char}, isSpace b = true → P cs → P (b :: cs))
    {cs rest : List Char} (h : ∃ ds, skipSpace cs = ds ++ rest ∧ P ds) :
    ∃ ds, cs = ds ++ rest ∧ P ds := by
  obtain ⟨bs, hcs, hbs⟩ := exists_skipSpace cs
  obtain ⟨ds, hds, hP⟩ := h
  have hall : P (bs ++ ds) := by
    clear hcs
    induction bs with
    | nil => exact hP
    | cons b bs ih =>
      have htail := ih fun c hc => hbs c (List.mem_cons_of_mem b hc)
      exact hblank (hbs b List.mem_cons_self) htail
  refine ⟨bs ++ ds, ?_, hall⟩
  rw [List.append_assoc, ← hds]
  exact hcs

mutual

/-- By the fuel, with a case for each token that a value can begin with. -/
theorem spells_of_readValue : ∀ {fuel : Nat} {cs rest : List Char} {v : Value},
    readValue fuel cs = some (v, rest) → ∃ ds, cs = ds ++ rest ∧ Spells ds v
  | 0, _, _, _, h => nomatch h
  | fuel + 1, cs, rest, v, h => by
    refine exists_of_skipSpace .blank ?_
    rw [readValue.eq_2] at h
    generalize skipSpace cs = ds at h ⊢
    split at h
    · cases h
      exact ⟨_, rfl, .nullWord⟩
    · cases h
      exact ⟨_, rfl, .trueWord⟩
    · cases h
      exact ⟨_, rfl, .falseWord⟩
    · obtain ⟨⟨s, after⟩, hs, h⟩ := Option.map_eq_some_iff.1 h
      cases h
      obtain ⟨es, hes, hquoted⟩ := quoted_of_readString hs
      exact ⟨es, hes, .text hquoted⟩
    · rename_i inner
      obtain ⟨gap, hinner, hgap⟩ := exists_skipSpace inner
      split at h
      · rename_i after hclose
        cases h
        rw [hclose] at hinner
        exact ⟨'[' :: (gap ++ [']']), by simp [hinner], .emptyList hgap⟩
      · obtain ⟨⟨w, after⟩, hw, h⟩ := Option.bind_eq_some_iff.1 h
        obtain ⟨⟨ws, last⟩, hws, h⟩ := Option.bind_eq_some_iff.1 h
        cases h
        obtain ⟨es, rfl, hes⟩ := spells_of_readValue hw
        obtain ⟨fs, hfs, hitems⟩ := items_of_readItems hws
        exact ⟨'[' :: (es ++ fs), by simp [hfs], .list hes hitems⟩
    · rename_i inner
      obtain ⟨gap, hinner, hgap⟩ := exists_skipSpace inner
      split at h
      · rename_i after hclose
        cases h
        rw [hclose] at hinner
        exact ⟨'\x7b' :: (gap ++ ['\x7d']), by simp [hinner], .emptyMap hgap⟩
      · obtain ⟨⟨e, after⟩, he, h⟩ := Option.bind_eq_some_iff.1 h
        obtain ⟨⟨ws, last⟩, hws, h⟩ := Option.bind_eq_some_iff.1 h
        cases h
        obtain ⟨es, rfl, hes⟩ := entry_of_readEntry he
        obtain ⟨fs, hfs, hentries⟩ := entries_of_readEntries hws
        exact ⟨'\x7b' :: (es ++ fs), by simp [hfs], .map hes hentries⟩
    · obtain ⟨es, hes, hnumeral⟩ := numeral_of_readNumber h
      exact ⟨es, hes, .numeral hnumeral⟩

theorem items_of_readItems : ∀ {fuel : Nat} {cs rest : List Char} {vs : List Value},
    readItems fuel cs = some (vs, rest) → ∃ ds, cs = ds ++ rest ∧ Items ds vs
  | 0, _, _, _, h => nomatch h
  | fuel + 1, cs, rest, vs, h => by
    refine exists_of_skipSpace .blank ?_
    rw [readItems.eq_2] at h
    generalize skipSpace cs = ds at h ⊢
    split at h
    · cases h
      exact ⟨_, rfl, .close⟩
    · obtain ⟨⟨w, after⟩, hw, h⟩ := Option.bind_eq_some_iff.1 h
      obtain ⟨⟨ws, last⟩, hws, h⟩ := Option.bind_eq_some_iff.1 h
      cases h
      obtain ⟨es, rfl, hes⟩ := spells_of_readValue hw
      obtain ⟨fs, hfs, hitems⟩ := items_of_readItems hws
      exact ⟨',' :: (es ++ fs), by simp [hfs], .comma hes hitems⟩
    · cases h

theorem entry_of_readEntry : ∀ {fuel : Nat} {cs rest : List Char} {e : Value × Value},
    readEntry fuel cs = some (e, rest) → ∃ ds, cs = ds ++ rest ∧ Entry ds e
  | 0, _, _, _, h => nomatch h
  | fuel + 1, cs, rest, e, h => by
    refine exists_of_skipSpace .blank ?_
    rw [readEntry.eq_2] at h
    generalize skipSpace cs = ds at h ⊢
    split at h
    · obtain ⟨⟨key, after⟩, hkey, h⟩ := Option.bind_eq_some_iff.1 h
      obtain ⟨gap, hafter, hgap⟩ := exists_skipSpace after
      dsimp only at h
      split at h
      · rename_i hcolon
        obtain ⟨⟨w, last⟩, hw, h⟩ := Option.bind_eq_some_iff.1 h
        cases h
        obtain ⟨es, hes, hquoted⟩ := quoted_of_readString hkey
        obtain ⟨fs, hfs, hvalue⟩ := spells_of_readValue hw
        rw [hcolon, hfs] at hafter
        exact ⟨es ++ gap ++ ':' :: fs, by simp [hes, hafter], .colon hquoted hgap hvalue⟩
      · cases h
    · cases h

theorem entries_of_readEntries : ∀ {fuel : Nat} {cs rest : List Char} {es : List (Value × Value)},
    readEntries fuel cs = some (es, rest) → ∃ ds, cs = ds ++ rest ∧ Entries ds es
  | 0, _, _, _, h => nomatch h
  | fuel + 1, cs, rest, es, h => by
    refine exists_of_skipSpace .blank ?_
    rw [readEntries.eq_2] at h
    generalize skipSpace cs = ds at h ⊢
    split at h
    · cases h
      exact ⟨_, rfl, .close⟩
    · obtain ⟨⟨e, after⟩, he, h⟩ := Option.bind_eq_some_iff.1 h
      obtain ⟨⟨ws, last⟩, hws, h⟩ := Option.bind_eq_some_iff.1 h
      cases h
      obtain ⟨fs, rfl, hfs⟩ := entry_of_readEntry he
      obtain ⟨gs, hgs, hrest⟩ := entries_of_readEntries hws
      exact ⟨',' :: (fs ++ gs), by simp [hgs], .comma hfs hrest⟩
    · cases h

end

/-- The reader takes no text but those of the grammar, and the value that it answers with is
the one that the text spells. -/
theorem isText_of_read? {text : String} {v : Value} (h : Value.read? text = some v) :
    IsText text.toList v := by
  obtain ⟨⟨w, rest⟩, hw, h⟩ := Option.bind_eq_some_iff.1 h
  dsimp only at h
  split at h
  · rename_i hend
    cases h
    obtain ⟨ds, hds, hspells⟩ := spells_of_readValue hw
    obtain ⟨bs, hbs, hblank⟩ := exists_skipSpace rest
    rw [hend, List.append_nil] at hbs
    rw [hbs] at hds
    exact ⟨ds, bs, hds, hspells, hblank⟩
  · cases h

end LinkReport.Json.Grammar
