import LinkReport.Proofs.Text.Ascii
import LinkReport.Text.Hex
import LinkReport.Text.Quoted

/-!
# Quoted texts

Between double quotes every character can be told apart, and the closing quote from all of them.
So a quoted text ends where it ends, whatever stands after it, and two texts that are quoted the
same are the same. No control character is left in it.

* `readChar_quoteChar` a written character can be read back
* `quote_append_inj` a quoted text tells the text and where it ends
* `isOneLine_quoted` a quoted text is on one line
-/

namespace LinkReport.Text

variable {c d : Char} {cs ds xs ys : List Char}

/-! ## Hexadecimal numerals -/

theorem hexDigit?_digitChar : ∀ n < 16, hexDigit? (Nat.digitChar n) = some n := by
  decide

theorem hexDigits_of_lt {n : Nat} (h : n < 16) : hexDigits n = [Nat.digitChar n] :=
  Nat.toDigits_of_lt_base h

theorem hexDigits_of_le {n : Nat} (h : 16 ≤ n) :
    hexDigits n = hexDigits (n / 16) ++ [Nat.digitChar (n % 16)] :=
  Nat.toDigits_of_base_le (by decide) h

/-- A number is read from its digits as it was. -/
theorem hexValue?_hexDigits (n : Nat) : hexValue? (hexDigits n) = some n := by
  induction n using Nat.strongRecOn with
  | ind n ih =>
    by_cases hsmall : n < 16
    · rw [hexDigits_of_lt hsmall, hexValue?, List.foldlM_cons, hexDigit?_digitChar n hsmall]
      simp
    · have hlast : n % 16 < 16 := Nat.mod_lt n (by decide)
      have hvalue := ih (n / 16) (by omega)
      unfold hexValue? at hvalue ⊢
      rw [hexDigits_of_le (by omega), List.foldlM_append, hvalue, Option.bind_eq_bind,
        Option.bind_some, List.foldlM_cons, hexDigit?_digitChar _ hlast]
      simp [Nat.div_add_mod]

/-- The digits are digits or small letters. -/
theorem toNat_of_mem_hexDigits {n : Nat} (h : c ∈ hexDigits n) :
    (48 ≤ c.toNat ∧ c.toNat ≤ 57) ∨ (97 ≤ c.toNat ∧ c.toNat ≤ 102) := by
  have hdigit : ∀ k < 16, (48 ≤ (Nat.digitChar k).toNat ∧ (Nat.digitChar k).toNat ≤ 57) ∨
      (97 ≤ (Nat.digitChar k).toNat ∧ (Nat.digitChar k).toNat ≤ 102) := by decide
  induction n using Nat.strongRecOn with
  | ind n ih =>
    by_cases hsmall : n < 16
    · rw [hexDigits_of_lt hsmall, List.mem_singleton] at h
      exact h ▸ hdigit n hsmall
    · rw [hexDigits_of_le (by omega), List.mem_append, List.mem_singleton] at h
      rcases h with h | rfl
      · exact ih (n / 16) (by omega) h
      · exact hdigit (n % 16) (Nat.mod_lt n (by decide))

/-! ## Characters -/

/-- What a character after a backslash stands for. -/
def unescape (e : Char) : Char :=
  if e = '0' then '\x00'
  else if e = 't' then '\t'
  else if e = 'r' then '\r'
  else if e = 'n' then '\n'
  else e

/-- Reads one character between double quotes. -/
def readChar : List Char → Option (Char × List Char)
  | '\\' :: 'u' :: '\x7b' :: cs =>
    (hexValue? (cs.takeWhile (· ≠ '\x7d'))).map fun n =>
      (Char.ofNat n, (cs.dropWhile (· ≠ '\x7d')).tail)
  | '\\' :: e :: cs => some (unescape e, cs)
  | c :: cs => some (c, cs)
  | [] => none

/-- A character is written in one of three ways. -/
theorem quoteChar_cases (c : Char) :
    (∃ e, quoteChar c = ['\\', e] ∧ unescape e = c ∧ e ≠ 'u' ∧ 0x20 ≤ e.toNat ∧ e.toNat < 0x7F) ∨
      (quoteChar c = ['\\', 'u', '\x7b'] ++ hexDigits c.toNat ++ ['\x7d']) ∨
      (isPrintable c = true ∧ c ≠ '"' ∧ c ≠ '\\' ∧ quoteChar c = [c]) := by
  unfold quoteChar
  split
  · exact .inl ⟨'0', by decide⟩
  · exact .inl ⟨'t', by decide⟩
  · exact .inl ⟨'r', by decide⟩
  · exact .inl ⟨'n', by decide⟩
  · exact .inl ⟨'"', by decide⟩
  · exact .inl ⟨'\\', by decide⟩
  · rename_i hquote hescape
    split
    · next hprintable => exact .inr (.inr ⟨hprintable, hquote, hescape, rfl⟩)
    · exact .inr (.inl rfl)

/-- A character is read as it was, whatever stands after it. -/
theorem readChar_quoteChar (c : Char) (rest : List Char) :
    readChar (quoteChar c ++ rest) = some (c, rest) := by
  rcases quoteChar_cases c with ⟨e, htext, he, hu, -, -⟩ | htext | ⟨-, -, hescape, htext⟩
  · rw [htext]
    show readChar ('\\' :: e :: rest) = _
    rw [readChar.eq_2 e rest fun _ h _ => hu h, he]
  · have hdigits : ∀ d ∈ hexDigits c.toNat, decide (d ≠ '\x7d') = true := by
      intro d hd
      have hcode := toNat_of_mem_hexDigits hd
      rw [decide_eq_true_eq]
      rintro rfl
      revert hcode
      decide
    have hclose : ∀ d ∈ ('\x7d' :: rest).head?, decide (d ≠ '\x7d') = false := by
      rintro d ⟨⟩
      rfl
    rw [htext, List.append_assoc, List.append_assoc]
    show readChar ('\\' :: 'u' :: '\x7b' :: (hexDigits c.toNat ++ '\x7d' :: rest)) = _
    rw [readChar.eq_1, takeWhile_run hdigits hclose, dropWhile_run hdigits hclose,
      hexValue?_hexDigits, Option.map_some, Char.ofNat_toNat]
    rfl
  · rw [htext]
    show readChar (c :: rest) = _
    rw [readChar.eq_3 c rest (fun _ h _ => hescape h) fun _ _ h _ => hescape h]

/-- No written character starts like the closing quote. -/
theorem head?_quoteChar_append (c : Char) (rest : List Char) :
    (quoteChar c ++ rest).head? ≠ some '"' := by
  rcases quoteChar_cases c with ⟨e, htext, -⟩ | htext | ⟨-, hquote, -, htext⟩
  · simp [htext]
  · simp [htext]
  · simpa [htext] using hquote

/-! ## Texts -/

theorem flatMap_quoteChar_append_inj :
    cs.flatMap quoteChar ++ '"' :: xs = ds.flatMap quoteChar ++ '"' :: ys ↔ cs = ds ∧ xs = ys := by
  constructor
  · intro h
    -- along both texts: the characters are read one by one up to the closing quotes
    induction cs generalizing ds with
    | nil =>
      cases ds with
      | nil => exact ⟨rfl, (List.cons.inj h).2⟩
      | cons d ds =>
        rw [List.flatMap_cons, List.append_assoc] at h
        exact absurd (congrArg List.head? h.symm) (head?_quoteChar_append d _)
    | cons c cs ih =>
      rw [List.flatMap_cons, List.append_assoc] at h
      cases ds with
      | nil => exact absurd (congrArg List.head? h) (head?_quoteChar_append c _)
      | cons d ds =>
        rw [List.flatMap_cons, List.append_assoc] at h
        have hread := congrArg readChar h
        rw [readChar_quoteChar, readChar_quoteChar, Option.some.injEq, Prod.mk.injEq] at hread
        obtain ⟨rfl, hrest⟩ := hread
        obtain ⟨rfl, hafter⟩ := ih hrest
        exact ⟨rfl, hafter⟩
  · rintro ⟨rfl, rfl⟩
    rfl

/-- A quoted text tells the text and where it ends. -/
theorem quote_append_inj : quote cs ++ xs = quote ds ++ ys ↔ cs = ds ∧ xs = ys := by
  have happend (us vs : List Char) :
      quote us ++ vs = '"' :: (us.flatMap quoteChar ++ '"' :: vs) := by
    simp [quote]
  rw [happend, happend, List.cons_inj_right, flatMap_quoteChar_append_inj]

theorem quoted_append_inj {s t u v : String} :
    quoted s ++ u = quoted t ++ v ↔ s = t ∧ u = v := by
  rw [← String.toList_inj, String.toList_append, String.toList_append, quoted, quoted,
    String.toList_ofList, String.toList_ofList, quote_append_inj, String.toList_inj,
    String.toList_inj]

/-! ## Control characters -/

/-- The character is a control character: of general category Cc. -/
def isControl (c : Char) : Bool :=
  c.toNat < 0x20 || (0x7F ≤ c.toNat && c.toNat < 0xA0)

/-- There is no control character in the text, and so no line end. -/
def IsOneLine (s : String) : Prop :=
  ∀ c ∈ s.toList, isControl c = false

instance (s : String) : Decidable (IsOneLine s) :=
  List.decidableBAll (fun c => isControl c = false) s.toList

theorem isOneLine_append {s t : String} : IsOneLine (s ++ t) ↔ IsOneLine s ∧ IsOneLine t := by
  unfold IsOneLine
  rw [String.toList_append, List.forall_mem_append]

theorem IsOneLine.newline_notMem {s : String} (h : IsOneLine s) : '\n' ∉ s.toList :=
  fun hc => absurd (h '\n' hc) (by decide)

theorem isControl_of_isPrintable (h : isPrintable c = true) : isControl c = false := by
  rw [Bool.eq_false_iff]
  intro hcontrol
  have hcode : c.toNat ≤ 0x1F ∨ 0x7F ≤ c.toNat ∧ c.toNat ≤ 0xA0 := by
    simp only [isControl, Bool.or_eq_true, Bool.and_eq_true, decide_eq_true_eq] at hcontrol
    omega
  -- the first two ranges of the table hold all controls
  have htable : unprintableRanges.contains c = true := by
    rw [Ranges.contains_iff]
    rcases hcode with hlow | hhigh
    · exact ⟨(0x0, 0x1F), .head _, Nat.zero_le _, hlow⟩
    · exact ⟨(0x7F, 0xA0), .tail _ (.head _), hhigh⟩
  rw [isPrintable, htable] at h
  simp at h
  omega

theorem isControl_of_mem_quoteChar (h : d ∈ quoteChar c) : isControl d = false := by
  have hshort : ∀ e : Char, 0x20 ≤ e.toNat ∧ e.toNat < 0x7F → isControl e = false := by
    intro e he
    simp [isControl]
    omega
  rcases quoteChar_cases c with ⟨e, htext, -, -, hlow, hhigh⟩ | htext | ⟨hprintable, -, -, htext⟩
  · rw [htext] at h
    simp only [List.mem_cons, List.not_mem_nil, or_false] at h
    rcases h with rfl | rfl
    · rfl
    · exact hshort d ⟨hlow, hhigh⟩
  · rw [htext] at h
    simp only [List.mem_append, List.mem_cons, List.not_mem_nil, or_false] at h
    rcases h with ((rfl | rfl | rfl) | hdigit) | rfl
    · rfl
    · rfl
    · rfl
    · have hcode := toNat_of_mem_hexDigits hdigit
      exact hshort d (by omega)
    · rfl
  · rw [htext, List.mem_singleton] at h
    exact h ▸ isControl_of_isPrintable hprintable

theorem isOneLine_quoted (s : String) : IsOneLine (quoted s) := by
  intro d hd
  rw [quoted, String.toList_ofList, quote] at hd
  simp only [List.mem_append, List.mem_cons, List.mem_flatMap, List.not_mem_nil, or_false] at hd
  rcases hd with (rfl | ⟨c, -, hd⟩) | rfl
  · rfl
  · exact isControl_of_mem_quoteChar hd
  · rfl

end LinkReport.Text
