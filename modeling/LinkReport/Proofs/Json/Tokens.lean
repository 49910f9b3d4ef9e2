import LinkReport.Json.Printer
import LinkReport.Json.Reader

/-!
# Written tokens of JSON

What the reader makes of the tokens that are written. A string is read as it was, with the
escapes undone. Brackets and commas lead on to the values after them. No token has a control
character.

* `readString_writeString` goes through the characters one after the other;
* `readValue_bracket`, `readItems_comma` and their like take one step, with the fuel that
  the rest is read with.
-/

namespace LinkReport.Json

/-- No character is a control character of ASCII. -/
def IsPrintable (cs : List Char) : Prop :=
  ∀ c ∈ cs, 0x20 ≤ c.toNat

theorem isPrintable_of_all {cs : List Char} (h : cs.all (0x20 ≤ ·.toNat) = true) :
    IsPrintable cs := by
  intro c hc
  exact of_decide_eq_true (List.all_eq_true.1 h c hc)

theorem IsPrintable.append {cs ds : List Char} (hcs : IsPrintable cs) (hds : IsPrintable ds) :
    IsPrintable (cs ++ ds) := by
  intro c hc
  rcases List.mem_append.1 hc with hc | hc
  · exact hcs c hc
  · exact hds c hc

theorem IsPrintable.cons {c : Char} {cs : List Char} (hc : 0x20 ≤ c.toNat)
    (hcs : IsPrintable cs) : IsPrintable (c :: cs) := by
  intro d hd
  rcases List.mem_cons.1 hd with rfl | hd
  · exact hc
  · exact hcs d hd

/-! ## Characters of a string -/

/-- The last two of the four digits of a control character. -/
def controlDigits (n : Nat) : List Char :=
  [Nat.digitChar (n / 16), Nat.digitChar (n % 16)]

theorem hexValue?_controlDigits :
    ∀ n < 0x20, Text.hexValue? ('0' :: '0' :: controlDigits n) = some n := by
  decide

/-- Below ten the first digit has to be put in. -/
theorem controlDigits_eq : ∀ n < 0x20,
    controlDigits n = if n < 0x10 then '0' :: Text.hexDigits n else Text.hexDigits n := by
  decide

/-- A character is written in one of three ways. -/
theorem escapeChar_cases (c : Char) :
    (∃ e, escapeChar c = ['\\', e] ∧ shortEscape? e = some c ∧ e ≠ 'u' ∧ 0x20 ≤ e.toNat) ∨
      (c.toNat < 0x20 ∧ escapeChar c = '\\' :: 'u' :: '0' :: '0' :: controlDigits c.toNat) ∨
      (0x20 ≤ c.toNat ∧ c ≠ '"' ∧ c ≠ '\\' ∧ escapeChar c = [c]) := by
  unfold escapeChar
  split
  · exact .inl ⟨'"', rfl, rfl, by decide, by decide⟩
  · exact .inl ⟨'\\', rfl, rfl, by decide, by decide⟩
  · exact .inl ⟨'b', rfl, rfl, by decide, by decide⟩
  · exact .inl ⟨'f', rfl, rfl, by decide, by decide⟩
  · exact .inl ⟨'n', rfl, rfl, by decide, by decide⟩
  · exact .inl ⟨'r', rfl, rfl, by decide, by decide⟩
  · exact .inl ⟨'t', rfl, rfl, by decide, by decide⟩
  · rename_i hquote hescape _ _ _ _ _
    by_cases hcontrol : c.toNat < 0x20
    · refine .inr (.inl ⟨hcontrol, ?_⟩)
      rw [controlDigits_eq c.toNat hcontrol]
      split <;> rfl
    · have hlow : ¬c.toNat < 0x10 := by omega
      rw [if_neg hlow, if_neg hcontrol]
      exact .inr (.inr ⟨by omega, hquote, hescape, rfl⟩)

/-- A written character is read as one code unit. -/
theorem stringUnits_escapeChar (c : Char) (rest : List Char) :
    stringUnits (escapeChar c ++ rest) =
      (stringUnits rest).map fun (units, rest) => (c.toNat :: units, rest) := by
  rcases escapeChar_cases c with ⟨e, htext, he, hu, -⟩ | ⟨hcontrol, htext⟩ |
    ⟨hlow, hquote, hescape, htext⟩
  · rw [htext]
    show stringUnits ('\\' :: e :: rest) = _
    rw [stringUnits.eq_4 e rest (fun _ _ _ _ _ h _ => hu h), he]
    cases stringUnits rest <;> rfl
  · rw [htext]
    show stringUnits ('\\' :: 'u' :: '0' :: '0' :: Nat.digitChar _ :: Nat.digitChar _ :: rest) = _
    have hunit := hexValue?_controlDigits c.toNat hcontrol
    unfold controlDigits at hunit
    rw [stringUnits.eq_3, hunit]
    cases stringUnits rest <;> rfl
  · rw [htext]
    show stringUnits (c :: rest) = _
    rw [stringUnits.eq_5 c rest hquote (fun _ _ _ _ _ h _ => hescape h) (fun _ _ h _ => hescape h)]
    have hplain : (decide (c.toNat < 0x20) || c == '\\') = false := by
      simp [hescape]
      omega
    rw [hplain]
    rfl

theorem isPrintable_escapeChar (c : Char) : IsPrintable (escapeChar c) := by
  rcases escapeChar_cases c with ⟨e, htext, -, -, he⟩ | ⟨hcontrol, htext⟩ | ⟨hlow, -, -, htext⟩
  · rw [htext]
    simp [IsPrintable, he]
  · rw [htext]
    have hdigits : ∀ n < 0x20, (controlDigits n).all (0x20 ≤ ·.toNat) = true := by decide
    have hlead : IsPrintable ['\\', 'u', '0', '0'] := isPrintable_of_all rfl
    exact hlead.append (isPrintable_of_all (hdigits c.toNat hcontrol))
  · rw [htext]
    simpa [IsPrintable] using hlow

/-! ## Strings -/

theorem stringUnits_append (cs rest : List Char) :
    stringUnits (cs.flatMap escapeChar ++ '"' :: rest) = some (cs.map Char.toNat, rest) := by
  induction cs with
  | nil => rfl
  | cons c cs ih =>
    rw [List.flatMap_cons, List.append_assoc, stringUnits_escapeChar, ih]
    rfl

/-- The code point of a character is no surrogate. -/
theorem not_isSurrogate_toNat (c : Char) :
    isHighSurrogate c.toNat = false ∧ isLowSurrogate c.toNat = false := by
  have hvalid : c.toNat < 0xD800 ∨ 0xDFFF < c.toNat ∧ c.toNat < 0x110000 := c.valid
  unfold isHighSurrogate isLowSurrogate
  simp
  omega

theorem unitsToChars?_toNat (cs : List Char) :
    unitsToChars? (cs.map Char.toNat) = some cs := by
  induction cs with
  | nil => rfl
  | cons c cs ih =>
    obtain ⟨hhigh, hlow⟩ := not_isSurrogate_toNat c
    cases cs with
    | nil => simp [unitsToChars?, hhigh, hlow, Char.ofNat_toNat]
    | cons d cs =>
      rw [List.map_cons] at ih
      simp [unitsToChars?, hhigh, hlow, ih, Char.ofNat_toNat]

/-- A written string is read as it was. -/
theorem readString_writeString (s : String) (rest : List Char) :
    readString (s.toList.flatMap escapeChar ++ '"' :: rest) = some (s, rest) := by
  unfold readString
  rw [stringUnits_append]
  show (unitsToChars? (s.toList.map Char.toNat)).bind _ = _
  rw [unitsToChars?_toNat]
  show some (String.ofList s.toList, rest) = _
  rw [String.ofList_toList]

theorem writeString_append (cs rest : List Char) :
    writeString cs ++ rest = '"' :: (cs.flatMap escapeChar ++ '"' :: rest) := by
  unfold writeString
  simp

theorem isPrintable_writeString (cs : List Char) : IsPrintable (writeString cs) := by
  have hchars : IsPrintable (cs.flatMap escapeChar) := by
    intro c hc
    obtain ⟨d, -, hc⟩ := List.mem_flatMap.1 hc
    exact isPrintable_escapeChar d c hc
  unfold writeString
  exact (hchars.cons (by decide)).append (by simp [IsPrintable])

/-! ## Brackets and commas -/

/-- No value begins with a closing bracket. -/
theorem readValue_eq_none {cs more : List Char} (h : skipSpace cs = ']' :: more) (fuel : Nat) :
    readValue fuel cs = none := by
  cases fuel with
  | zero => rfl
  | succ fuel =>
    rw [readValue.eq_2, h]
    rfl

/-- No entry begins with a closing brace. -/
theorem readEntry_eq_none {cs more : List Char} (h : skipSpace cs = '\x7d' :: more) (fuel : Nat) :
    readEntry fuel cs = none := by
  cases fuel with
  | zero => rfl
  | succ fuel =>
    rw [readEntry.eq_2, h]
    rfl

section

variable {fuel : Nat} {cs after rest : List Char} {v : Value} {vs : List Value}
  {e : Value × Value} {es : List (Value × Value)}

theorem readItems_comma (hfirst : readValue fuel cs = some (v, after))
    (hrest : readItems fuel after = some (vs, rest)) :
    readItems (fuel + 1) (',' :: cs) = some (v :: vs, rest) := by
  show (readValue fuel cs).bind _ = _
  rw [hfirst]
  show (readItems fuel after).bind _ = _
  rw [hrest]
  rfl

theorem readValue_bracket (hfirst : readValue fuel cs = some (v, after))
    (hrest : readItems fuel after = some (vs, rest)) :
    readValue (fuel + 1) ('[' :: cs) = some (.list (v :: vs), rest) := by
  have hskip : skipSpace ('[' :: cs) = '[' :: cs := rfl
  simp only [readValue, hskip]
  split
  · rename_i hclose
    rw [readValue_eq_none hclose] at hfirst
    cases hfirst
  · rw [hfirst]
    show (readItems fuel after).bind _ = _
    rw [hrest]
    rfl

theorem readEntries_comma (hfirst : readEntry fuel cs = some (e, after))
    (hrest : readEntries fuel after = some (es, rest)) :
    readEntries (fuel + 1) (',' :: cs) = some (e :: es, rest) := by
  show (readEntry fuel cs).bind _ = _
  rw [hfirst]
  show (readEntries fuel after).bind _ = _
  rw [hrest]
  rfl

theorem readValue_brace (hfirst : readEntry fuel cs = some (e, after))
    (hrest : readEntries fuel after = some (es, rest)) :
    readValue (fuel + 1) ('\x7b' :: cs) = some (.map (e :: es), rest) := by
  have hskip : skipSpace ('\x7b' :: cs) = '\x7b' :: cs := rfl
  simp only [readValue, hskip]
  split
  · rename_i hclose
    rw [readEntry_eq_none hclose] at hfirst
    cases hfirst
  · rw [hfirst]
    show (readEntries fuel after).bind _ = _
    rw [hrest]
    rfl

end

end LinkReport.Json
