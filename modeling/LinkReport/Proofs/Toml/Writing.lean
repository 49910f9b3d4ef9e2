import LinkReport.Toml.Document
import LinkReport.Proofs.Text.Ascii

/-!
# Written TOML

Lines as a program writes them, and what the reader makes of them: a pair of a bare key and
a text in double quotes or a list of such texts with one on each line, the header of one more
table of a list, a comment, and an empty line.

* `ReadsAs` says which statements a text holds, without the reader's fuel;
* `ReadsAs.pairLines` and `ReadsAs.tablesLine` read written lines, whatever stands after them.
-/

namespace LinkReport.Toml

/-- A text that stands between double quotes as it is. -/
structure Plain where
  chars : List Char
  isBasicChar_of_mem : ∀ c ∈ chars, isBasicChar c = true

/-- A key that is written without quotes. -/
structure BareKey where
  chars : List Char
  ne_nil : chars ≠ []
  isBareKeyChar_of_mem : ∀ c ∈ chars, isBareKeyChar c = true

/-- What a comment says on its line. -/
structure Remark where
  text : List Char
  isCommentChar_of_mem : ∀ c ∈ text, isCommentChar c = true

/-- A value as it is written: a text, or a list of texts. -/
inductive Written where
  | text (t : Plain)
  | texts (ts : List Plain)

namespace Plain

/-- A printable character of ASCII, but no quote and no backslash. -/
def isPlainChar (c : Char) : Bool :=
  0x20 ≤ c.toNat ∧ c.toNat < 0x7f ∧ c ≠ '"' ∧ c ≠ '\\'

/-- A string of such characters. -/
def ofPrintable (s : String) (h : s.toList.all isPlainChar = true) : Plain where
  chars := s.toList
  isBasicChar_of_mem := by
    intro c hc
    obtain ⟨hlow, hhigh, hquote, hescape⟩ := of_decide_eq_true (List.all_eq_true.1 h c hc)
    have hdelete : c ≠ '\x7f' := by
      rintro rfl
      exact absurd hhigh (by decide)
    simp [isBasicChar, isCommentChar, hlow, hquote, hescape, hdelete]

/-- The text as a string. -/
def toString (t : Plain) : String :=
  String.ofList t.chars

/-- The text between double quotes. -/
def quoted (t : Plain) : List Char :=
  '"' :: t.chars ++ ['"']

end Plain

namespace Written

/-- A list has each text on a line of its own, with a comma after it. -/
def chars : Written → List Char
  | text t => t.quoted
  | texts ts => '[' :: '\n' :: ts.flatMap (fun t => ' ' :: t.quoted ++ [',', '\n']) ++ [']']

/-- The value that is written. -/
def value : Written → Value
  | text t => .text t.toString
  | texts ts => .array (ts.map fun t => .text t.toString)

end Written

/-- The key as a string. -/
def BareKey.toString (k : BareKey) : String :=
  String.ofList k.chars

/-- A key and a value on a line, which goes on as long as the value does. -/
def pairLine (k : BareKey) (w : Written) : List Char :=
  k.chars ++ ' ' :: '=' :: ' ' :: w.chars ++ ['\n']

/-! ## Texts -/

theorem Plain.quoted_append (t : Plain) (rest : List Char) :
    t.quoted ++ rest = '"' :: (t.chars ++ '"' :: rest) := by
  unfold quoted
  simp

/-- A character that stands for itself is kept. -/
theorem readBasic_cons {c : Char} (hc : isBasicChar c = true) (rest : List Char) :
    readBasic (c :: rest) = withChar c (readBasic rest) := by
  have hquote : c ≠ '"' := by
    rintro rfl
    exact absurd hc (by decide)
  have hescape : c ≠ '\\' := by
    rintro rfl
    exact absurd hc (by decide)
  rw [readBasic.eq_5, if_pos hc] <;> simp [hquote, hescape]

theorem readBasic_append (t : Plain) (rest : List Char) :
    readBasic (t.chars ++ '"' :: rest) = some (t.chars, rest) := by
  obtain ⟨cs, hcs⟩ := t
  induction cs with
  | nil => rfl
  | cons c cs ih =>
    have hrest := ih fun x hx => hcs x (List.mem_cons_of_mem c hx)
    show readBasic (c :: (cs ++ '"' :: rest)) = some (c :: cs, rest)
    rw [readBasic_cons (hcs c List.mem_cons_self), hrest]
    rfl

/-- What follows a text does not go on with it. -/
theorem readString_quoted (t : Plain) {rest : List Char} (hrest : rest.head? ≠ some '"') :
    readString (t.quoted ++ rest) = some (t.chars, rest) := by
  have hread := readBasic_append t rest
  rw [t.quoted_append]
  unfold readString
  split
  · -- three quotes would need one in the text or after it
    rename_i more hthree
    obtain ⟨cs, hcs⟩ := t
    cases cs with
    | nil =>
      have hquote := (List.cons.inj (List.cons.inj hthree).2).2
      rw [hquote] at hrest
      exact absurd rfl hrest
    | cons c cs =>
      have hquote : c = '"' := (List.cons.inj (List.cons.inj hthree).2).1
      have hc := hcs c List.mem_cons_self
      rw [hquote] at hc
      exact absurd hc (by decide)
  all_goals simp_all

theorem readValue_quoted (depth : Nat) (t : Plain) {rest : List Char}
    (hrest : rest.head? ≠ some '"') :
    readValue depth (t.quoted ++ rest) = some (.text t.toString, rest) := by
  rw [t.quoted_append, readValue.eq_1, ← t.quoted_append, readString_quoted t hrest]
  rfl

/-! ## Lists of texts -/

/-- An item with a comma after it is read, and then the items after the comma. -/
theorem readItems_cons {read : Reader Value} {cs more rest : List Char} {c : Char} {v : Value}
    (hfiller : skipFiller false cs = c :: more) (hc : c ≠ ']')
    (hread : read (c :: more) = some (v, ',' :: rest)) (fuel : Nat) :
    readItems read (fuel + 1) cs =
      (readItems read fuel rest).map fun (vs, rest) => (v :: vs, rest) := by
  rw [readItems]
  rw [hfiller]
  split
  · rename_i h
    exact absurd (List.cons.inj h).1 hc
  · rw [hread]
    show (readItems read fuel rest).bind (fun (vs, rest) => some (v :: vs, rest)) = _
    cases readItems read fuel rest <;> rfl

/-- The items of a written list, from the end of the line before them on. -/
theorem readItems_texts (depth : Nat) (ts : List Plain) (rest : List Char) {fuel : Nat}
    (hfuel : ts.length < fuel) :
    readItems (readValue depth) fuel
        ('\n' :: (ts.flatMap fun t => ' ' :: t.quoted ++ [',', '\n']) ++ ']' :: rest)
      = some (ts.map fun t => .text t.toString, rest) := by
  induction ts generalizing fuel with
  | nil =>
    obtain ⟨fuel, rfl⟩ : ∃ n, fuel = n + 1 := ⟨fuel - 1, by omega⟩
    rfl
  | cons t ts ih =>
    obtain ⟨fuel, rfl⟩ : ∃ n, fuel = n + 1 := ⟨fuel - 1, by omega⟩
    rw [List.length_cons] at hfuel
    let after := '\n' :: (ts.flatMap fun t => ' ' :: t.quoted ++ [',', '\n']) ++ ']' :: rest
    have hvalue : readValue depth (t.quoted ++ ',' :: after) =
        some (.text t.toString, ',' :: after) :=
      readValue_quoted depth t (by simp)
    have hlist : '\n' :: ((t :: ts).flatMap fun t => ' ' :: t.quoted ++ [',', '\n']) ++ ']' :: rest
        = '\n' :: ' ' :: (t.quoted ++ ',' :: after) := by
      simp [after]
    rw [hlist]
    rw [t.quoted_append] at hvalue ⊢
    rw [readItems_cons rfl (by decide) hvalue, ih (by omega)]
    rfl

theorem length_le_length_flatMap (ts : List Plain) :
    ts.length ≤ (ts.flatMap fun t => ' ' :: t.quoted ++ [',', '\n']).length := by
  induction ts with
  | nil => exact Nat.zero_le _
  | cons t ts ih =>
    rw [List.flatMap_cons, List.length_append, List.length_cons]
    have hline : 1 ≤ (' ' :: t.quoted ++ [',', '\n']).length := by simp
    omega

/-- A written value is read up to the end of its line. -/
theorem readValue_written (depth : Nat) (w : Written) (rest : List Char) :
    readValue (depth + 1) (w.chars ++ '\n' :: rest) = some (w.value, '\n' :: rest) := by
  cases w with
  | text t => exact readValue_quoted (depth + 1) t (by simp)
  | texts ts =>
    let lines := ts.flatMap fun t => ' ' :: t.quoted ++ [',', '\n']
    have hlist : (Written.texts ts).chars ++ '\n' :: rest =
        '[' :: ('\n' :: lines ++ ']' :: '\n' :: rest) := by
      simp [Written.chars, lines]
    have hfuel : ts.length < ('\n' :: lines ++ ']' :: '\n' :: rest).length + 1 := by
      have hlines : ts.length ≤ lines.length := length_le_length_flatMap ts
      rw [List.length_append, List.length_cons]
      omega
    have hitems := readItems_texts depth ts ('\n' :: rest) hfuel
    rw [hlist]
    show (readItems (readValue depth) _ _).map _ = _
    rw [hitems]
    rfl

/-! ## Keys -/

theorem BareKey.exists_cons (k : BareKey) :
    ∃ c cs, k.chars = c :: cs ∧ isBareKeyChar c = true := by
  obtain ⟨chars, hne, hbare⟩ := k
  cases chars with
  | nil => exact absurd rfl hne
  | cons c cs => exact ⟨c, cs, rfl, hbare c List.mem_cons_self⟩

/-- No bare character is one of those that have a meaning of their own. -/
theorem ne_of_isBareKeyChar {c d : Char} (hc : isBareKeyChar c = true)
    (hd : isBareKeyChar d = false) : c ≠ d := by
  rintro rfl
  rw [hc] at hd
  cases hd

theorem BareKey.skipBlanks_append (k : BareKey) (after : List Char) :
    skipBlanks (k.chars ++ after) = k.chars ++ after := by
  obtain ⟨c, cs, hchars, hc⟩ := k.exists_cons
  have hspace := ne_of_isBareKeyChar hc (d := ' ') (by decide)
  have htab := ne_of_isBareKeyChar hc (d := '\t') (by decide)
  rw [hchars, List.cons_append]
  unfold skipBlanks
  exact List.dropWhile_cons_of_neg (by simp [isBlank, hspace, htab])

/-- A bare key is read up to the first character that is not bare. -/
theorem BareKey.readSimpleKey_append (k : BareKey) {after : List Char}
    (hafter : ∀ c ∈ after.head?, isBareKeyChar c = false) :
    readSimpleKey (k.chars ++ after) = some (k.chars, after) := by
  obtain ⟨c, cs, hchars, hc⟩ := k.exists_cons
  have hquote := ne_of_isBareKeyChar hc (d := '"') (by decide)
  have hapostrophe := ne_of_isBareKeyChar hc (d := '\'') (by decide)
  have htake : (k.chars ++ after).takeWhile isBareKeyChar = k.chars :=
    Text.takeWhile_run k.isBareKeyChar_of_mem hafter
  have hdrop : (k.chars ++ after).dropWhile isBareKeyChar = after :=
    Text.dropWhile_run k.isBareKeyChar_of_mem hafter
  unfold readSimpleKey
  split
  · rename_i h
    rw [hchars] at h
    exact absurd (List.cons.inj h).1 hquote
  · rename_i h
    rw [hchars] at h
    exact absurd (List.cons.inj h).1 hapostrophe
  · rw [htake, hdrop, if_neg k.ne_nil]

theorem BareKey.readKey_append (k : BareKey) {after : List Char}
    (hafter : ∀ c ∈ after.head?, isBareKeyChar c = false)
    (hpoint : (skipBlanks after).head? ≠ some '.') :
    readKey (k.chars ++ after) = some ([k.toString], skipBlanks after) := by
  have hkeys (fuel : Nat) :
      readKeys (fuel + 1) (k.chars ++ after) = some ([k.toString], skipBlanks after) := by
    unfold readKeys
    rw [k.skipBlanks_append, k.readSimpleKey_append hafter]
    simp only [Option.bind_eq_bind, Option.bind_some]
    split
    · rename_i h
      rw [h] at hpoint
      exact absurd rfl hpoint
    · rfl
  unfold readKey
  rw [hkeys]
  rfl

/-! ## Statements -/

theorem Written.skipBlanks_append (w : Written) (rest : List Char) :
    skipBlanks (' ' :: (w.chars ++ rest)) = w.chars ++ rest := by
  cases w with
  | text t =>
    show skipBlanks (' ' :: (t.quoted ++ rest)) = t.quoted ++ rest
    rw [t.quoted_append]
    rfl
  | texts ts => rfl

theorem readPair_pairLine (depth : Nat) (k : BareKey) (w : Written) (rest : List Char) :
    readPair (readValue (depth + 1)) (pairLine k w ++ rest) =
      some (([k.toString], w.value), '\n' :: rest) := by
  have hline : pairLine k w ++ rest =
      k.chars ++ ' ' :: '=' :: ' ' :: (w.chars ++ '\n' :: rest) := by
    simp [pairLine]
  have hkey : readKey (k.chars ++ ' ' :: '=' :: ' ' :: (w.chars ++ '\n' :: rest)) =
      some ([k.toString], '=' :: ' ' :: (w.chars ++ '\n' :: rest)) :=
    k.readKey_append (by simp; decide) (by simp [skipBlanks, isBlank])
  unfold readPair
  rw [hline, hkey]
  show (readValue (depth + 1) (skipBlanks (' ' :: (w.chars ++ '\n' :: rest)))).bind _ = _
  rw [w.skipBlanks_append, readValue_written]
  rfl

/-- A line with a pair is read as that pair. -/
theorem readStatement_pairLine (k : BareKey) (w : Written) (rest : List Char) :
    readStatement (pairLine k w ++ rest) = some (.pair [k.toString] w.value, rest) := by
  obtain ⟨c, cs, hchars, hc⟩ := k.exists_cons
  have hbracket := ne_of_isBareKeyChar hc (d := '[') (by decide)
  have hline : pairLine k w ++ rest =
      c :: (cs ++ ' ' :: '=' :: ' ' :: (w.chars ++ '\n' :: rest)) := by
    simp [pairLine, hchars]
  have hpair := readPair_pairLine (nestingLimit - 2) k w rest
  unfold readStatement
  split
  · rename_i h
    rw [hline] at h
    exact absurd (List.cons.inj h).1 hbracket
  · rename_i h
    rw [hline] at h
    exact absurd (List.cons.inj h).1 hbracket
  · show (readPair (readValue (nestingLimit - 1)) _).bind _ = _
    rw [show nestingLimit - 1 = nestingLimit - 2 + 1 from rfl, hpair]
    rfl

/-- The header of one more table of a list. -/
def tablesLine (k : BareKey) : List Char :=
  '[' :: '[' :: k.chars ++ [']', ']', '\n']

/-- A header in double brackets is read as such. -/
theorem readStatement_tablesLine (k : BareKey) (rest : List Char) :
    readStatement (tablesLine k ++ rest) = some (.tables [k.toString], rest) := by
  have hline : tablesLine k ++ rest = '[' :: '[' :: (k.chars ++ ']' :: ']' :: '\n' :: rest) := by
    simp [tablesLine]
  have hkey : readKey (k.chars ++ ']' :: ']' :: '\n' :: rest) =
      some ([k.toString], ']' :: ']' :: '\n' :: rest) :=
    k.readKey_append (by simp; decide) (by simp [skipBlanks, isBlank])
  rw [hline]
  show (readKey (k.chars ++ ']' :: ']' :: '\n' :: rest)).bind _ = _
  rw [hkey]
  rfl

/-! ## Whole documents -/

/-- The text holds these statements, with any fuel that the reader can be given. -/
def ReadsAs (cs : List Char) (statements : List Statement) : Prop :=
  ∀ fuel, cs.length < fuel → readStatements fuel cs = some statements

theorem readsAs_nil : ReadsAs [] [] := by
  intro fuel hfuel
  obtain ⟨fuel, rfl⟩ : ∃ n, fuel = n + 1 := ⟨fuel - 1, by omega⟩
  rfl

variable {rest : List Char} {statements : List Statement}

/-- An empty line says nothing. -/
theorem ReadsAs.emptyLine (h : ReadsAs rest statements) : ReadsAs ('\n' :: rest) statements := by
  intro fuel hfuel
  obtain ⟨fuel, rfl⟩ : ∃ n, fuel = n + 1 := ⟨fuel - 1, by omega⟩
  rw [List.length_cons] at hfuel
  exact h fuel (by omega)

/-- A comment says nothing. -/
theorem ReadsAs.comment (h : ReadsAs rest statements) (r : Remark) :
    ReadsAs ('#' :: (r.text ++ '\n' :: rest)) statements := by
  intro fuel hfuel
  obtain ⟨fuel, rfl⟩ : ∃ n, fuel = n + 1 := ⟨fuel - 1, by omega⟩
  rw [List.length_cons, List.length_append, List.length_cons] at hfuel
  have hend : skipComment ('#' :: (r.text ++ '\n' :: rest)) = '\n' :: rest :=
    List.dropWhile_append_of_pos r.isCommentChar_of_mem
  show (skipLineEnd? (skipComment ('#' :: (r.text ++ '\n' :: rest)))).bind _ = _
  rw [hend]
  exact h fuel (by omega)

/-- A line that starts with a key or a bracket is read as the statement that it holds. -/
theorem ReadsAs.statement {cs : List Char} {c : Char} {s : Statement}
    (h : ReadsAs rest statements) (hc : isBareKeyChar c = true ∨ c = '[')
    (hread : readStatement (c :: cs) = some (s, rest)) (hlength : rest.length ≤ cs.length) :
    ReadsAs (c :: cs) (s :: statements) := by
  intro fuel hfuel
  obtain ⟨fuel, rfl⟩ : ∃ n, fuel = n + 1 := ⟨fuel - 1, by omega⟩
  rw [List.length_cons] at hfuel
  have hrest := h fuel (by omega)
  have hother (d : Char) (hd : isBareKeyChar d = false) (hbracket : d ≠ '[') : c ≠ d := by
    rintro rfl
    rcases hc with hc | rfl
    · rw [hc] at hd
      cases hd
    · exact hbracket rfl
  have hspace := hother ' ' (by decide) (by decide)
  have htab := hother '\t' (by decide) (by decide)
  have hfeed := hother '\n' (by decide) (by decide)
  have hreturn := hother '\r' (by decide) (by decide)
  have hhash := hother '#' (by decide) (by decide)
  have hblanks : skipBlanks (c :: cs) = c :: cs := by
    unfold skipBlanks
    exact List.dropWhile_cons_of_neg (by simp [isBlank, hspace, htab])
  rw [readStatements, hblanks]
  split
  · rename_i heq
    cases heq
  · rename_i heq
    exact absurd (List.cons.inj heq).1 hfeed
  · rename_i heq
    exact absurd (List.cons.inj heq).1 hreturn
  · rename_i heq
    exact absurd (List.cons.inj heq).1 hhash
  · rw [hread]
    show (readStatements fuel rest).bind _ = _
    rw [hrest]
    rfl

theorem ReadsAs.pairLine (h : ReadsAs rest statements) (k : BareKey) (w : Written) :
    ReadsAs (Toml.pairLine k w ++ rest) (.pair [k.toString] w.value :: statements) := by
  obtain ⟨c, cs, hchars, hc⟩ := k.exists_cons
  have hread := readStatement_pairLine k w rest
  have hline : Toml.pairLine k w ++ rest =
      c :: (cs ++ ' ' :: '=' :: ' ' :: w.chars ++ '\n' :: rest) := by
    simp [Toml.pairLine, hchars]
  rw [hline] at hread ⊢
  apply h.statement (.inl hc) hread
  rw [List.length_append, List.length_cons]
  omega

theorem ReadsAs.tablesLine (h : ReadsAs rest statements) (k : BareKey) :
    ReadsAs (Toml.tablesLine k ++ rest) (.tables [k.toString] :: statements) := by
  have hread := readStatement_tablesLine k rest
  have hline : Toml.tablesLine k ++ rest =
      '[' :: ('[' :: k.chars ++ ']' :: ']' :: '\n' :: rest) := by
    simp [Toml.tablesLine]
  rw [hline] at hread ⊢
  apply h.statement (.inr rfl) hread
  simp only [List.length_append, List.length_cons]
  omega

/-- Lines with pairs are read as these pairs in order. -/
theorem ReadsAs.pairLines (h : ReadsAs rest statements) (pairs : List (BareKey × Written)) :
    ReadsAs (pairs.flatMap (fun p => Toml.pairLine p.1 p.2) ++ rest)
      (pairs.map (fun p => .pair [p.1.toString] p.2.value) ++ statements) := by
  induction pairs with
  | nil => exact h
  | cons p pairs ih =>
    rw [List.flatMap_cons, List.append_assoc, List.map_cons, List.cons_append]
    exact ih.pairLine p.1 p.2

end LinkReport.Toml
