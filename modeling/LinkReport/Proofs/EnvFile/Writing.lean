import LinkReport.EnvFile.Bindings
import LinkReport.Proofs.EnvFile.Splitting
import LinkReport.Proofs.Text.Ascii

/-!
# Writing environment files

The second side of the reader: keys, values in double quotes and the lines between them.
A value is written with a backslash before each backslash, double quote and dollar sign,
and its line feeds stay as they are, so one assignment may fill several physical lines.
Splitting and value reader follow different rules, and both find the closing quote.

* `Scan.run_escaped` and `Mode.read_escaped` are the two readers on a written value;
* `logicalLines_text` says what each written line is read as;
* `bindings_write` puts them together: a written file binds what was written.
-/

namespace LinkReport.EnvFile

/-- A key that an entry can bind. -/
structure Key where
  first : Char
  rest : List Char
  isKeyStart_first : isKeyStart first = true
  isKeyChar_rest : ∀ c ∈ rest, isKeyChar c = true

/-- Blanks that stand on one line. -/
structure Indent where
  blanks : List Char
  isBlank_of_mem : ∀ c ∈ blanks, Text.isBlank c = true
  lineFeed_notMem : '\n' ∉ blanks

/-- A text that stands on one line. -/
structure Remark where
  text : List Char
  lineFeed_notMem : '\n' ∉ text

/-- A line as it can be written: an assignment, a comment or a line of blanks. -/
inductive Written where
  | assignment (key : Key) (value : List Char)
  | comment (indent : Indent) (remark : Remark)
  | vacant (indent : Indent)

/-- The characters of a key. -/
def Key.text (k : Key) : List Char :=
  k.first :: k.rest

/-- A character as it is written between double quotes. -/
def escape (c : Char) : List Char :=
  if c = '\\' ∨ c = '"' ∨ c = '$' then ['\\', c] else [c]

/-- A value as it is written between double quotes. -/
def escaped (value : List Char) : List Char :=
  value.flatMap escape

namespace Written

/-- The text of a written line, without the line feed at its end. -/
def text : Written → List Char
  | assignment key value => key.text ++ '=' :: '"' :: escaped value ++ ['"']
  | comment indent remark => indent.blanks ++ '#' :: remark.text
  | vacant indent => indent.blanks

/-- The binding that a written line makes. -/
def binding? : Written → Option Binding
  | assignment key value => some (key.text, value)
  | comment .. | vacant _ => none

end Written

/-- The text of a file with these lines. -/
def write (lines : List Written) : List Char :=
  lines.flatMap fun line => line.text ++ ['\n']

/-! ## Characters of keys and values -/

theorem isKeyChar_of_isKeyStart {c : Char} (h : isKeyStart c = true) : isKeyChar c = true := by
  rw [isKeyStart, Bool.or_eq_true] at h
  rcases h with hletter | hc
  · simp [isKeyChar, Char.isAlphanum, hletter]
  · simp [isKeyChar, hc]

theorem Key.isKeyChar_of_mem (k : Key) {c : Char} (h : c ∈ k.text) : isKeyChar c = true := by
  rcases List.mem_cons.1 h with rfl | h
  · exact isKeyChar_of_isKeyStart k.isKeyStart_first
  · exact k.isKeyChar_rest c h

theorem isBlank_eq_false_of_isKeyChar {c : Char} (h : isKeyChar c = true) :
    Text.isBlank c = false := by
  rw [isKeyChar, Bool.or_eq_true, Bool.or_eq_true, beq_iff_eq, beq_iff_eq] at h
  rcases h with (h | rfl) | rfl
  · exact Text.isBlank_eq_false_of_isAlphanum h
  · decide
  · decide

theorem escape_eq_self {c : Char} (h : ¬(c = '\\' ∨ c = '"' ∨ c = '$')) : escape c = [c] :=
  if_neg h

theorem escape_eq_pair {c : Char} (h : c = '\\' ∨ c = '"' ∨ c = '$') : escape c = ['\\', c] :=
  if_pos h

/-- What stands before a line feed of a written value is itself written. -/
theorem exists_escaped_eq {value line rest : List Char} (h : escaped value = line ++ '\n' :: rest) :
    ∃ before, line = escaped before := by
  induction value generalizing line with
  | nil => cases line <;> cases h
  | cons c value ih =>
    rw [escaped, List.flatMap_cons, ← escaped] at h
    by_cases hspecial : c = '\\' ∨ c = '"' ∨ c = '$'
    · rw [escape_eq_pair hspecial] at h
      -- neither the backslash nor the character that it keeps is a line feed
      match line, h with
      | [], h => cases h
      | [_], h =>
        have hc : c = '\n' := (List.cons.inj (List.cons.inj h).2).1
        exact absurd (hc ▸ hspecial) (by decide)
      | _ :: _ :: line, h =>
        obtain ⟨rfl, hkept⟩ := List.cons.inj h
        obtain ⟨rfl, hrest⟩ := List.cons.inj hkept
        obtain ⟨before, rfl⟩ := ih hrest
        refine ⟨c :: before, ?_⟩
        rw [escaped, escaped, List.flatMap_cons, escape_eq_pair hspecial]
        rfl
    · rw [escape_eq_self hspecial] at h
      cases line with
      | nil => exact ⟨[], rfl⟩
      | cons d line =>
        obtain ⟨rfl, hrest⟩ := List.cons.inj h
        obtain ⟨before, rfl⟩ := ih hrest
        refine ⟨c :: before, ?_⟩
        rw [escaped, escaped, List.flatMap_cons, escape_eq_self hspecial]
        rfl

/-! ## A written value in the two readers -/

/-- Inside double quotes the splitting passes over an escaped value. -/
theorem Scan.run_escaped (value : List Char) :
    Scan.weak.run (escaped value) = .reached .weak := by
  -- a backslash and the character after it lead back to where they started
  refine Scan.run_flatMap fun c _ => ?_
  by_cases h : c = '\\' ∨ c = '"' ∨ c = '$'
  · rw [escape_eq_pair h]
    rfl
  · rw [escape_eq_self h]
    rw [not_or, not_or] at h
    simp [run, next, h, ScanEnd.cons]

/-- Inside double quotes an escaped value is read as the value, and the closing quote ends
it. -/
theorem Mode.read_escaped (lookup : List Char → List Char) (value : List Char) (index : Nat) :
    (Mode.plain true).read lookup index (escaped value ++ ['"']) = .ok value := by
  induction value generalizing index with
  | nil => rfl
  | cons c value ih =>
    rw [escaped, List.flatMap_cons, List.append_assoc, ← escaped]
    by_cases h : c = '\\' ∨ c = '"' ∨ c = '$'
    · have hkept : unescape? c = some c := by
        rcases h with rfl | rfl | rfl <;> rfl
      rw [escape_eq_pair h]
      simp [read, step, hkept, ih, Except.map]
    · rw [escape_eq_self h]
      rw [not_or, not_or] at h
      simp [read, step, h, ih, Except.map]

/-! ## Written lines in the two readers -/

theorem Key.startsComment_append (k : Key) (cs : List Char) :
    startsComment (k.text ++ cs) = false := by
  have hkey := isKeyChar_of_isKeyStart k.isKeyStart_first
  rw [Key.text, List.cons_append, startsComment_cons (isBlank_eq_false_of_isKeyChar hkey)]
  rw [beq_eq_false_iff_ne]
  intro h
  exact absurd (h ▸ hkey) (by decide)

/-- Over a key the splitting stays outside quotes. -/
theorem Key.run_text (k : Key) : Scan.complete.run k.text = .reached .complete :=
  Scan.run_complete rfl (fun _ => isBlank_eq_false_of_isKeyChar) fun _ => k.isKeyChar_of_mem

theorem Key.lineFeed_notMem (k : Key) : '\n' ∉ k.text := fun h =>
  absurd (k.isKeyChar_of_mem h) (by decide)

/-- After the opening quote, a written value and its closing quote end the logical line, over as
many physical lines as the value has. -/
theorem logicalLinesFrom_escaped {state : Scan} (pending : List Char) {head : List Char}
    (value : List Char) (hhead : '\n' ∉ head) (hrun : state.run head = .reached .weak)
    (hcomment : ∀ cs, startsComment (pending ++ head ++ cs) = false) (rest : List UInt8) :
    logicalLinesFrom pending state
        (physicalLines (Text.utf8 (head ++ escaped value ++ ['"']) ++ 10 :: rest))
      = .ok (pending ++ head ++ escaped value ++ ['"']) :: logicalLines rest := by
  have hlines : ∀ line rest, escaped value = line ++ '\n' :: rest →
      Scan.weak.run (line ++ ['\n']) = .reached .weak := by
    intro line rest hvalue
    obtain ⟨before, rfl⟩ := exists_escaped_eq hvalue
    exact Scan.run_append (Scan.run_escaped before) rfl
  have hend : Scan.weak.run (escaped value ++ ['"'] ++ ['\n']) = .reached .complete :=
    Scan.run_append (Scan.run_append (Scan.run_escaped value) rfl) rfl
  rw [logicalLinesFrom_lines pending (escaped value) (by decide) hhead hrun hlines (by decide) hend
    hcomment, if_pos rfl]
  have hchomp := chomp_append_lineFeed (by decide : '"' ≠ '\r') (pending ++ head ++ escaped value)
  simpa using hchomp

/-- A logical line of blanks binds nothing. -/
theorem readLine_of_blank (lookup : List Char → List Char) {line : List Char}
    (h : ∀ c ∈ line, Text.isBlank c = true) : readLine lookup line = .ok none := by
  rw [readLine, Text.trimEnd_eq_nil_iff.2 h]
  rfl

/-- A key is read up to the first character that cannot belong to it. -/
theorem Key.readKey_append (k : Key) {c : Char} (hc : isKeyChar c = false) (cs : List Char) :
    readKey (k.text ++ c :: cs) = .ok (k.text, c :: cs) := by
  have htake : (k.text ++ c :: cs).takeWhile isKeyChar = k.text := by
    rw [List.takeWhile_append_of_pos fun d hd => k.isKeyChar_of_mem hd,
      List.takeWhile_cons_of_neg (by simp [hc]), List.append_nil]
  have hdrop : (k.text ++ c :: cs).dropWhile isKeyChar = c :: cs := by
    rw [List.dropWhile_append_of_pos fun d hd => k.isKeyChar_of_mem hd,
      List.dropWhile_cons_of_neg (by simp [hc])]
  have hread : readKey (k.text ++ c :: cs)
      = .ok ((k.text ++ c :: cs).takeWhile isKeyChar, (k.text ++ c :: cs).dropWhile isKeyChar) :=
    if_pos k.isKeyStart_first
  rw [hread, htake, hdrop]

/-- The head of an entry without blanks, also where its key is the word `export`. -/
theorem Key.readHead_append (k : Key) (cs : List Char) :
    readHead (k.text ++ '=' :: cs) = .ok (k.text, cs) := by
  have hequals : Text.trimStart ('=' :: cs) = '=' :: cs :=
    Text.trimStart_cons_of_not_blank (by decide) cs
  rw [readHead, k.readKey_append (by decide)]
  simp [bind, Except.bind, hequals, readEquals]

/-- A value in double quotes is read as what was written. -/
theorem readValue_quoted (lookup : List Char → List Char) (value : List Char) :
    readValue lookup ('"' :: (escaped value ++ ['"'])) = .ok value := by
  have hstep : (Mode.plain false).step lookup '"' = .go (.plain true) [] := rfl
  rw [readValue, Mode.read, hstep]
  simp only [Mode.read_escaped, Except.map, List.nil_append]

/-- An entry in double quotes binds its key to its value. -/
theorem readLine_assignment (lookup : List Char → List Char) (k : Key) (value : List Char) :
    readLine lookup (Written.assignment k value).text = .ok (some (k.text, value)) := by
  have hkey := isKeyChar_of_isKeyStart k.isKeyStart_first
  -- no blank stands at either end, so nothing is trimmed
  have hend : Text.trimEnd (Written.assignment k value).text
      = (Written.assignment k value).text :=
    Text.trimEnd_append_of_not_blank (by decide) _
  have hstart : Text.trimStart (Written.assignment k value).text
      = (Written.assignment k value).text :=
    Text.trimStart_cons_of_not_blank (isBlank_eq_false_of_isKeyChar hkey) _
  have hvacant : isVacant (Written.assignment k value).text = false := by
    have hne : k.first ≠ '#' := fun h => absurd (h ▸ hkey) (by decide)
    simpa [isVacant, Written.text, Key.text] using hne
  have hhead : readHead (Written.assignment k value).text
      = .ok (k.text, '"' :: (escaped value ++ ['"'])) := by
    rw [Written.text, List.append_assoc]
    exact k.readHead_append _
  have hquote : Text.trimStart ('"' :: (escaped value ++ ['"']))
      = '"' :: (escaped value ++ ['"']) :=
    Text.trimStart_cons_of_not_blank (by decide) _
  rw [readLine, hend, hstart, hvacant, hhead]
  simp only [hquote, readValue_quoted]
  rfl

/-- Over blanks the scan stays outside quotes. -/
theorem Scan.run_blanks {state : Scan} {blanks : List Char}
    (hstate : state = .complete ∨ state = .blank)
    (h : ∀ c ∈ blanks, Text.isBlank c = true) :
    ∃ t, (t = .complete ∨ t = .blank) ∧ state.run blanks = .reached t := by
  induction blanks generalizing state with
  | nil => exact ⟨state, hstate, rfl⟩
  | cons c blanks ih =>
    have hc : Text.isBlank c = true := h c List.mem_cons_self
    have hopening : opening? c = none := opening?_eq_none (by decide) hc
    have hcomment : c ≠ '#' := fun hhash => absurd (hhash ▸ hc) (by decide)
    -- a blank may move the scan from one of the two states to the other
    have hnext : state.next c = .complete ∨ state.next c = .blank := by
      rcases hstate with rfl | rfl
      · rw [next, hopening, Option.getD_none]
        split
        · exact .inr rfl
        · exact .inl rfl
      · rw [next, hopening]
        exact .inl rfl
    obtain ⟨t, ht, hrun⟩ := ih hnext fun d hd => h d (List.mem_cons_of_mem c hd)
    refine ⟨t, ht, ?_⟩
    rw [run, if_neg fun hc => hcomment hc.2, hrun]
    rfl

/-- A line of blanks ends where it stands. -/
theorem Indent.run_blanks (indent : Indent) :
    Scan.complete.run (indent.blanks ++ ['\n']) = .reached .complete := by
  obtain ⟨t, ht, hrun⟩ := Scan.run_blanks (.inl rfl) indent.isBlank_of_mem
  refine Scan.run_append hrun ?_
  rcases ht with rfl | rfl <;> rfl

/-- A written line is read as one logical line, whatever follows it, and that line makes
the binding that was written. -/
theorem logicalLines_text (w : Written) (rest : List UInt8) :
    ∃ line, logicalLines (Text.utf8 w.text ++ 10 :: rest) = .ok line :: logicalLines rest ∧
      ∀ lookup, readLine lookup line = .ok w.binding? := by
  cases w with
  | assignment key value =>
    refine ⟨_, ?_, fun lookup => readLine_assignment lookup key value⟩
    have hhead : '\n' ∉ key.text ++ ['=', '"'] := by simp [key.lineFeed_notMem]
    have hquote : Scan.complete.run (key.text ++ ['=', '"']) = .reached .weak :=
      Scan.run_append key.run_text rfl
    have hsplit := logicalLinesFrom_escaped [] value hhead hquote
      (fun cs => by simpa using key.startsComment_append ('=' :: '"' :: cs)) rest
    simpa [Written.text, logicalLines] using hsplit
  | comment indent remark =>
    refine ⟨[], logicalLinesFrom_comment ?_ ?_ rest, fun lookup => rfl⟩
    · simp [Written.text, indent.lineFeed_notMem, remark.lineFeed_notMem]
    · rw [startsComment, Written.text, List.nil_append, List.append_assoc,
        Text.trimStart_append_of_blank indent.isBlank_of_mem]
      rfl
  | vacant indent =>
    -- a carriage return may be cut off too, so only this much is known of the line
    have hblank : ∀ c ∈ indent.blanks ++ ['\n'], Text.isBlank c = true := by
      intro c hc
      rcases List.mem_append.1 hc with hc | hc
      · exact indent.isBlank_of_mem c hc
      · rw [List.mem_singleton.1 hc]
        decide
    have hstart : startsComment (indent.blanks ++ ['\n']) = false := by
      rw [startsComment, Text.trimStart_eq_nil_iff.2 hblank]
      rfl
    refine ⟨_, logicalLinesFrom_closed indent.lineFeed_notMem hstart indent.run_blanks rest,
      fun lookup => readLine_of_blank lookup fun c hc => hblank c (mem_of_mem_chomp hc)⟩

/-- Reading a written line first appends its binding to those of the earlier lines. -/
theorem bindLines_text (env : Environment) (earlier : List Binding) (w : Written)
    (rest : List UInt8) :
    bindLines env earlier (logicalLines (Text.utf8 w.text ++ 10 :: rest))
      = bindLines env (earlier ++ w.binding?.toList) (logicalLines rest) := by
  obtain ⟨line, hsplit, hline⟩ := logicalLines_text w rest
  rw [hsplit, bindLines, hline]
  cases w.binding? with
  | none => simp [bind, Except.bind]
  | some b => rfl

/-- Reading written lines first appends their bindings to those of the earlier lines. -/
theorem bindLines_write (env : Environment) (earlier : List Binding) (lines : List Written)
    (rest : List UInt8) :
    bindLines env earlier (logicalLines (Text.utf8 (write lines) ++ rest))
      = bindLines env (earlier ++ lines.filterMap Written.binding?) (logicalLines rest) := by
  induction lines generalizing earlier with
  | nil => simp [write]
  | cons w lines ih =>
    have hwrite : Text.utf8 (write (w :: lines)) ++ rest
        = Text.utf8 w.text ++ 10 :: (Text.utf8 (write lines) ++ rest) := by
      simp [write]
    rw [hwrite, bindLines_text, ih, List.append_assoc]
    congr 2
    cases hw : w.binding? <;> simp [hw]

/-- A written file binds what was written, in order, in every environment. -/
theorem bindings_write (env : Environment) (lines : List Written) :
    bindings env (Text.utf8 (write lines)) = .ok (lines.filterMap Written.binding?) := by
  have h := bindLines_write env [] lines []
  rw [List.append_nil, List.nil_append] at h
  rw [bindings, h]
  rfl

end LinkReport.EnvFile
