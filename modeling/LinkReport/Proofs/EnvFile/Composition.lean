import LinkReport.Proofs.EnvFile.Templates
import LinkReport.Proofs.EnvFile.Writing

/-!
# Files put together

A file whose lines can all be read may stand before any other file. After its last line feed
the splitting is where it was at the start, so the lines of the other file are cut and read as
if they stood alone, faults included. Only the names in the values of the other file see what
was bound before.

* `logicalLinesFrom_append` and `lineEntries_append` follow the splitting and the reading over
  the seam;
* `entries_append` the entries of two files, and `entries_vacant` those after a line that
  binds nothing;
* `bindEntries_of_names_eq_nil` entries without names do not see what stands before them.
-/

namespace LinkReport.EnvFile

/-- The entries that a file writes, in order. -/
def entries (content : List UInt8) : Except Error (List Entry) :=
  lineEntries (logicalLines content)

/-- The bytes end where a line ends: there are none, or the last one is a line feed. -/
def EndsLine (bytes : List UInt8) : Prop :=
  bytes = [] ∨ bytes.getLast? = some '\n'.toUInt8

instance (bytes : List UInt8) : Decidable (EndsLine bytes) :=
  inferInstanceAs (Decidable (_ ∨ _))

/-! ## Physical lines -/

theorem EndsLine.of_cons {b : UInt8} {bs : List UInt8} (h : EndsLine (b :: bs)) : EndsLine bs := by
  cases bs with
  | nil => exact .inl rfl
  | cons c cs =>
    rcases h with h | h
    · cases h
    · exact .inr (by rwa [List.getLast?_cons_cons] at h)

theorem EndsLine.eq_lineFeed {b : UInt8} (h : EndsLine [b]) : b = 10 := by
  rcases h with h | h
  · cases h
  · exact Option.some.inj h

theorem physicalLines_eq_nil_iff {bs : List UInt8} : physicalLines bs = [] ↔ bs = [] := by
  refine ⟨fun h => ?_, fun h => h ▸ rfl⟩
  rw [← flatten_physicalLines bs, h, List.flatten_nil]

/-- What stands after a line feed is cut into lines on its own. -/
theorem physicalLines_append {first : List UInt8} (h : EndsLine first) (second : List UInt8) :
    physicalLines (first ++ second) = physicalLines first ++ physicalLines second := by
  induction first with
  | nil => rfl
  | cons b bs ih =>
    rw [List.cons_append, physicalLines, physicalLines, ih h.of_cons]
    by_cases hb : b = 10
    · rw [if_pos hb, if_pos hb, List.cons_append]
    · rw [if_neg hb, if_neg hb]
      -- a byte that is no line feed is not the last one, so its line goes on
      cases hbs : physicalLines bs with
      | nil =>
        rw [physicalLines_eq_nil_iff.1 hbs] at h
        exact absurd h.eq_lineFeed hb
      | cons line lines => rfl

/-! ## Logical lines -/

theorem Scan.subset_of_run_eq_comment {state : Scan} {line kept : List Char}
    (h : state.run line = .comment kept) : kept ⊆ line := by
  induction line generalizing state kept with
  | nil => cases h
  | cons c cs ih =>
    rw [Scan.run] at h
    split at h
    · cases h
      exact List.nil_subset _
    · cases hrun : (state.next c).run cs with
      | reached t =>
        rw [hrun] at h
        cases h
      | comment kept' =>
        rw [hrun] at h
        cases h
        exact List.cons_subset_cons c (ih hrun)

/-- A physical line is at fault, ends a logical line that holds nothing but its characters and
the pending ones, or leaves the logical line open. What follows it has no part in that. -/
theorem logicalLinesFrom_cons_cases (pending : List Char) (state : Scan) (bytes : List UInt8) :
    (∀ rest, logicalLinesFrom pending state (bytes :: rest) = [.error .notUtf8]) ∨
      ∃ text, Text.ofUtf8? bytes = some text ∧
        ((∃ line, line ⊆ pending ++ text ∧
            ∀ rest, logicalLinesFrom pending state (bytes :: rest) =
              .ok line :: logicalLinesFrom [] .complete rest) ∨
          ∃ t, t ≠ .complete ∧ state.run text = .reached t ∧
            ∀ rest, logicalLinesFrom pending state (bytes :: rest) =
              logicalLinesFrom (pending ++ text) t rest) := by
  cases htext : Text.ofUtf8? bytes with
  | none =>
    refine .inl fun rest => ?_
    rw [logicalLinesFrom, htext]
  | some text =>
    refine .inr ⟨text, rfl, ?_⟩
    by_cases hcomment : startsComment (pending ++ text) = true
    · refine .inl ⟨[], List.nil_subset _, fun rest => ?_⟩
      simp only [logicalLinesFrom, htext, if_pos hcomment]
    · cases hrun : state.run text with
      | comment kept =>
        refine .inl ⟨pending ++ kept, ?_, fun rest => ?_⟩
        · exact List.append_subset.2 ⟨List.subset_append_left pending text,
            List.subset_append_of_subset_right pending (Scan.subset_of_run_eq_comment hrun)⟩
        · simp only [logicalLinesFrom, htext, if_neg hcomment, hrun]
      | reached t =>
        by_cases ht : t = .complete
        · refine .inl ⟨chomp (pending ++ text), fun c => mem_of_mem_chomp, fun rest => ?_⟩
          simp only [logicalLinesFrom, htext, if_neg hcomment, hrun, ht]
        · refine .inr ⟨t, ht, rfl, fun rest => ?_⟩
          simp only [logicalLinesFrom, htext, if_neg hcomment, hrun]

variable {pending : List Char} {state : Scan} {lines : List (List UInt8)}

/-- Where no line is at fault, none is open at the end, and what follows is split as at the
start of a file. -/
theorem logicalLinesFrom_append (hpending : state = .complete → pending = [])
    (h : ∀ e, .error e ∉ logicalLinesFrom pending state lines) (more : List (List UInt8)) :
    logicalLinesFrom pending state (lines ++ more) =
      logicalLinesFrom pending state lines ++ logicalLinesFrom [] .complete more := by
  induction lines generalizing pending state with
  | nil =>
    by_cases hstate : state = .complete
    · rw [hpending hstate, hstate]
      rfl
    · rw [logicalLinesFrom, if_neg hstate] at h
      exact absurd List.mem_cons_self (h _)
  | cons bytes lines ih =>
    rw [List.cons_append]
    rcases logicalLinesFrom_cons_cases pending state bytes with
      hfault | ⟨text, -, ⟨line, -, hline⟩ | ⟨t, ht, -, hopen⟩⟩
    · rw [hfault] at h
      exact absurd List.mem_cons_self (h _)
    · rw [hline] at h
      rw [hline, hline, ih (fun _ => rfl) fun e he => h e (List.mem_cons_of_mem _ he)]
      rfl
    · rw [hopen] at h
      rw [hopen, hopen, ih (fun hcomplete => absurd hcomplete ht) h]

/-- A logical line holds characters of the file only. -/
theorem exists_mem_of_mem_logicalLinesFrom {line : List Char} {c : Char}
    (hline : .ok line ∈ logicalLinesFrom pending state lines) (hc : c ∈ line) :
    c ∈ pending ∨ ∃ text, Text.utf8 text ∈ lines ∧ c ∈ text := by
  induction lines generalizing pending state with
  | nil =>
    rw [logicalLinesFrom] at hline
    split at hline
    · cases hline
    · rw [List.mem_singleton] at hline
      cases hline
  | cons bytes lines ih =>
    have hlater : (∃ text, Text.utf8 text ∈ lines ∧ c ∈ text) →
        ∃ text, Text.utf8 text ∈ bytes :: lines ∧ c ∈ text := by
      rintro ⟨text, htext, hc⟩
      exact ⟨text, List.mem_cons_of_mem bytes htext, hc⟩
    have hfirst {text : List Char} (htext : Text.ofUtf8? bytes = some text)
        (hmem : c ∈ pending ++ text) :
        c ∈ pending ∨ ∃ text, Text.utf8 text ∈ bytes :: lines ∧ c ∈ text := by
      rw [Text.ofUtf8?_eq_some_iff] at htext
      rcases List.mem_append.1 hmem with hmem | hmem
      · exact .inl hmem
      · exact .inr ⟨text, htext ▸ List.mem_cons_self, hmem⟩
    rcases logicalLinesFrom_cons_cases pending state bytes with
      hfault | ⟨text, htext, ⟨first, hsubset, hsplit⟩ | ⟨t, -, -, hopen⟩⟩
    · rw [hfault, List.mem_singleton] at hline
      cases hline
    · rw [hsplit] at hline
      rcases List.mem_cons.1 hline with heq | hline
      · cases heq
        exact hfirst htext (hsubset hc)
      · rcases ih hline with hnil | hlines
        · cases hnil
        · exact .inr (hlater hlines)
    · rw [hopen] at hline
      rcases ih hline with hmem | hlines
      · exact hfirst htext hmem
      · exact .inr (hlater hlines)

/-! ## Entries -/

/-- The entries of lines are those of the first of them and then those of the others. -/
theorem lineEntries_append (xs ys : List (Except Error (List Char))) :
    lineEntries (xs ++ ys) =
      (lineEntries xs >>= fun es => (lineEntries ys).map (es ++ ·)) := by
  induction xs with
  | nil =>
    rw [List.nil_append]
    show lineEntries ys = (lineEntries ys).map ([] ++ ·)
    cases lineEntries ys <;> rfl
  | cons line xs ih =>
    cases line with
    | error e => rfl
    | ok line =>
      rw [List.cons_append, lineEntries, lineEntries, ih]
      cases lineEntry line with
      | error e => rfl
      | ok entry =>
        cases lineEntries xs with
        | error e => rfl
        | ok es =>
          cases lineEntries ys with
          | error e => rfl
          | ok fs => exact congrArg Except.ok (List.append_assoc ..).symm

theorem error_notMem_of_lineEntries {lines : List (Except Error (List Char))} {es : List Entry}
    (h : lineEntries lines = .ok es) (e : Error) : .error e ∉ lines := by
  intro he
  obtain ⟨before, after, rfl⟩ := List.append_of_mem he
  rw [lineEntries_append] at h
  cases hbefore : lineEntries before with
  | error e => rw [hbefore] at h; cases h
  | ok es => rw [hbefore] at h; cases h

/-- The entries of two files put together are those of the first and then those of the
second, and a fault of the second is the fault of both. -/
theorem entries_append {first : List UInt8} {es : List Entry} (hend : EndsLine first)
    (h : entries first = .ok es) (second : List UInt8) :
    entries (first ++ second) = (entries second).map (es ++ ·) := by
  have hlines : ∀ e, .error e ∉ logicalLinesFrom [] .complete (physicalLines first) :=
    error_notMem_of_lineEntries h
  have hsplit : logicalLines (first ++ second) = logicalLines first ++ logicalLines second := by
    rw [logicalLines, physicalLines_append hend]
    exact logicalLinesFrom_append (fun _ => rfl) hlines _
  have hfirst : lineEntries (logicalLines first) = .ok es := h
  rw [entries, hsplit, lineEntries_append, hfirst]
  rfl

/-- The entries of a file are that of its first line, if it has one, and then those of the
rest. -/
theorem entries_of_line {content rest : List UInt8} {line : List Char} {entry : Option Entry}
    (hsplit : logicalLines content = .ok line :: logicalLines rest)
    (hentry : lineEntry line = .ok entry) :
    entries content = (entries rest).map (entry.toList ++ ·) := by
  unfold entries
  rw [hsplit, lineEntries, hentry]
  cases lineEntries (logicalLines rest) <;> rfl

/-- The entry of a key and a text after the equals sign that writes a value. -/
theorem lineEntry_of_value (k : Key) {line value : List Char} {c : Char} {t : Template}
    (hline : Text.trimEnd line = k.text ++ '=' :: value) (hfirst : value.head? = some c)
    (hblank : Text.isBlank c = false) (hhash : c ≠ '#') (hvalue : valueTemplate value = .ok t) :
    lineEntry line = .ok (some ⟨k.text, t⟩) := by
  obtain ⟨cs, rfl⟩ := List.head?_eq_some_iff.1 hfirst
  have hkey := isKeyChar_of_isKeyStart k.isKeyStart_first
  have hstart : Text.trimStart (k.text ++ '=' :: c :: cs) = k.text ++ '=' :: c :: cs :=
    Text.trimStart_cons_of_not_blank (isBlank_eq_false_of_isKeyChar hkey) _
  have hvacant : isVacant (k.text ++ '=' :: c :: cs) = false := by
    have hne : k.first ≠ '#' := fun h => absurd (h ▸ hkey) (by decide)
    simpa [isVacant, Key.text] using hne
  have hfilled : isVacant (c :: cs) = false := by simpa [isVacant] using hhash
  unfold lineEntry
  simp only [hline, hstart, hvacant, k.readHead_append, hfilled, hvalue,
    Text.trimStart_cons_of_not_blank hblank, Bool.false_eq_true, if_false]
  rfl

section
variable {line : List Char} {entry : Option Entry}

/-- A line that ends where it is closed is read by itself. -/
theorem entries_of_closed (hline : '\n' ∉ line)
    (hcomment : startsComment (line ++ ['\n']) = false)
    (hrun : Scan.complete.run (line ++ ['\n']) = .reached .complete)
    (hentry : lineEntry line = .ok entry) (rest : List UInt8) :
    entries (Text.utf8 line ++ 10 :: rest) = (entries rest).map (entry.toList ++ ·) := by
  have hchomp := lineEntry_congr_trimEnd (trimEnd_chomp_append_lineFeed line) entry
  exact entries_of_line (logicalLines_closed hline hcomment hrun rest) (hchomp.2 hentry)

/-- Of a line that is cut short what is kept is read. -/
theorem entries_of_cut {kept : List Char} (hline : '\n' ∉ line)
    (hcomment : startsComment (line ++ ['\n']) = false)
    (hrun : Scan.complete.run (line ++ ['\n']) = .comment kept)
    (hentry : lineEntry kept = .ok entry) (rest : List UInt8) :
    entries (Text.utf8 line ++ 10 :: rest) = (entries rest).map (entry.toList ++ ·) :=
  entries_of_line (logicalLinesFrom_cut hline hcomment hrun rest) hentry

end

/-- A written line that binds nothing has no part in the entries. -/
theorem entries_vacant {w : Written} (hw : w.binding? = none) (rest : List UInt8) :
    entries (Text.utf8 w.text ++ 10 :: rest) = entries rest := by
  obtain ⟨line, hsplit, hline⟩ := logicalLines_text w rest
  have hentry : lineEntry line = .ok none := by
    have hread := hline nothing
    rw [hw, readLine_eq_map_binding] at hread
    cases hentry : lineEntry line with
    | error e =>
      rw [hentry] at hread
      cases hread
    | ok entry =>
      rw [hentry] at hread
      cases entry with
      | none => rfl
      | some entry => cases hread
  rw [entries_of_line hsplit hentry]
  cases entries rest <;> rfl

/-! ## Entries without names -/

/-- The place is inside a name. -/
def Mode.inName : Mode → Bool
  | .name .. | .braced .. => true
  | .plain _ | .escape _ | .single | .ended => false

/-- Only a dollar sign leads into a name. -/
theorem Mode.inName_of_step {mode next : Mode} {c : Char} {kept : List Char}
    (hmode : mode.inName = false) (hc : c ≠ '$') (h : mode.step nothing c = .go next kept) :
    next.inName = false := by
  cases mode with
  | name => cases hmode
  | braced => cases hmode
  | ended =>
    rw [step] at h
    split at h
    · cases h; rfl
    · split at h <;> cases h
  | escape quoted =>
    rw [step] at h
    split at h <;> cases h
    rfl
  | single =>
    rw [step] at h
    split at h <;> cases h <;> rfl
  | plain quoted =>
    rw [step, if_neg hc] at h
    repeat' split at h
    all_goals cases h; rfl

theorem Mode.completed?_of_not_inName {mode : Mode} (hmode : mode.inName = false) (c : Char) :
    mode.completed? c = none := by
  cases mode <;> first | rfl | cases hmode

theorem Mode.pending?_of_not_inName {mode : Mode} (hmode : mode.inName = false) :
    mode.pending? = none := by
  cases mode <;> first | rfl | cases hmode

theorem Template.names_append (t u : Template) : names (t ++ u) = names t ++ names u :=
  List.flatMap_append

theorem Template.names_ofText (text : List Char) : names (ofText text) = [] := by
  rw [ofText, names, List.flatMap_map]
  exact List.flatMap_eq_nil_iff.2 fun c _ => rfl

/-- A text without a dollar sign looks up no name. -/
theorem Mode.names_template {mode : Mode} {index : Nat} {cs : List Char} {t : Template}
    (hmode : mode.inName = false) (hcs : '$' ∉ cs) (h : mode.template index cs = .ok t) :
    t.names = [] := by
  induction cs generalizing mode index t with
  | nil =>
    rw [template, pending?_of_not_inName hmode] at h
    cases hfinish : mode.finish nothing with
    | error fault => rw [hfinish] at h; cases h
    | ok added => rw [hfinish] at h; cases h; rfl
  | cons c cs ih =>
    rw [List.mem_cons, not_or] at hcs
    rw [template] at h
    cases hstep : mode.step nothing c with
    | stop => rw [hstep] at h; cases h; rfl
    | fault => rw [hstep] at h; cases h
    | go next kept =>
      simp only [hstep, completed?_of_not_inName hmode] at h
      cases hrest : next.template (index + 1) cs with
      | error fault => rw [hrest] at h; cases h
      | ok rest =>
        rw [hrest] at h
        obtain rfl : Template.ofText kept ++ rest = t := Except.ok.inj h
        rw [Template.names_append, Template.names_ofText, List.nil_append]
        exact ih (inName_of_step hmode (Ne.symm hcs.1) hstep) hcs.2 hrest

theorem names_valueTemplate {text : List Char} {t : Template} (htext : '$' ∉ text)
    (h : valueTemplate text = .ok t) : t.names = [] := by
  rw [valueTemplate] at h
  split at h
  · next u hread =>
    cases h
    exact Mode.names_template rfl htext hread
  · cases h
  · cases h

/-! ### The text of a value in its line -/

theorem isSuffix_trimStart (cs : List Char) : Text.trimStart cs <:+ cs :=
  List.dropWhile_suffix Text.isBlank

theorem isSuffix_of_readKey {cs key rest : List Char} (h : readKey cs = .ok (key, rest)) :
    rest <:+ cs := by
  cases cs with
  | nil => cases h
  | cons c cs =>
    rw [readKey] at h
    split at h
    · cases h
      exact List.dropWhile_suffix isKeyChar
    · cases h

theorem isSuffix_of_readEquals {cs rest : List Char} (h : readEquals cs = .ok rest) :
    rest <:+ cs := by
  rw [readEquals.eq_def] at h
  split at h
  · cases h
    exact List.suffix_cons _ _
  · cases h

/-- The text after the equals sign is the end of the entry. -/
theorem isSuffix_of_readHead {cs key rest : List Char} (h : readHead cs = .ok (key, rest)) :
    rest <:+ cs := by
  -- after the key comes the equals sign, or the key that the word `export` stands before
  have hequals {before : List Char} {name : List Char}
      (heq : (readEquals (Text.trimStart before)).map (name, ·) = .ok (key, rest)) :
      rest <:+ before := by
    cases hread : readEquals (Text.trimStart before) with
    | error e => rw [hread] at heq; cases heq
    | ok after =>
      rw [hread] at heq
      cases heq
      exact (isSuffix_of_readEquals hread).trans (isSuffix_trimStart before)
  cases hkey : readKey cs with
  | error e => rw [readHead, hkey] at h; cases h
  | ok head =>
    have hcs : head.2 <:+ cs := isSuffix_of_readKey hkey
    rw [readHead, hkey] at h
    by_cases hexport : head.1 = "export".toList ∧ (Text.trimStart head.2).head? ≠ some '='
    · cases hname : readKey (Text.trimStart head.2) with
      | error e =>
        simp [bind, Except.bind, hexport, hname] at h
      | ok name =>
        have hread : (readEquals (Text.trimStart name.2)).map (name.1, ·) = .ok (key, rest) := by
          rw [← h]
          simp only [bind, Except.bind, if_pos hexport, hname]
          cases readEquals (Text.trimStart name.2) <;> rfl
        exact ((hequals hread).trans (isSuffix_of_readKey hname)).trans
          ((isSuffix_trimStart head.2).trans hcs)
    · have hread : (readEquals (Text.trimStart head.2)).map (head.1, ·) = .ok (key, rest) := by
        rw [← h]
        simp only [bind, Except.bind, if_neg hexport]
        cases readEquals (Text.trimStart head.2) <;> rfl
      exact (hequals hread).trans hcs

theorem names_lineEntry {line : List Char} {entry : Entry} (hline : '$' ∉ line)
    (h : lineEntry line = .ok (some entry)) : entry.template.names = [] := by
  rw [lineEntry] at h
  simp only at h
  split at h
  · cases h
  · split at h
    · cases h
    · next key rest hhead =>
      split at h
      · cases h
        rfl
      · cases htemplate : valueTemplate (Text.trimStart rest) with
        | error e => rw [htemplate] at h; cases h
        | ok t =>
          rw [htemplate] at h
          cases h
          have hend : Text.trimStart rest <:+ Text.trimEnd line :=
            ((isSuffix_trimStart rest).trans (isSuffix_of_readHead hhead)).trans
              (isSuffix_trimStart _)
          refine names_valueTemplate (fun hmem => hline ?_) htemplate
          exact (Text.trimEnd_isPrefix line).subset (hend.subset hmem)

/-- Each entry of lines is read from one of them. -/
theorem exists_line_of_mem_lineEntries {lines : List (Except Error (List Char))}
    {es : List Entry} {entry : Entry} (h : lineEntries lines = .ok es) (hentry : entry ∈ es) :
    ∃ line, .ok line ∈ lines ∧ lineEntry line = .ok (some entry) := by
  induction lines generalizing es with
  | nil =>
    cases h
    cases hentry
  | cons first lines ih =>
    cases first with
    | error e => cases h
    | ok line =>
      rw [lineEntries] at h
      cases hline : lineEntry line with
      | error e => rw [hline] at h; cases h
      | ok read =>
        cases hrest : lineEntries lines with
        | error e => rw [hline, hrest] at h; cases h
        | ok later =>
          rw [hline, hrest] at h
          cases h
          rcases List.mem_append.1 hentry with hmem | hmem
          · rw [Option.mem_def.1 (Option.mem_toList.1 hmem)] at hline
            exact ⟨line, List.mem_cons_self, hline⟩
          · obtain ⟨other, hother, hread⟩ := ih hrest hmem
            exact ⟨other, List.mem_cons_of_mem _ hother, hread⟩

theorem dollar_mem_utf8 {cs : List Char} (h : '$' ∈ cs) : '$'.toUInt8 ∈ Text.utf8 cs :=
  List.mem_flatMap.2 ⟨'$', h, by decide⟩

/-- A file without a dollar sign looks up no name. -/
theorem names_entries {content : List UInt8} {es : List Entry}
    (hcontent : '$'.toUInt8 ∉ content) (h : entries content = .ok es) :
    ∀ entry ∈ es, entry.template.names = [] := by
  intro entry hentry
  obtain ⟨line, hline, hread⟩ := exists_line_of_mem_lineEntries h hentry
  refine names_lineEntry (fun hdollar => hcontent ?_) hread
  rcases exists_mem_of_mem_logicalLinesFrom hline hdollar with hnil | ⟨text, htext, hmem⟩
  · cases hnil
  · rw [← flatten_physicalLines content]
    exact List.mem_flatten.2 ⟨_, htext, dollar_mem_utf8 hmem⟩

/-- The bindings of entries without names stand after the earlier ones as they stand alone. -/
theorem bindEntries_of_names_eq_nil {es : List Entry}
    (h : ∀ entry ∈ es, entry.template.names = []) (env : Environment) (earlier : List Binding) :
    bindEntries env earlier es = earlier ++ es.map (Entry.binding nothing) := by
  induction es generalizing earlier with
  | nil => exact (List.append_nil earlier).symm
  | cons entry es ih =>
    have hvalue : entry.binding (expand env earlier) = entry.binding nothing := by
      rw [Entry.binding, Entry.binding]
      congr 1
      refine Template.fill_congr fun n hn => ?_
      rw [h entry List.mem_cons_self] at hn
      cases hn
    rw [bindEntries, List.foldl_cons, ← bindEntries, hvalue,
      ih fun e he => h e (List.mem_cons_of_mem entry he), List.append_assoc]
    rfl

theorem bindEntries_append (env : Environment) (earlier : List Binding) (es fs : List Entry) :
    bindEntries env earlier (es ++ fs) = bindEntries env (bindEntries env earlier es) fs :=
  List.foldl_append

/-! ## The last value -/

/-- Of two lists of bindings the later one decides about the keys that it binds. -/
theorem lastValue?_append (key : List Char) (xs ys : List Binding) :
    lastValue? key (xs ++ ys) = (lastValue? key ys).or (lastValue? key xs) := by
  rw [lastValue?, List.reverse_append, List.lookup_append]
  rfl

theorem lastValue?_eq_none_iff {key : List Char} {bs : List Binding} :
    lastValue? key bs = none ↔ key ∉ bs.map Prod.fst := by
  rw [lastValue?, List.lookup_eq_none_iff, List.mem_map]
  simp only [List.mem_reverse, bne_iff_ne]
  constructor
  · rintro h ⟨b, hb, rfl⟩
    exact h b hb rfl
  · rintro h b hb rfl
    exact h ⟨b, hb, rfl⟩

end LinkReport.EnvFile
