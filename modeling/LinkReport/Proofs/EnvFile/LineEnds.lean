import LinkReport.Proofs.EnvFile.Composition

/-!
# The ends of lines

What the end of a line has to do with what the line says. Outside quotes a line may end in a line
feed with or without a carriage return before it. The last line may end without either, but not
after a blank or a backslash: there the splitting waits for one more character, and takes the end
of the file for the middle of a line.

* `logicalLines_withReturns` a file with another style of line ends;
* `lineEntries_lastLine` the last line with and without a line feed, in any state of the
  splitting;
* `entries_append_lineFeed` a file with and without a line feed at its end.
-/

namespace LinkReport.EnvFile

/-! ## Carriage returns -/

/-- The text with a carriage return before each line feed. -/
def withReturns (cs : List Char) : List Char :=
  cs.flatMap fun c => if c = '\n' then ['\r', '\n'] else [c]

theorem withReturns_line {line : List Char} (h : '\n' ∉ line) : withReturns line = line := by
  induction line with
  | nil => rfl
  | cons c line ih =>
    rw [List.mem_cons, not_or] at h
    rw [withReturns, List.flatMap_cons, ← withReturns, if_neg (Ne.symm h.1), ih h.2]
    rfl

theorem withReturns_append_lineFeed {line : List Char} (h : '\n' ∉ line) (rest : List Char) :
    withReturns (line ++ '\n' :: rest) = line ++ ['\r'] ++ '\n' :: withReturns rest := by
  rw [withReturns, List.flatMap_append, ← withReturns, withReturns_line h, List.flatMap_cons,
    ← withReturns, if_pos rfl]
  simp

/-- Blanks after a text have no part in whether it is a comment. -/
theorem startsComment_append_of_blank {ys : List Char} (h : ∀ c ∈ ys, Text.isBlank c = true)
    (xs : List Char) : startsComment (xs ++ ys) = startsComment xs := by
  unfold startsComment Text.trimStart
  rw [List.dropWhile_append]
  split
  · next hxs =>
    have hys : ys.dropWhile Text.isBlank = [] := Text.trimStart_eq_nil_iff.2 h
    rw [List.isEmpty_iff.1 hxs, hys]
  · next hxs => rw [List.head?_append_of_ne_nil _ (by simpa using hxs)]

theorem chomp_line {line : List Char} (h : '\r' ∉ line) : chomp (line ++ ['\n']) = line := by
  rcases List.eq_nil_or_concat line with rfl | ⟨front, last, rfl⟩
  · rfl
  · rw [List.concat_eq_append] at h ⊢
    have hlast : last ≠ '\r' := by
      intro heq
      exact h (by simp [heq])
    simpa using chomp_append_lineFeed hlast front

theorem chomp_append_return (line : List Char) : chomp (line ++ ['\r'] ++ ['\n']) = line := by
  simp [chomp]

/-- What stands between a line and its line feed. -/
inductive LineEnd where
  | plain
  | carriageReturn

/-- The text of a line end before the line feed. -/
def LineEnd.text : LineEnd → List Char
  | plain => []
  | carriageReturn => ['\r']

section
variable {line : List Char} (ending : LineEnd)

theorem LineEnd.isBlank_of_mem {c : Char} (h : c ∈ ending.text ++ ['\n']) :
    Text.isBlank c = true := by
  revert h
  cases ending <;> exact List.all_eq_true.1 (by decide) c

theorem LineEnd.lineFeed_notMem : '\n' ∉ ending.text := by
  cases ending <;> decide

theorem LineEnd.chomp_append (h : '\r' ∉ line) :
    chomp (line ++ ending.text ++ ['\n']) = line := by
  cases ending with
  | plain =>
    show chomp (line ++ [] ++ ['\n']) = line
    rw [List.append_nil, chomp_line h]
  | carriageReturn => exact chomp_append_return line

/-- Outside quotes either line end ends the line. -/
theorem LineEnd.run_append {state t : Scan} (hrun : state.run line = .reached t)
    (ht : t.isQuoted = false) :
    state.run (line ++ ending.text ++ ['\n']) = .reached .complete := by
  -- a carriage return leads to another state outside quotes
  obtain ⟨u, hu, hreached⟩ : ∃ u : Scan, u.isQuoted = false ∧ t.run ending.text = .reached u := by
    cases ending with
    | plain => exact ⟨t, ht, rfl⟩
    | carriageReturn =>
      exact ⟨_, Scan.isQuoted_next ht (by decide) (by decide),
        Scan.run_singleton fun h => absurd h.2 (by decide)⟩
  apply Scan.run_append (Scan.run_append hrun hreached)
  rw [Scan.run_lineFeed, Scan.next_lineFeed_eq_complete_iff.2 hu]

end

/-- A line without quotes is one logical line, and its line end is no part of it. -/
theorem exists_logicalLine {line : List Char} (hline : '\n' ∉ line) (hreturn : '\r' ∉ line)
    (hsingle : '\'' ∉ line) (hdouble : '"' ∉ line) :
    ∃ kept, ∀ (ending : LineEnd) (rest : List UInt8),
      logicalLines (Text.utf8 (line ++ ending.text) ++ 10 :: rest) =
        .ok kept :: logicalLines rest := by
  have hnot : ∀ ending : LineEnd, '\n' ∉ line ++ ending.text := by
    intro ending
    simp [hline, ending.lineFeed_notMem]
  have hcomment : ∀ ending : LineEnd,
      startsComment (line ++ ending.text ++ ['\n']) = startsComment line := by
    intro ending
    rw [List.append_assoc]
    exact startsComment_append_of_blank (fun _ => ending.isBlank_of_mem) line
  cases hstart : startsComment line with
  | true =>
    refine ⟨[], fun ending rest => ?_⟩
    exact logicalLinesFrom_comment (hnot ending) ((hcomment ending).trans hstart) rest
  | false =>
    have houtside : Scan.complete.isQuoted = false := rfl
    rcases Scan.run_of_no_quotes houtside hsingle hdouble with ⟨kept, hrun⟩ | ⟨t, ht, hrun⟩
    · refine ⟨kept, fun ending rest => ?_⟩
      have hcut := Scan.run_append_of_comment hrun (ending.text ++ ['\n'])
      rw [← List.append_assoc] at hcut
      exact logicalLinesFrom_cut (hnot ending) ((hcomment ending).trans hstart) hcut rest
    · refine ⟨line, fun ending rest => ?_⟩
      have hclosed := logicalLines_closed (hnot ending) ((hcomment ending).trans hstart)
        (ending.run_append hrun ht) rest
      rwa [ending.chomp_append hreturn] at hclosed

/-- Without quotes a file has the same logical lines whichever way its lines end. -/
theorem logicalLines_withReturns {cs : List Char} (hreturn : '\r' ∉ cs) (hsingle : '\'' ∉ cs)
    (hdouble : '"' ∉ cs) :
    logicalLines (Text.utf8 (withReturns cs)) = logicalLines (Text.utf8 cs) := by
  induction cs using Text.inductionOnLines with
  | last line hline => rw [withReturns_line hline]
  | cons line rest hline ih =>
    simp only [List.mem_append, List.mem_cons, not_or] at hreturn hsingle hdouble
    obtain ⟨kept, hkept⟩ := exists_logicalLine hline hreturn.1 hsingle.1 hdouble.1
    have hplain : logicalLines (Text.utf8 (line ++ '\n' :: rest)) =
        .ok kept :: logicalLines (Text.utf8 rest) := by
      have hfirst := hkept .plain (Text.utf8 rest)
      rwa [LineEnd.text, List.append_nil, ← Text.utf8_lineFeed, ← Text.utf8_append] at hfirst
    rw [hplain, ← ih hreturn.2.2 hsingle.2.2 hdouble.2.2, withReturns_append_lineFeed hline,
      Text.utf8_append, Text.utf8_lineFeed]
    exact hkept .carriageReturn _

/-! ## The last line -/

/-- The file ends inside a logical line, after a blank or a backslash outside quotes. -/
def LacksLineFeed (lines : List (Except Error (List Char))) : Prop :=
  ∃ text index, .error (.unreadable text index) ∈ lines ∧
    (Scan.complete.run text = .reached .blank ∨ Scan.complete.run text = .reached .escape)

/-- A file that does not end in a line feed has a last line, which a line feed would end. -/
theorem exists_lastLine {content : List UInt8} (h : ¬EndsLine content) :
    ∃ lines last, physicalLines content = lines ++ [last] ∧
      physicalLines (content ++ [10]) = lines ++ [last ++ [10]] := by
  induction content with
  | nil => exact absurd (.inl rfl) h
  | cons b bs ih =>
    by_cases hbs : bs = []
    · have hb : b ≠ 10 := by
        intro heq
        exact h (.inr (by rw [hbs, heq]; rfl))
      refine ⟨[], [b], ?_, ?_⟩
      · simp [hbs, physicalLines, hb]
      · simp [hbs, physicalLines, hb]
    · have hrest : ¬EndsLine bs := by
        rintro (hnil | hlast)
        · exact hbs hnil
        · refine h (.inr ?_)
          obtain ⟨c, cs, rfl⟩ := List.exists_cons_of_ne_nil hbs
          rwa [List.getLast?_cons_cons]
      obtain ⟨lines, last, hlines, hlines'⟩ := ih hrest
      by_cases hb : b = 10
      · refine ⟨[b] :: lines, last, ?_, ?_⟩
        · rw [physicalLines, if_pos hb, hlines, List.cons_append]
        · rw [List.cons_append, physicalLines, if_pos hb, hlines', List.cons_append]
      · cases lines with
        | nil =>
          exact ⟨[], b :: last, physicalLines_cons_of_ne hb hlines,
            physicalLines_cons_of_ne hb hlines'⟩
        | cons line lines =>
          exact ⟨(b :: line) :: lines, last, physicalLines_cons_of_ne hb hlines,
            physicalLines_cons_of_ne hb hlines'⟩

section
variable {lines : List (Except Error (List Char))} {line line' : List Char} {es : List Entry}

theorem lineEntries_error_ne_ok (e : Error) : lineEntries (.error e :: lines) ≠ .ok es := by
  intro h
  cases h

theorem lineEntries_cons_eq_ok_iff :
    lineEntries (.ok line :: lines) = .ok es ↔
      ∃ entry later, lineEntry line = .ok entry ∧ lineEntries lines = .ok later ∧
        es = entry.toList ++ later := by
  rw [lineEntries]
  cases lineEntry line with
  | error e => simp [bind, Except.bind]
  | ok entry => cases lineEntries lines <;> simp [bind, Except.bind, eq_comm]

theorem lineEntries_congr_trimEnd (h : Text.trimEnd line = Text.trimEnd line') :
    lineEntries (.ok line :: lines) = .ok es ↔ lineEntries (.ok line' :: lines) = .ok es := by
  simp only [lineEntries_cons_eq_ok_iff, lineEntry_congr_trimEnd h]

theorem lacksLineFeed_cons_ok_iff : LacksLineFeed (.ok line :: lines) ↔ LacksLineFeed lines := by
  simp [LacksLineFeed]

theorem not_lacksLineFeed_ok : ¬LacksLineFeed [.ok line] := by
  simp [LacksLineFeed]

end

variable {pending : List Char} {state : Scan} {es : List Entry}

/-- What the end of the file makes of a logical line over which the splitting reaches a state. -/
def endOfFile (t : Scan) (text : List Char) : List (Except Error (List Char)) :=
  if t = .complete then [.ok (chomp text)]
  else [.error (.unreadable text (Text.byteLength text))]

/-- At the end of the file a line feed after a text is missed exactly where the splitting waits
for one more character. -/
theorem lineEntries_endOfFile {text : List Char} {t : Scan}
    (hrun : Scan.complete.run text = .reached t) :
    lineEntries (endOfFile t text) = .ok es ↔
      lineEntries (endOfFile (t.next '\n') (text ++ ['\n'])) = .ok es ∧
        ¬LacksLineFeed (endOfFile t text) := by
  by_cases hcomplete : t = .complete
  · have hnext : t.next '\n' = .complete := by
      rw [hcomplete]
      rfl
    have htrim : Text.trimEnd (chomp text) = Text.trimEnd (chomp (text ++ ['\n'])) :=
      (trimEnd_chomp text).trans (trimEnd_chomp_append_lineFeed text).symm
    rw [endOfFile, endOfFile, if_pos hcomplete, if_pos hnext,
      lineEntries_congr_trimEnd htrim]
    exact (and_iff_left not_lacksLineFeed_ok).symm
  · rw [endOfFile, if_neg hcomplete]
    refine iff_of_false (lineEntries_error_ne_ok _) ?_
    rintro ⟨hentries, hlacks⟩
    cases t with
    | complete => exact hcomplete rfl
    | blank => exact hlacks ⟨_, _, List.mem_singleton.2 rfl, .inl hrun⟩
    | escape => exact hlacks ⟨_, _, List.mem_singleton.2 rfl, .inr hrun⟩
    -- between quotes a line feed does not help
    | weak | weakEscape | strong | strongEscape => exact lineEntries_error_ne_ok _ hentries

/-- What the last line of a file makes of what has been read of its logical line. -/
theorem logicalLinesFrom_lastLine {bytes : List UInt8} {text : List Char}
    (htext : Text.ofUtf8? bytes = some text) :
    logicalLinesFrom pending state [bytes] =
      if startsComment (pending ++ text) then [.ok []]
      else match state.run text with
        | .comment kept => [.ok (pending ++ kept)]
        | .reached t => endOfFile t (pending ++ text) := by
  rw [logicalLinesFrom, htext]
  by_cases hcomment : startsComment (pending ++ text) = true
  · simp only [if_pos hcomment]
    rfl
  · simp only [if_neg hcomment]
    cases state.run text with
    | comment kept => rfl
    | reached t => cases t <;> rfl

/-- The last line is read as it would be with a line feed, unless that is what it lacks. -/
theorem lineEntries_lastLine (hstate : Scan.complete.run pending = .reached state)
    (bytes : List UInt8) :
    lineEntries (logicalLinesFrom pending state [bytes]) = .ok es ↔
      lineEntries (logicalLinesFrom pending state [bytes ++ [10]]) = .ok es ∧
        ¬LacksLineFeed (logicalLinesFrom pending state [bytes]) := by
  have hdecode := Text.ofUtf8?_append_lineFeed bytes
  cases htext : Text.ofUtf8? bytes with
  | none =>
    have hfault : logicalLinesFrom pending state [bytes] = [.error .notUtf8] := by
      rw [logicalLinesFrom, htext]
    have hfault' : logicalLinesFrom pending state [bytes ++ [10]] = [.error .notUtf8] := by
      rw [logicalLinesFrom, hdecode, htext]
      rfl
    rw [hfault, hfault']
    exact iff_of_false (lineEntries_error_ne_ok _) fun h => lineEntries_error_ne_ok _ h.1
  | some text =>
    rw [htext, Option.map_some] at hdecode
    have hcomment : startsComment (pending ++ (text ++ ['\n'])) =
        startsComment (pending ++ text) := by
      rw [← List.append_assoc]
      exact startsComment_append_of_blank (List.all_eq_true.1 (by decide)) _
    rw [logicalLinesFrom_lastLine htext, logicalLinesFrom_lastLine hdecode, hcomment]
    split
    · exact (and_iff_left not_lacksLineFeed_ok).symm
    · cases hrun : state.run text with
      | comment kept =>
        rw [Scan.run_append_of_comment hrun]
        exact (and_iff_left not_lacksLineFeed_ok).symm
      | reached t =>
        rw [Scan.run_append hrun (Scan.run_lineFeed t), ← List.append_assoc]
        exact lineEntries_endOfFile (Scan.run_append hstate hrun)

/-- The lines before the last one are read alike, so the last one decides. -/
theorem lineEntries_append_lineFeed (hstate : Scan.complete.run pending = .reached state)
    (lines : List (List UInt8)) (bytes : List UInt8) :
    lineEntries (logicalLinesFrom pending state (lines ++ [bytes])) = .ok es ↔
      lineEntries (logicalLinesFrom pending state (lines ++ [bytes ++ [10]])) = .ok es ∧
        ¬LacksLineFeed (logicalLinesFrom pending state (lines ++ [bytes])) := by
  induction lines generalizing pending state es with
  | nil => exact lineEntries_lastLine hstate bytes
  | cons first lines ih =>
    rw [List.cons_append, List.cons_append]
    rcases logicalLinesFrom_cons_cases pending state first with
      hfault | ⟨text, -, ⟨line, -, hline⟩ | ⟨t, -, hrun, hopen⟩⟩
    · rw [hfault, hfault]
      exact iff_of_false (lineEntries_error_ne_ok _) fun h => lineEntries_error_ne_ok _ h.1
    · have hstart : Scan.complete.run [] = .reached .complete := rfl
      rw [hline, hline, lineEntries_cons_eq_ok_iff, lineEntries_cons_eq_ok_iff,
        lacksLineFeed_cons_ok_iff]
      constructor
      · rintro ⟨entry, later, hentry, hlater, hes⟩
        obtain ⟨hlater', hlacks⟩ := (ih hstart).1 hlater
        exact ⟨⟨entry, later, hentry, hlater', hes⟩, hlacks⟩
      · rintro ⟨⟨entry, later, hentry, hlater, hes⟩, hlacks⟩
        exact ⟨entry, later, hentry, (ih hstart).2 ⟨hlater, hlacks⟩, hes⟩
    · rw [hopen, hopen]
      exact ih (Scan.run_append hstate hrun)

/-- A file that does not end in a line feed is read as it would be with one, unless that is what
it lacks. -/
theorem entries_append_lineFeed {content : List UInt8} (h : ¬EndsLine content) :
    entries content = .ok es ↔
      entries (content ++ [10]) = .ok es ∧ ¬LacksLineFeed (logicalLines content) := by
  obtain ⟨lines, last, hlines, hlines'⟩ := exists_lastLine h
  unfold entries logicalLines
  rw [hlines, hlines']
  exact lineEntries_append_lineFeed rfl lines last

end LinkReport.EnvFile
