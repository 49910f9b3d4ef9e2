import LinkReport.EnvFile.Line
import LinkReport.Proofs.Text.Encoding
import LinkReport.Proofs.Text.Trimming

/-!
# How a file falls into logical lines

What one physical line does to the splitting: it is a comment, it ends the logical line,
at its own end or before a comment, or it leaves the logical line open. Each statement speaks
of one line and of any bytes after it, so a file is split by citing them line after line.

* `physicalLines_utf8_line` cuts off the first line of a file;
* `Scan.run_append` and `Scan.run_flatMap` follow the scan over the pieces of a line, and
  `Scan.run_of_no_quotes` follows it over a text without quotes;
* `logicalLinesFrom_comment`, `logicalLinesFrom_closed`, `logicalLinesFrom_cut` and
  `logicalLinesFrom_open` are the four things that a line can do;
* `logicalLinesFrom_lines` puts several lines together into one logical line.
-/

namespace LinkReport

/-- Induction over the lines of a text: the last one, and one before the others. -/
@[elab_as_elim]
theorem Text.inductionOnLines {motive : List Char → Prop} (cs : List Char)
    (last : ∀ line, '\n' ∉ line → motive line)
    (cons : ∀ line rest, '\n' ∉ line → motive rest → motive (line ++ '\n' :: rest)) :
    motive cs := by
  by_cases h : '\n' ∈ cs
  · obtain ⟨line, rest, hcs, hline⟩ := List.eq_append_cons_of_mem h
    -- the lines after the first one are a shorter text
    have hlt : rest.length < cs.length := by
      rw [hcs, List.length_append, List.length_cons]
      omega
    rw [hcs]
    exact cons line rest hline (inductionOnLines rest last cons)
  · exact last cs h
termination_by cs.length

namespace EnvFile

/-! ## Physical lines -/

/-- A byte that does not end a line stands before the first line. -/
theorem physicalLines_cons_of_ne {b : UInt8} {bs line : List UInt8} {lines : List (List UInt8)}
    (hb : b ≠ 10) (h : physicalLines bs = line :: lines) :
    physicalLines (b :: bs) = (b :: line) :: lines := by
  rw [physicalLines, if_neg hb, h]

/-- The bytes up to the first line feed are the first line. -/
theorem physicalLines_append_lineFeed {xs : List UInt8} (h : 10 ∉ xs) (ys : List UInt8) :
    physicalLines (xs ++ 10 :: ys) = (xs ++ [10]) :: physicalLines ys := by
  induction xs with
  | nil => simp [physicalLines]
  | cons x xs ih =>
    rw [List.mem_cons, not_or] at h
    exact physicalLines_cons_of_ne (Ne.symm h.1) (ih h.2)

/-- The text up to the first line feed is the first line, whatever bytes follow it. -/
theorem physicalLines_utf8_line {line : List Char} (h : '\n' ∉ line) (rest : List UInt8) :
    physicalLines (Text.utf8 line ++ 10 :: rest)
      = Text.utf8 (line ++ ['\n']) :: physicalLines rest := by
  rw [physicalLines_append_lineFeed (mt Text.lineFeed_mem_utf8_iff.1 h), Text.utf8_append]
  rfl

/-! ## Scanning a line in pieces -/

namespace Scan
variable {s t u : Scan} {xs ys cs : List Char}

theorem cons_eq_reached_iff {e : ScanEnd} {c : Char} : e.cons c = .reached t ↔ e = .reached t := by
  cases e <;> simp [ScanEnd.cons]

theorem cons_eq_comment_iff {e : ScanEnd} {c : Char} {kept : List Char} :
    e.cons c = .comment kept ↔ ∃ later, e = .comment later ∧ kept = c :: later := by
  cases e <;> simp [ScanEnd.cons, eq_comm]

@[simp] theorem foldr_cons_reached : xs.foldr ScanEnd.cons (.reached t) = .reached t := by
  induction xs with
  | nil => rfl
  | cons c xs ih => rw [List.foldr_cons, ih, ScanEnd.cons]

@[simp] theorem foldr_cons_comment {kept : List Char} :
    xs.foldr ScanEnd.cons (.comment kept) = .comment (xs ++ kept) := by
  induction xs with
  | nil => rfl
  | cons c xs ih => rw [List.foldr_cons, ih, ScanEnd.cons, List.cons_append]

theorem foldr_cons_eq_reached_iff {e : ScanEnd} :
    xs.foldr ScanEnd.cons e = .reached t ↔ e = .reached t := by
  cases e with
  | reached u => rw [foldr_cons_reached]
  | comment kept => simp

/-- A scan that reaches a state over the first piece goes on from there, and keeps that piece
before what it keeps of the others. -/
theorem run_append_eq (hxs : s.run xs = .reached t) (ys : List Char) :
    s.run (xs ++ ys) = xs.foldr ScanEnd.cons (t.run ys) := by
  induction xs generalizing s with
  | nil =>
    rw [run, ScanEnd.reached.injEq] at hxs
    rw [hxs]
    rfl
  | cons c xs ih =>
    rw [run] at hxs
    rw [List.cons_append, run, List.foldr_cons]
    -- a comment in the first piece would have ended the scan there
    split at hxs
    · cases hxs
    · next hc => rw [if_neg hc, ih (cons_eq_reached_iff.1 hxs)]

/-- A scan that reaches a state over the first piece goes on from there over the second. -/
theorem run_append (hxs : s.run xs = .reached t) (hys : t.run ys = .reached u) :
    s.run (xs ++ ys) = .reached u := by
  rw [run_append_eq hxs, hys, foldr_cons_reached]

/-- A comment in the first piece ends the scan there. -/
theorem run_append_of_comment {kept : List Char} (hxs : s.run xs = .comment kept)
    (ys : List Char) : s.run (xs ++ ys) = .comment kept := by
  induction xs generalizing s kept with
  | nil => cases hxs
  | cons c xs ih =>
    rw [run] at hxs
    rw [List.cons_append, run]
    split at hxs
    · next hc => rw [if_pos hc, hxs]
    · next hc =>
      obtain ⟨later, hrun, hkept⟩ := cons_eq_comment_iff.1 hxs
      rw [if_neg hc, ih hrun, hkept, ScanEnd.cons]

/-- A scan that each piece leaves where it stood stays there over all of them. -/
theorem run_flatMap {f : Char → List Char} (h : ∀ c ∈ cs, s.run (f c) = .reached s) :
    s.run (cs.flatMap f) = .reached s := by
  induction cs with
  | nil => rfl
  | cons c cs ih =>
    rw [List.flatMap_cons]
    exact run_append (h c List.mem_cons_self) (ih fun d hd => h d (List.mem_cons_of_mem c hd))

/-- A character that starts no comment leads to its next state. -/
theorem run_singleton {c : Char} (h : ¬(s = .blank ∧ c = '#')) :
    s.run [c] = .reached (s.next c) := by
  rw [run, if_neg h]
  rfl

/-- The scan reaches a state over each text that it passes without a change. -/
theorem run_of_next_eq (hcs : ∀ c ∈ cs, c ≠ '#' ∧ s.next c = s) : s.run cs = .reached s := by
  rw [← List.flatMap_singleton' cs]
  apply run_flatMap
  intro c hc
  rw [run_singleton fun hhash => (hcs c hc).1 hhash.2, (hcs c hc).2]

/-- No character of a kind without the quotes and the backslash opens anything. -/
theorem opening?_eq_none {p : Char → Bool} (hp : ['\\', '"', '\''].all (!p ·) = true) {c : Char}
    (hc : p c = true) : opening? c = none := by
  have hnot : ∀ d ∈ ['\\', '"', '\''], c ≠ d := by
    rintro d hd rfl
    have hd := List.all_eq_true.1 hp c hd
    rw [hc] at hd
    cases hd
  fun_cases opening? c with
  | case4 => rfl
  | _ => exact absurd rfl (hnot _ (by decide))

/-- Characters of a kind that is not blank, opens nothing and starts no comment are passed outside
quotes without a change of state. -/
theorem run_complete {p : Char → Bool} (hp : ['#', '\\', '"', '\''].all (!p ·) = true)
    (hblank : ∀ c, p c = true → Text.isBlank c = false) (hcs : ∀ c ∈ cs, p c = true) :
    complete.run cs = .reached .complete := by
  rw [List.all_cons, Bool.and_eq_true, Bool.not_eq_true'] at hp
  refine run_of_next_eq fun c hc => ⟨?_, ?_⟩
  · rintro rfl
    exact Bool.false_ne_true (hp.1.symm.trans (hcs _ hc))
  · rw [next, opening?_eq_none hp.2 (hcs c hc), hblank c (hcs c hc)]
    rfl

/-- The state is between quotes. -/
def isQuoted : Scan → Bool
  | weak | weakEscape | strong | strongEscape => true
  | complete | blank | escape => false

theorem isQuoted_next {c : Char} (hs : s.isQuoted = false) (hsingle : c ≠ '\'')
    (hdouble : c ≠ '"') : (s.next c).isQuoted = false := by
  have hopening : ∀ u, opening? c = some u → u.isQuoted = false := by
    intro u hu
    unfold opening? at hu
    split at hu
    · cases hu
      rfl
    · exact absurd rfl hdouble
    · exact absurd rfl hsingle
    · cases hu
  -- outside quotes a character opens an escape, or it stands for itself
  have hopened : ∀ u, u.isQuoted = false → ((opening? c).getD u).isQuoted = false := by
    intro u hu
    cases h : opening? c with
    | none => exact hu
    | some v => exact hopening v h
  cases s with
  | complete =>
    apply hopened
    split <;> rfl
  | blank => exact hopened .complete rfl
  | escape => rfl
  | weak | weakEscape | strong | strongEscape => cases hs

/-- Without a quote the scan stays outside quotes, up to a comment if there is one. -/
theorem run_of_no_quotes (hs : s.isQuoted = false) (hsingle : '\'' ∉ cs) (hdouble : '"' ∉ cs) :
    (∃ kept, s.run cs = .comment kept) ∨ ∃ t, t.isQuoted = false ∧ s.run cs = .reached t := by
  induction cs generalizing s with
  | nil => exact .inr ⟨s, hs, rfl⟩
  | cons c cs ih =>
    rw [List.mem_cons, not_or] at hsingle hdouble
    unfold run
    split
    · exact .inl ⟨[], rfl⟩
    · have hnext := isQuoted_next hs (Ne.symm hsingle.1) (Ne.symm hdouble.1)
      rcases ih hnext hsingle.2 hdouble.2 with ⟨kept, hrun⟩ | ⟨t, ht, hrun⟩
      · exact .inl ⟨c :: kept, by rw [hrun, ScanEnd.cons]⟩
      · exact .inr ⟨t, ht, by rw [hrun, ScanEnd.cons]⟩

/-- A line feed ends the line outside quotes, also after a blank or a backslash, and does not
end it between quotes. -/
theorem next_lineFeed_eq_complete_iff : s.next '\n' = .complete ↔ s.isQuoted = false := by
  cases s <;> decide

theorem run_lineFeed (s : Scan) : s.run ['\n'] = .reached (s.next '\n') :=
  run_singleton fun h => absurd h.2 (by decide)

end Scan

/-! ## What a line does -/

variable {pending line : List Char} {state : Scan}

/-- A text whose first character is not blank is a comment only by that character. -/
theorem startsComment_cons {c : Char} (hc : Text.isBlank c = false) (cs : List Char) :
    startsComment (c :: cs) = (c == '#') := by
  rw [startsComment, Text.trimStart_cons_of_not_blank hc]
  rfl

private theorem logicalLinesFrom_line (h : '\n' ∉ line) (rest : List UInt8) :
    logicalLinesFrom pending state (physicalLines (Text.utf8 line ++ 10 :: rest)) =
      let text := pending ++ (line ++ ['\n'])
      if startsComment text then .ok [] :: logicalLines rest
      else match state.run (line ++ ['\n']) with
        | .comment kept => .ok (pending ++ kept) :: logicalLines rest
        | .reached .complete => .ok (chomp text) :: logicalLines rest
        | .reached state => logicalLinesFrom text state (physicalLines rest) := by
  rw [physicalLines_utf8_line h, logicalLinesFrom, Text.ofUtf8?_utf8]
  rfl

/-- A line that makes the text a comment is an empty logical line. -/
theorem logicalLinesFrom_comment (h : '\n' ∉ line)
    (hcomment : startsComment (pending ++ (line ++ ['\n'])) = true) (rest : List UInt8) :
    logicalLinesFrom pending state (physicalLines (Text.utf8 line ++ 10 :: rest))
      = .ok [] :: logicalLines rest := by
  rw [logicalLinesFrom_line h]
  exact if_pos hcomment

/-- A line after which the scan stands outside quotes ends the logical line. -/
theorem logicalLinesFrom_closed (h : '\n' ∉ line)
    (hcomment : startsComment (pending ++ (line ++ ['\n'])) = false)
    (hrun : state.run (line ++ ['\n']) = .reached .complete) (rest : List UInt8) :
    logicalLinesFrom pending state (physicalLines (Text.utf8 line ++ 10 :: rest))
      = .ok (chomp (pending ++ (line ++ ['\n']))) :: logicalLines rest := by
  rw [logicalLinesFrom_line h]
  simp only [hcomment, hrun, Bool.false_eq_true, if_false]

/-- Such a line alone is one logical line. -/
theorem logicalLines_closed (h : '\n' ∉ line)
    (hcomment : startsComment (line ++ ['\n']) = false)
    (hrun : Scan.complete.run (line ++ ['\n']) = .reached .complete) (rest : List UInt8) :
    logicalLines (Text.utf8 line ++ 10 :: rest) =
      .ok (chomp (line ++ ['\n'])) :: logicalLines rest :=
  logicalLinesFrom_closed h hcomment hrun rest

/-- A line with a comment after a blank ends the logical line before the comment. -/
theorem logicalLinesFrom_cut {kept : List Char} (h : '\n' ∉ line)
    (hcomment : startsComment (pending ++ (line ++ ['\n'])) = false)
    (hrun : state.run (line ++ ['\n']) = .comment kept) (rest : List UInt8) :
    logicalLinesFrom pending state (physicalLines (Text.utf8 line ++ 10 :: rest))
      = .ok (pending ++ kept) :: logicalLines rest := by
  rw [logicalLinesFrom_line h]
  simp only [hcomment, hrun, Bool.false_eq_true, if_false]

/-- A line after which the scan stands elsewhere leaves the logical line open. -/
theorem logicalLinesFrom_open {t : Scan} (h : '\n' ∉ line)
    (hcomment : startsComment (pending ++ (line ++ ['\n'])) = false)
    (hrun : state.run (line ++ ['\n']) = .reached t) (ht : t ≠ .complete)
    (rest : List UInt8) :
    logicalLinesFrom pending state (physicalLines (Text.utf8 line ++ 10 :: rest))
      = logicalLinesFrom (pending ++ (line ++ ['\n'])) t (physicalLines rest) := by
  rw [logicalLinesFrom_line h]
  simp only [hcomment, hrun, Bool.false_eq_true, if_false]

/-- Only the line feed is cut off after a character other than a carriage return. -/
theorem chomp_append_lineFeed {c : Char} (hc : c ≠ '\r') (cs : List Char) :
    chomp (cs ++ [c, '\n']) = cs ++ [c] := by
  -- the end of the text decides, so it is looked at from there
  have hrev : (cs ++ [c, '\n']).reverse = '\n' :: c :: cs.reverse := by simp
  rw [chomp, hrev]
  split
  · next rest heq =>
    rw [List.cons.injEq, List.cons.injEq] at heq
    exact absurd heq.2.1 hc
  · next rest _ heq =>
    rw [← (List.cons.inj heq).2]
    simp
  · next hne => exact absurd rfl (hne (c :: cs.reverse))

/-- What the end of a line loses is blank. -/
theorem trimEnd_chomp (line : List Char) : Text.trimEnd (chomp line) = Text.trimEnd line := by
  unfold chomp
  split
  · next rest hline =>
    have hblanks : line = rest.reverse ++ ['\r', '\n'] := by
      rw [← List.reverse_reverse line, hline]
      simp
    rw [hblanks, Text.trimEnd_append_of_blank (List.all_eq_true.1 (by decide))]
  · next rest _ hline =>
    have hblanks : line = rest.reverse ++ ['\n'] := by
      rw [← List.reverse_reverse line, hline]
      simp
    rw [hblanks, Text.trimEnd_append_of_blank (List.all_eq_true.1 (by decide))]
  · rfl

theorem trimEnd_chomp_append_lineFeed (line : List Char) :
    Text.trimEnd (chomp (line ++ ['\n'])) = Text.trimEnd line := by
  rw [trimEnd_chomp]
  exact Text.trimEnd_append_of_blank (List.all_eq_true.1 (by decide)) line

/-- What is left of a line was in it. -/
theorem mem_of_mem_chomp {c : Char} (h : c ∈ chomp line) : c ∈ line := by
  rw [chomp] at h
  split at h
  · next rest heq =>
    rw [← List.mem_reverse, heq]
    simp_all
  · next rest _ heq =>
    rw [← List.mem_reverse, heq]
    simp_all
  · exact h

/-- A text whose lines leave the scan where it stands, away from the end of a line, is a part of
one logical line. That line goes on up to a tail on the last of these lines, which ends it or
leaves it open. -/
theorem logicalLinesFrom_lines {s t : Scan} (pending : List Char) {head : List Char}
    (body : List Char) {tail : List Char} (hs : s ≠ .complete) (hhead : '\n' ∉ head)
    (hrun : state.run head = .reached s)
    (hbody : ∀ line rest, body = line ++ '\n' :: rest → s.run (line ++ ['\n']) = .reached s)
    (htail : '\n' ∉ tail) (hend : s.run (body ++ tail ++ ['\n']) = .reached t)
    (hcomment : ∀ cs, startsComment (pending ++ head ++ cs) = false) (rest : List UInt8) :
    logicalLinesFrom pending state
        (physicalLines (Text.utf8 (head ++ body ++ tail) ++ 10 :: rest)) =
      if t = .complete then
        .ok (chomp (pending ++ head ++ body ++ tail ++ ['\n'])) :: logicalLines rest
      else
        logicalLinesFrom (pending ++ head ++ body ++ tail ++ ['\n']) t (physicalLines rest) := by
  -- each line feed in the text ends a physical line and leaves the logical line open
  induction body using Text.inductionOnLines generalizing pending head state with
  | last line hline =>
    have hnot : '\n' ∉ head ++ line ++ tail := by simp [hhead, hline, htail]
    have hstart := hcomment (line ++ tail ++ ['\n'])
    have hlast : state.run (head ++ line ++ tail ++ ['\n']) = .reached t := by
      simpa using Scan.run_append hrun hend
    split
    · next ht =>
      rw [ht] at hlast
      rw [logicalLinesFrom_closed hnot (by simpa using hstart) hlast]
      simp
    · next ht =>
      rw [logicalLinesFrom_open hnot (by simpa using hstart) hlast ht]
      simp
  | cons line body hline ih =>
    have hnot : '\n' ∉ head ++ line := by simp [hhead, hline]
    have hstart := hcomment (line ++ ['\n'])
    have hfirst := hbody line body rfl
    have hopen := logicalLinesFrom_open hnot (by simpa using hstart)
      (by simpa using Scan.run_append hrun hfirst) hs (Text.utf8 (body ++ tail) ++ 10 :: rest)
    have hlater : ∀ next rest, body = next ++ '\n' :: rest →
        s.run (next ++ ['\n']) = .reached s := by
      intro next rest hnext
      have hboth := hbody (line ++ '\n' :: next) rest (by rw [hnext]; simp)
      rw [List.append_assoc, List.cons_append, List.append_cons, Scan.run_append_eq hfirst] at hboth
      exact Scan.foldr_cons_eq_reached_iff.1 hboth
    have hlast : s.run (body ++ tail ++ ['\n']) = .reached t := by
      have hboth : s.run (line ++ ['\n'] ++ (body ++ tail ++ ['\n'])) = .reached t := by
        simpa using hend
      rw [Scan.run_append_eq hfirst] at hboth
      exact Scan.foldr_cons_eq_reached_iff.1 hboth
    have hrest := ih (pending ++ (head ++ line ++ ['\n'])) List.not_mem_nil rfl hlater hlast
      fun cs => by simpa using hcomment (line ++ '\n' :: cs)
    simp only [List.nil_append, List.append_nil] at hrest
    rw [hrest] at hopen
    simpa using hopen

end EnvFile
end LinkReport
