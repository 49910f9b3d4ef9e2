import LinkReport.Proofs.EnvFile.Composition
import Mathlib.Algebra.Ring.Parity

/-!
# Values in single quotes

The splitting and the reader of values disagree about backslashes between single quotes. The
reader takes every character there as it stands. The splitting passes over the character after a
backslash, so it misses a closing quote that an odd number of backslashes stands before.

* `Scan.run_literal` tells by the parity of the last backslashes where the splitting stands;
* `entries_singleQuoted` a file with one value in single quotes.
-/

namespace LinkReport.EnvFile

/-- How many backslashes stand at the end of a text. -/
def finalBackslashes (cs : List Char) : Nat :=
  (cs.reverse.takeWhile (· = '\\')).length

theorem finalBackslashes_append_singleton (cs : List Char) (c : Char) :
    finalBackslashes (cs ++ [c]) = if c = '\\' then finalBackslashes cs + 1 else 0 := by
  unfold finalBackslashes
  rw [List.reverse_append, List.reverse_singleton, List.singleton_append]
  split
  · next hc => simp [hc]
  · next hc => simp [hc]

/-- Between single quotes each backslash that no other one stands before has the splitting pass
over a character, so at the end their number is what counts. -/
theorem Scan.run_literal {cs : List Char} (h : '\'' ∉ cs) :
    Scan.strong.run cs =
      .reached (if Even (finalBackslashes cs) then .strong else .strongEscape) := by
  induction cs using List.reverseRecOn with
  | nil => rfl
  | append_singleton cs c ih =>
    rw [List.mem_append, List.mem_singleton, not_or] at h
    apply Scan.run_append (ih h.1)
    rw [finalBackslashes_append_singleton]
    by_cases hc : c = '\\'
    · rw [if_pos hc, hc]
      by_cases heven : Even (finalBackslashes cs)
      · rw [if_pos heven, if_neg (mt Nat.even_add_one.1 (not_not_intro heven))]
        rfl
      · rw [if_neg heven, if_pos (Nat.even_add_one.2 heven)]
        rfl
    · rw [if_neg hc, if_pos Even.zero]
      have hstrong : Scan.strong.next c = .strong := by
        show (if c = '\\' then strongEscape else if c = '\'' then complete else strong) = strong
        rw [if_neg hc, if_neg (Ne.symm h.2)]
      -- an escape is over after one character, whatever it is
      split
      · rw [run_singleton (by simp), hstrong]
      · exact run_singleton (by simp)

/-- Between single quotes every line leaves the splitting where it was. -/
theorem Scan.run_literal_line {line : List Char} (h : '\'' ∉ line) :
    Scan.strong.run (line ++ ['\n']) = .reached .strong := by
  apply Scan.run_append (Scan.run_literal h)
  split <;> rfl

theorem Mode.template_literal (index : Nat) {cs : List Char} (h : '\'' ∉ cs) :
    Mode.single.template index (cs ++ ['\'']) = .ok (Template.ofText cs) := by
  induction cs generalizing index with
  | nil => rfl
  | cons c cs ih =>
    rw [List.mem_cons, not_or] at h
    have hstep : Mode.single.step nothing c = .go .single [c] := if_neg (Ne.symm h.1)
    rw [List.cons_append, template, hstep]
    simp only [ih (index + 1) h.2]
    rfl

/-- Between single quotes every character stands for itself. -/
theorem valueTemplate_singleQuoted {cs : List Char} (h : '\'' ∉ cs) :
    valueTemplate ('\'' :: (cs ++ ['\''])) = .ok (Template.ofText cs) := by
  have hstep : (Mode.plain false).step nothing '\'' = .go .single [] := rfl
  rw [valueTemplate, Mode.template, hstep]
  simp only [Mode.template_literal 1 h]
  rfl

/-- A value in single quotes as it stands in a file. -/
def singleQuoted (k : Key) (value : List Char) : List Char :=
  k.text ++ ['=', '\''] ++ value ++ ['\'']

section
variable (k : Key) {value : List Char}

/-- The line is one logical line if an even number of backslashes stands before the closing
quote. Otherwise the file ends inside the quotes. -/
theorem logicalLines_singleQuoted (h : '\'' ∉ value) :
    logicalLines (Text.utf8 (singleQuoted k value ++ ['\n'])) =
      if Even (finalBackslashes value) then [.ok (singleQuoted k value)]
      else
        [.error (.unreadable (singleQuoted k value ++ ['\n'])
          (Text.byteLength (singleQuoted k value ++ ['\n'])))] := by
  have hhead : '\n' ∉ k.text ++ ['=', '\''] := by simp [k.lineFeed_notMem]
  have hrun : Scan.complete.run (k.text ++ ['=', '\'']) = .reached .strong :=
    Scan.run_append k.run_text rfl
  have hbody : ∀ line rest, value = line ++ '\n' :: rest →
      Scan.strong.run (line ++ ['\n']) = .reached .strong := by
    intro line rest hvalue
    apply Scan.run_literal_line
    intro hmem
    exact h (hvalue ▸ List.mem_append_left _ hmem)
  have hend : Scan.strong.run (value ++ ['\''] ++ ['\n']) =
      .reached (if Even (finalBackslashes value) then .complete else .strong) := by
    rw [List.append_assoc]
    apply Scan.run_append (Scan.run_literal h)
    split <;> rfl
  have hcomment : ∀ cs, startsComment ([] ++ (k.text ++ ['=', '\'']) ++ cs) = false :=
    fun cs => by simpa using k.startsComment_append ('=' :: '\'' :: cs)
  have hsplit :=
    logicalLinesFrom_lines [] value (by decide) hhead hrun hbody (by decide) hend hcomment []
  have hbytes : Text.utf8 (singleQuoted k value ++ ['\n']) =
      Text.utf8 (singleQuoted k value) ++ 10 :: [] := Text.utf8_append _ _
  rw [hbytes]
  refine hsplit.trans ?_
  have hchomp := chomp_append_lineFeed (by decide : '\'' ≠ '\r') (k.text ++ ['=', '\''] ++ value)
  by_cases heven : Even (finalBackslashes value)
  · simpa [singleQuoted, heven, logicalLines, physicalLines, logicalLinesFrom] using hchomp
  · simp [singleQuoted, heven, physicalLines, logicalLinesFrom]

theorem lineEntry_singleQuoted (h : '\'' ∉ value) :
    lineEntry (singleQuoted k value) = .ok (some ⟨k.text, Template.ofText value⟩) := by
  refine lineEntry_of_value k ?_ rfl (by decide) (by decide) (valueTemplate_singleQuoted h)
  have hquote := Text.trimEnd_append_of_not_blank (c := '\'') (by decide)
    (k.text ++ ['=', '\''] ++ value)
  simpa [singleQuoted] using hquote

/-- A value in single quotes is read as it stands if its line is one logical line. -/
theorem entries_singleQuoted (h : '\'' ∉ value) :
    entries (Text.utf8 (singleQuoted k value ++ ['\n'])) =
      if Even (finalBackslashes value) then .ok [⟨k.text, Template.ofText value⟩]
      else
        .error (.unreadable (singleQuoted k value ++ ['\n'])
          (Text.byteLength (singleQuoted k value ++ ['\n']))) := by
  unfold entries
  rw [logicalLines_singleQuoted k h]
  split
  · rw [lineEntries, lineEntry_singleQuoted k h]
    rfl
  · rfl

end

end LinkReport.EnvFile
