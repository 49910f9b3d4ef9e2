import LinkReport.Text.Blank
import Mathlib.Data.List.DropRight

/-!
# Trimmed texts

What is left of a text that is not blank starts and ends with a character that is not blank, and
trimming a text of that form changes nothing.
-/

namespace LinkReport.Text

/-- The text is not empty, and neither its first nor its last character is blank. -/
structure IsTrimmed (cs : List Char) : Prop where
  ne_nil : cs ≠ []
  first : ∀ c ∈ cs.head?, isBlank c = false
  last : ∀ c ∈ cs.getLast?, isBlank c = false

theorem trimEnd_isPrefix (cs : List Char) : trimEnd cs <+: cs :=
  List.rdropWhile_prefix isBlank cs

/-- What ends with a character that is not blank is kept, whatever stands after it. -/
theorem trimEnd_append {xs : List Char} (hlast : ∀ c ∈ xs.getLast?, isBlank c = false)
    (ys : List Char) : trimEnd (xs ++ ys) = xs ++ trimEnd ys := by
  unfold trimEnd
  rw [List.reverse_append, List.dropWhile_append]
  split
  · next hys =>
    rw [List.isEmpty_iff.1 hys, List.reverse_nil, List.append_nil]
    rcases List.eq_nil_or_concat xs with rfl | ⟨front, last, rfl⟩
    · rfl
    · rw [List.concat_eq_append] at hlast ⊢
      exact trimEnd_append_of_not_blank (hlast last (by simp)) front
  · rw [List.reverse_append, List.reverse_reverse]

/-- Blanks after a text are lost at its end. -/
theorem trimEnd_append_of_blank {ys : List Char} (h : ∀ c ∈ ys, isBlank c = true)
    (xs : List Char) : trimEnd (xs ++ ys) = trimEnd xs := by
  unfold trimEnd
  rw [List.reverse_append, List.dropWhile_append_of_pos fun c hc => h c (List.mem_reverse.1 hc)]

theorem isTrimmed_trim {cs : List Char} (h : trim cs ≠ []) : IsTrimmed (trim cs) where
  ne_nil := h
  first c hc := by
    -- the end of a text is cut off, so what is left starts like the text
    obtain ⟨after, hafter⟩ : trim cs <+: trimStart cs := trimEnd_isPrefix (trimStart cs)
    have hhead : (trimStart cs).head? = some c := by
      rw [← hafter, List.head?_append_of_ne_nil _ h]
      exact hc
    have hnot := List.head?_dropWhile_not isBlank cs
    rw [trimStart] at hhead
    rwa [hhead] at hnot
  last c hc := by
    have hnot := List.rdropWhile_last_not isBlank (trimStart cs) h
    have hlast : (trim cs).getLast h = c := List.getLast_of_mem_getLast? hc
    rw [Bool.eq_false_iff, ← hlast]
    exact hnot

theorem isTrimmed_of_not_blank {cs : List Char} (hne : cs ≠ [])
    (h : ∀ c ∈ cs, isBlank c = false) : IsTrimmed cs where
  ne_nil := hne
  first c hc := h c (List.mem_of_head? hc)
  last c hc := h c (List.mem_of_getLast? hc)

theorem trim_of_isTrimmed {cs : List Char} (h : IsTrimmed cs) : trim cs = cs :=
  trim_eq_self_of_ends h.first h.last

end LinkReport.Text
