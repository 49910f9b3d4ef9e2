/-!
# Joined texts

Parts joined by a separator hold what the parts and the separator hold, and a text falls into
parts that hold nothing else than the text. Where the separator is not in a part, it tells where
the part ends.
-/

namespace LinkReport.Text

variable {α : Type} {a b : α} {sep part xs xs' ys ys' : List α} {parts : List (List α)}

/-- The separator shows as soon as there are two parts. -/
theorem mem_intercalate_iff :
    a ∈ sep.intercalate parts ↔ (∃ part ∈ parts, a ∈ part) ∨ a ∈ sep ∧ 1 < parts.length := by
  induction parts with
  | nil => simp
  | cons first rest ih =>
    cases rest with
    | nil => simp
    | cons next rest =>
      rw [List.intercalate_cons_cons, List.mem_append, List.mem_append, ih]
      simp only [List.mem_cons, List.length_cons]
      grind

theorem mem_of_mem_splitOn [BEq α] [LawfulBEq α] (hpart : part ∈ xs.splitOn b) (ha : a ∈ part) :
    a ∈ xs := by
  have hmem : a ∈ [b].intercalate (xs.splitOn b) := mem_intercalate_iff.2 (.inl ⟨part, hpart, ha⟩)
  rwa [List.intercalate_splitOn] at hmem

/-- A text can be cut at its first separator in one way only. -/
theorem append_cons_inj (hxs : a ∉ xs) (hys : a ∉ ys) :
    xs ++ a :: xs' = ys ++ a :: ys' ↔ xs = ys ∧ xs' = ys' := by
  induction xs generalizing ys with
  | nil =>
    cases ys with
    | nil => simp
    | cons y ys =>
      have hne : a ≠ y := List.ne_of_not_mem_cons hys
      simp [hne]
  | cons x xs ih =>
    cases ys with
    | nil =>
      have hne : x ≠ a := (List.ne_of_not_mem_cons hxs).symm
      simp [hne]
    | cons y ys =>
      have hrest := ih (List.not_mem_of_not_mem_cons hxs) (List.not_mem_of_not_mem_cons hys)
      simp [hrest, and_assoc]

end LinkReport.Text
