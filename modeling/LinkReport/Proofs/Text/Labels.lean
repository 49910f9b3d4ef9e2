import Mathlib.Data.List.Basic

/-!
# Labels in texts

A text of several parts is taken apart again by what stands between the parts: characters are
counted, a label is looked for, a fixed beginning and a fixed end are taken off. Two texts that are
put together with the same separator are the same if their parts are, or if the separator of one
of them is in a part of the other.

* `cutAt?_eq_some_iff` a text is cut at an occurrence of a character
* `after?_append` a label is found where it stands
* `between?_eq_some_iff` what stands between a beginning and an end
* `append_separator_eq_iff` which texts with one separator are the same
-/

namespace LinkReport.Text

variable {α : Type} {a : α} {label sep text us vs xs xs' ys ys' : List α} {n : Nat}

/-! ## Counted characters -/

section
variable [DecidableEq α]

/-- What stands before and after that occurrence of `a` which has `n` others before it. -/
def cutAt? (a : α) : Nat → List α → Option (List α × List α)
  | _, [] => none
  | n, x :: xs =>
    if x = a ∧ n = 0 then some ([], xs)
    else (cutAt? a (if x = a then n - 1 else n) xs).map (Prod.map (x :: ·) id)

theorem cutAt?_append (xs ys : List α) :
    cutAt? a (xs.count a) (xs ++ a :: ys) = some (xs, ys) := by
  induction xs with
  | nil => simp [cutAt?]
  | cons x xs ih =>
    by_cases hx : x = a
    · subst hx
      rw [List.count_cons_self, List.cons_append, cutAt?, if_neg (by simp), if_pos rfl,
        Nat.add_sub_cancel, ih]
      rfl
    · rw [List.count_cons_of_ne hx, List.cons_append, cutAt?, if_neg (by simp [hx]), if_neg hx, ih]
      rfl

/-- A text is cut at an occurrence of the character exactly if it has as many before it. -/
theorem cutAt?_eq_some_iff :
    cutAt? a n text = some (xs, ys) ↔ text = xs ++ a :: ys ∧ xs.count a = n := by
  constructor
  · intro h
    induction text generalizing n xs with
    | nil => cases h
    | cons x text ih =>
      rw [cutAt?] at h
      split at h
      · next hfirst =>
        obtain ⟨rfl, rfl⟩ := hfirst
        cases h
        exact ⟨rfl, rfl⟩
      · next hlater =>
        obtain ⟨⟨before, after⟩, hcut, hparts⟩ := Option.map_eq_some_iff.1 h
        cases hparts
        obtain ⟨rfl, hcount⟩ := ih hcut
        refine ⟨rfl, ?_⟩
        by_cases hx : x = a
        · subst hx
          rw [if_pos rfl] at hcount
          rw [List.count_cons_self, hcount]
          have hpos : n ≠ 0 := fun hn => hlater ⟨rfl, hn⟩
          omega
        · rw [if_neg hx] at hcount
          rw [List.count_cons_of_ne hx, hcount]
  · rintro ⟨rfl, rfl⟩
    exact cutAt?_append xs ys

/-- A text that goes on with `a` is cut at its first `a` after the longest part without one. -/
theorem exists_takeWhile_append_cons (xs ys : List α) :
    ∃ rest, xs ++ a :: ys = xs.takeWhile (· ≠ a) ++ a :: rest := by
  have hsplit : xs.takeWhile (· ≠ a) ++ xs.dropWhile (· ≠ a) = xs := List.takeWhile_append_dropWhile
  cases hrest : xs.dropWhile (· ≠ a) with
  | nil =>
    rw [hrest, List.append_nil] at hsplit
    exact ⟨ys, by rw [hsplit]⟩
  | cons x rest =>
    have hx : x = a := by
      have hhead := List.head?_dropWhile_not (· ≠ a) xs
      rw [hrest] at hhead
      simpa using hhead
    rw [hrest, hx] at hsplit
    exact ⟨rest ++ a :: ys, by rw [← List.cons_append, ← List.append_assoc, hsplit]⟩

/-! ## Labels -/

/-- What stands after a label, where that stands first. -/
def after? (label text : List α) : Option (List α) :=
  (text.dropInfix? label).map Prod.snd

/-- A label is found where it stands if it cannot start earlier. -/
theorem after?_append (hlabel : label.head? = some a) (h : a ∉ xs) :
    after? label (xs ++ label ++ ys) = some ys := by
  obtain ⟨rest, rfl⟩ := List.head?_eq_some_iff.1 hlabel
  have hfirst : (xs ++ a :: rest ++ ys).dropInfix? (a :: rest) = some (xs, ys) := by
    rw [List.dropInfix?_eq_some_iff]
    refine ⟨⟨a :: rest, rfl, BEq.rfl⟩, ?_⟩
    intro us found vs htext hfound
    rw [eq_of_beq hfound] at htext
    -- otherwise the label would start among the characters of `xs`
    by_contra hshort
    have hus : us ++ [a] <+: xs ++ a :: rest ++ ys := ⟨rest ++ vs, by rw [htext]; simp⟩
    have hxs : xs <+: xs ++ a :: rest ++ ys :=
      (List.prefix_append _ _).trans (List.prefix_append _ _)
    have hlength : (us ++ [a]).length ≤ xs.length := by
      simp only [List.length_append, List.length_singleton]
      omega
    have hearlier : us ++ [a] <+: xs := List.prefix_of_prefix_length_le hus hxs hlength
    exact h (hearlier.subset (by simp))
  rw [after?, hfirst]
  rfl

/-- What stands between a beginning and an end. -/
def between? (before after text : List α) : Option (List α) :=
  (text.dropPrefix? before).bind (·.dropSuffix? after)

theorem between?_eq_some_iff :
    between? xs ys text = some us ↔ text = xs ++ us ++ ys := by
  simp only [between?, Option.bind_eq_some_iff, List.dropPrefix?_eq_some_iff,
    List.dropSuffix?_eq_some_iff, beq_iff_eq]
  constructor
  · rintro ⟨rest, ⟨_, rfl, rfl⟩, _, rfl, rfl⟩
    exact (List.append_assoc ..).symm
  · rintro rfl
    exact ⟨us ++ ys, ⟨xs, List.append_assoc .., rfl⟩, ys, rfl, rfl⟩

end

/-! ## Separators -/

/-- Of two separated texts that are the same, the parts are the same, or the first separator is in
the first part of the other. -/
theorem separator_append_eq_iff (h : a ∉ sep) :
    a :: (sep ++ ys) = us ++ a :: (sep ++ ys') ↔
      (us = [] ∧ ys = ys') ∨
        ∃ middle, us = a :: (sep ++ middle) ∧ ys = middle ++ a :: (sep ++ ys') := by
  cases us with
  | nil => simp
  | cons u us =>
    rw [List.cons_append, List.cons.injEq, List.append_eq_append_iff]
    constructor
    · rintro ⟨rfl, ⟨middle, hus, hys⟩ | ⟨rest, hsep, hrest⟩⟩
      · exact .inr ⟨middle, by rw [hus], hys⟩
      · cases rest with
        | nil =>
          rw [List.append_nil] at hsep
          exact .inr ⟨[], by rw [hsep, List.append_nil], hrest.symm⟩
        | cons b rest =>
          -- a part of the separator would start with its first character
          have hb : a = b := (List.cons.inj hrest).1
          exact absurd (by simp [hsep, hb]) h
    · rintro (⟨hnil, -⟩ | ⟨middle, hus, rfl⟩)
      · cases hnil
      · obtain ⟨rfl, rfl⟩ := List.cons.inj hus
        exact ⟨rfl, .inl ⟨middle, rfl, rfl⟩⟩

/-- Two texts with one separator are the same if their parts are, or if the separator of one of
them is in the first part of the other. -/
theorem append_separator_eq_iff (h : a ∉ sep) :
    xs ++ a :: (sep ++ ys) = xs' ++ a :: (sep ++ ys') ↔
      (xs = xs' ∧ ys = ys') ∨
        (∃ middle, xs' = xs ++ a :: (sep ++ middle) ∧ ys = middle ++ a :: (sep ++ ys')) ∨
        ∃ middle, xs = xs' ++ a :: (sep ++ middle) ∧ ys' = middle ++ a :: (sep ++ ys) := by
  constructor
  · intro htexts
    rcases List.append_eq_append_iff.1 htexts with ⟨us, rfl, hrest⟩ | ⟨us, rfl, hrest⟩
    · rcases (separator_append_eq_iff h).1 hrest with ⟨rfl, rfl⟩ | ⟨middle, rfl, hys⟩
      · exact .inl ⟨(List.append_nil xs).symm, rfl⟩
      · exact .inr (.inl ⟨middle, rfl, hys⟩)
    · rcases (separator_append_eq_iff h).1 hrest with ⟨rfl, rfl⟩ | ⟨middle, rfl, hys⟩
      · exact .inl ⟨List.append_nil xs', rfl⟩
      · exact .inr (.inr ⟨middle, rfl, hys⟩)
  · rintro (⟨rfl, rfl⟩ | ⟨middle, rfl, rfl⟩ | ⟨middle, rfl, rfl⟩)
    · rfl
    · simp
    · simp

end LinkReport.Text
