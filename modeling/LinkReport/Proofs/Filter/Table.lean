import LinkReport.Filter.Basic
import Mathlib.Order.Compare
import Mathlib.Data.List.Induction
import Mathlib.Data.List.Sort

/-!
# Sorted sets of directives

The directives of a filter are kept sorted from the most specific one on. Among those that
name neither a span nor a field the target alone decides: a longer one goes first. Each
insertion keeps the set sorted and puts the directive in place of one with the same target,
so of a list the last directive for each target remains.

* `descending_sorted` and `mem_sorted_iff` say what the sorted set of a list is;
* `sorted_eq_self` says that a sorted set stays as it is;
* `find?_eq_some_iff` says which directive of a sorted set is found first.
-/

namespace LinkReport.Filter

namespace Directive

/-- The directive names neither a span nor a field. -/
def IsPlain (d : Directive) : Prop :=
  d.span = none ∧ d.field = none

/-- The order by the length of the target and then by its text. -/
def byTarget : Directive → Directive → Ordering :=
  compareLex (compareOn targetSize) (compareOn target)

instance : Std.TransCmp byTarget :=
  inferInstanceAs (Std.TransCmp (compareLex (compareOn targetSize) (compareOn target)))

variable {a b : Directive}

/-- Among plain directives the target decides. -/
theorem compare_eq_byTarget (ha : a.IsPlain) (hb : b.IsPlain) : a.compare b = byTarget a b := by
  obtain ⟨ta, sa, fa, la⟩ := a
  obtain ⟨tb, sb, fb, lb⟩ := b
  obtain ⟨rfl, rfl⟩ := ha
  obtain ⟨rfl, rfl⟩ := hb
  rw [Directive.compare, byTarget, compareLex, compareOn, compareOn]
  have hfield : Ord.compare (none : Option Field) none = .eq := rfl
  -- spans and fields are equal, so only the two comparisons of the target are left
  simp only [Option.isSome_none, Std.ReflOrd.compare_self, hfield, Ordering.then_eq]

theorem byTarget_eq_iff : byTarget a b = .eq ↔ a.target = b.target := by
  rw [byTarget, compareLex_eq_eq, compareOn, compareOn, Std.LawfulEqOrd.compare_eq_iff_eq,
    Std.LawfulEqOrd.compare_eq_iff_eq]
  refine ⟨And.right, fun h => ⟨?_, h⟩⟩
  rw [targetSize, targetSize, h]

theorem target_ne_of_byTarget_gt (h : byTarget a b = .gt) : a.target ≠ b.target := by
  intro heq
  rw [byTarget_eq_iff.2 heq] at h
  cases h

end Directive

open Directive (byTarget)

/-- The directives stand from the most specific one on, each target once. -/
def Descending (set : List Directive) : Prop :=
  set.Pairwise fun a b => byTarget a b = .gt

instance : Std.Irrefl fun a b : Directive => byTarget a b = .gt :=
  ⟨fun _ h => Directive.target_ne_of_byTarget_gt h rfl⟩

instance : Std.Antisymm fun a b : Directive => byTarget a b = .gt :=
  ⟨fun _ _ hab hba => by rw [Std.OrientedCmp.gt_iff_lt, hab] at hba; cases hba⟩

variable {set ds : List Directive} {d e : Directive}

/-- Sorted sets with the same directives are the same. -/
theorem Descending.eq_of_mem_iff {s t : List Directive} (hs : Descending s) (ht : Descending t)
    (h : ∀ d, d ∈ s ↔ d ∈ t) : s = t :=
  List.Pairwise.eq_of_mem_iff hs ht h

/-! ## Insertion -/

theorem mem_of_mem_insertSorted (h : e ∈ insertSorted d set) : e = d ∨ e ∈ set := by
  induction set with
  | nil => exact .inl (List.mem_singleton.1 h)
  | cons x xs ih =>
    rw [insertSorted] at h
    cases horder : d.compare x with
    | gt =>
      rw [horder] at h
      exact List.mem_cons.1 h
    | eq =>
      rw [horder] at h
      exact (List.mem_cons.1 h).imp_right (List.mem_cons_of_mem x)
    | lt =>
      rw [horder] at h
      rcases List.mem_cons.1 h with rfl | h
      · exact .inr List.mem_cons_self
      · exact (ih h).imp_right (List.mem_cons_of_mem x)

/-- Inserting puts the directive in place of the one with the same target. -/
theorem mem_insertSorted_iff (hd : d.IsPlain) (hplain : ∀ x ∈ set, x.IsPlain)
    (hset : Descending set) :
    e ∈ insertSorted d set ↔ e = d ∨ e ∈ set ∧ e.target ≠ d.target := by
  induction set with
  | nil => simp [insertSorted]
  | cons x xs ih =>
    obtain ⟨hx, hxs⟩ := List.pairwise_cons.1 hset
    have hrest : ∀ y ∈ xs, y.IsPlain := fun y hy => hplain y (List.mem_cons_of_mem x hy)
    have hcompare : d.compare x = byTarget d x :=
      Directive.compare_eq_byTarget hd (hplain x List.mem_cons_self)
    rw [insertSorted, hcompare]
    cases horder : byTarget d x with
    | gt =>
      -- what stands behind `x` is still less specific
      have hne : ∀ y ∈ x :: xs, y.target ≠ d.target := by
        intro y hy
        rcases List.mem_cons.1 hy with rfl | hy
        · exact (Directive.target_ne_of_byTarget_gt horder).symm
        · exact (Directive.target_ne_of_byTarget_gt
            (Std.TransCmp.gt_trans horder (hx y hy))).symm
      rw [List.mem_cons]
      exact or_congr_right ⟨fun h => ⟨h, hne e h⟩, And.left⟩
    | eq =>
      have htarget : d.target = x.target := Directive.byTarget_eq_iff.1 horder
      rw [List.mem_cons, List.mem_cons, htarget]
      refine or_congr_right ⟨fun h => ⟨.inr h, ?_⟩, fun h => ?_⟩
      · exact (Directive.target_ne_of_byTarget_gt (hx e h)).symm
      · rcases h with ⟨rfl | h, hne⟩
        · exact absurd rfl hne
        · exact h
    | lt =>
      have hne : x.target ≠ d.target :=
        Directive.target_ne_of_byTarget_gt (Std.OrientedCmp.gt_iff_lt.2 horder)
      rw [List.mem_cons, ih hrest hxs, List.mem_cons]
      constructor
      · rintro (rfl | rfl | ⟨h, htarget⟩)
        · exact .inr ⟨.inl rfl, hne⟩
        · exact .inl rfl
        · exact .inr ⟨.inr h, htarget⟩
      · rintro (rfl | ⟨rfl | h, htarget⟩)
        · exact .inr (.inl rfl)
        · exact .inl rfl
        · exact .inr (.inr ⟨h, htarget⟩)

/-- Inserting keeps a set sorted. -/
theorem descending_insertSorted (hd : d.IsPlain) (hplain : ∀ x ∈ set, x.IsPlain)
    (hset : Descending set) :
    Descending (insertSorted d set) := by
  induction set with
  | nil => exact List.pairwise_singleton _ _
  | cons x xs ih =>
    obtain ⟨hx, hxs⟩ := List.pairwise_cons.1 hset
    have hrest : ∀ y ∈ xs, y.IsPlain := fun y hy => hplain y (List.mem_cons_of_mem x hy)
    have hcompare : d.compare x = byTarget d x :=
      Directive.compare_eq_byTarget hd (hplain x List.mem_cons_self)
    rw [insertSorted, hcompare]
    cases horder : byTarget d x with
    | gt =>
      refine List.pairwise_cons.2 ⟨fun y hy => ?_, hset⟩
      rcases List.mem_cons.1 hy with rfl | hy
      · exact horder
      · exact Std.TransCmp.gt_trans horder (hx y hy)
    | eq =>
      refine List.pairwise_cons.2 ⟨fun y hy => ?_, hxs⟩
      exact Std.TransCmp.gt_of_eq_of_gt horder (hx y hy)
    | lt =>
      refine List.pairwise_cons.2 ⟨fun y hy => ?_, ih hrest hxs⟩
      rcases (mem_insertSorted_iff hd hrest hxs).1 hy with rfl | ⟨hy, -⟩
      · exact Std.OrientedCmp.gt_iff_lt.2 horder
      · exact hx y hy

/-! ## The sorted set of a list -/

theorem sorted_append_singleton (ds : List Directive) (d : Directive) :
    sorted (ds ++ [d]) = insertSorted d (sorted ds) := by
  rw [sorted, List.foldl_append]
  rfl

theorem mem_of_mem_sorted (h : e ∈ sorted ds) : e ∈ ds := by
  induction ds using List.reverseRecOn with
  | nil => exact h
  | append_singleton ds d ih =>
    rw [sorted_append_singleton] at h
    rw [List.mem_append, List.mem_singleton]
    rcases mem_of_mem_insertSorted h with rfl | h
    · exact .inr rfl
    · exact .inl (ih h)

theorem descending_sorted (h : ∀ d ∈ ds, d.IsPlain) : Descending (sorted ds) := by
  induction ds using List.reverseRecOn with
  | nil => exact List.Pairwise.nil
  | append_singleton ds d ih =>
    have hds : ∀ x ∈ ds, x.IsPlain := fun x hx => h x (List.mem_append_left _ hx)
    rw [sorted_append_singleton]
    exact descending_insertSorted (h d (by simp)) (fun x hx => hds x (mem_of_mem_sorted hx))
      (ih hds)

/-- One more directive takes the place of the one with its target. -/
theorem mem_sorted_append_singleton_iff (hds : ∀ x ∈ ds, x.IsPlain) (hd : d.IsPlain) :
    e ∈ sorted (ds ++ [d]) ↔ e = d ∨ e ∈ sorted ds ∧ e.target ≠ d.target := by
  rw [sorted_append_singleton]
  exact mem_insertSorted_iff hd (fun x hx => hds x (mem_of_mem_sorted hx)) (descending_sorted hds)

/-- The sorted set of a list holds the last directive for each target. -/
theorem mem_sorted_iff (h : ∀ d ∈ ds, d.IsPlain) :
    e ∈ sorted ds ↔
      ∃ before after, ds = before ++ e :: after ∧ ∀ d ∈ after, d.target ≠ e.target := by
  induction ds using List.reverseRecOn with
  | nil => simp [sorted]
  | append_singleton ds d ih =>
    have hds : ∀ x ∈ ds, x.IsPlain := fun x hx => h x (List.mem_append_left _ hx)
    rw [mem_sorted_append_singleton_iff hds (h d (by simp)), ih hds]
    constructor
    · rintro (rfl | ⟨⟨before, after, rfl, hafter⟩, hne⟩)
      · exact ⟨ds, [], rfl, fun x hx => absurd hx List.not_mem_nil⟩
      · refine ⟨before, after ++ [d], by simp, fun x hx => ?_⟩
        rcases List.mem_append.1 hx with hx | hx
        · exact hafter x hx
        · rw [List.mem_singleton.1 hx]
          exact hne.symm
    · rintro ⟨before, after, heq, hafter⟩
      -- the last element of the list is the directive itself or stands after it
      induction after using List.reverseRecOn with
      | nil =>
        exact .inl (List.append_inj_right' heq rfl |> List.cons.inj).1.symm
      | append_singleton after x _ =>
        rw [← List.cons_append, ← List.append_assoc] at heq
        obtain ⟨rfl, hd⟩ := List.append_inj' heq rfl
        obtain rfl := (List.cons.inj hd).1
        refine .inr ⟨⟨before, after, rfl, fun y hy => hafter y (List.mem_append_left _ hy)⟩, ?_⟩
        exact (hafter d (List.mem_append_right _ (List.mem_singleton.2 rfl))).symm

/-- A sorted set stays as it is. -/
theorem sorted_eq_self {ds : List Directive} (hplain : ∀ d ∈ ds, d.IsPlain)
    (hds : Descending ds) : sorted ds = ds := by
  refine (descending_sorted hplain).eq_of_mem_iff hds fun d => ⟨mem_of_mem_sorted, fun hd => ?_⟩
  obtain ⟨before, after, rfl⟩ := List.append_of_mem hd
  refine (mem_sorted_iff hplain).2 ⟨before, after, rfl, fun e he heq => ?_⟩
  -- what stands after `d` is less specific, so it has another target
  have hafter : Descending (d :: after) := (List.pairwise_append.1 hds).2.1
  exact Directive.target_ne_of_byTarget_gt ((List.pairwise_cons.1 hafter).1 e he) heq.symm

theorem sorted_eq_nil_iff {ds : List Directive} : sorted ds = [] ↔ ds = [] := by
  refine ⟨fun h => ?_, fun h => by rw [h]; rfl⟩
  rcases List.eq_nil_or_concat' ds with rfl | ⟨before, d, rfl⟩
  · rfl
  · rw [sorted_append_singleton] at h
    cases hset : sorted before with
    | nil =>
      rw [hset] at h
      cases h
    | cons e set =>
      rw [hset, insertSorted] at h
      split at h <;> cases h

/-- For each directive of a list one with its target is in the sorted set. -/
theorem exists_mem_sorted (h : ∀ d ∈ ds, d.IsPlain) (hd : d ∈ ds) :
    ∃ e ∈ sorted ds, e.target = d.target := by
  induction ds using List.reverseRecOn with
  | nil => cases hd
  | append_singleton ds x ih =>
    have hds : ∀ y ∈ ds, y.IsPlain := fun y hy => h y (List.mem_append_left _ hy)
    have hmem : ∀ e, e ∈ sorted (ds ++ [x]) ↔ e = x ∨ e ∈ sorted ds ∧ e.target ≠ x.target :=
      fun e => mem_sorted_append_singleton_iff hds (h x (by simp))
    rcases List.mem_append.1 hd with hd | hd
    · obtain ⟨e, he, htarget⟩ := ih hds hd
      by_cases hx : e.target = x.target
      · exact ⟨x, (hmem x).2 (.inl rfl), hx.symm.trans htarget⟩
      · exact ⟨e, (hmem e).2 (.inr ⟨he, hx⟩), htarget⟩
    · exact ⟨x, (hmem x).2 (.inl rfl), by rw [List.mem_singleton.1 hd]⟩

/-- A sorted set has one directive for a target at most. -/
theorem eq_of_target_eq (hset : Descending set) (hd : d ∈ set) (he : e ∈ set)
    (h : d.target = e.target) : d = e := by
  have hbefore : set.Pairwise fun a b => a.target = b.target → a = b :=
    hset.imp fun hgt heq => absurd heq (Directive.target_ne_of_byTarget_gt hgt)
  have hafter : set.Pairwise fun a b => b.target = a.target → b = a :=
    hset.imp fun hgt heq => absurd heq.symm (Directive.target_ne_of_byTarget_gt hgt)
  have hall : ∀ a ∈ set, ∀ b ∈ set, a.target = b.target → a = b :=
    List.Pairwise.forall_of_forall_of_flip (fun _ _ _ => rfl) hbefore hafter
  exact hall d hd e he h

/-- In a sorted set the most specific directive is found first. -/
theorem find?_eq_some_iff {p : Directive → Bool} (hset : Descending set) :
    set.find? p = some d ↔
      d ∈ set ∧ p d = true ∧ ∀ e ∈ set, p e = true → e = d ∨ byTarget d e = .gt := by
  rw [List.find?_eq_some_iff_append]
  constructor
  · rintro ⟨hd, before, after, rfl, hbefore⟩
    refine ⟨by simp, hd, fun e he hpe => ?_⟩
    rcases List.mem_append.1 he with he | he
    · have hnot := hbefore e he
      rw [hpe] at hnot
      cases hnot
    · rcases List.mem_cons.1 he with rfl | he
      · exact .inl rfl
      · have hafter := (List.pairwise_append.1 hset).2.1
        exact .inr ((List.pairwise_cons.1 hafter).1 e he)
  · rintro ⟨hmem, hd, hfirst⟩
    obtain ⟨before, after, rfl⟩ := List.append_of_mem hmem
    refine ⟨hd, before, after, rfl, fun e he => ?_⟩
    by_contra hpe
    rw [Bool.not_eq_true', Bool.not_eq_false] at hpe
    -- what stands before `d` is more specific, so it cannot be found after it
    have hgt : byTarget e d = .gt :=
      (List.pairwise_append.1 hset).2.2 e he d List.mem_cons_self
    rcases hfirst e (List.mem_append_left _ he) hpe with rfl | hlt
    · exact Directive.target_ne_of_byTarget_gt hgt rfl
    · rw [Std.OrientedCmp.gt_iff_lt, hgt] at hlt
      cases hlt

end LinkReport.Filter
