import LinkReport.FileTree
import Mathlib.Data.List.Infix
import Mathlib.Data.List.TakeWhile

/-!
# The way up a path

The ancestors of a path, seen by the names on them: each has one name fewer than the one
before, down to none. All of them are beginnings of the path, and but for the path itself
they end where a name ends.

* `FileTree.IsWayUp` is the rule, and `isWayUp_ancestors` says that the ancestors follow it.
-/

namespace LinkReport

namespace FileTree

/-- The names among the segments of a path. -/
def names (segments : List String) : List String :=
  segments.filter (!isIdle ·)

/-- The directories run from a path upwards, each to the names of the one before without the
last. -/
structure IsWayUp (segments : List String) (directories : List (List String)) : Prop where
  head_eq : directories.head? = some segments
  names_eq : directories.map names = (names segments).inits.reverse
  isPrefix : ∀ directory ∈ directories, directory <+: segments
  ends_with_name : ∀ directory ∈ directories.tail, ∀ last ∈ directory.getLast?,
    isIdle last = false

theorem names_eq_nil_iff {segments : List String} :
    names segments = [] ↔ ∀ s ∈ segments, isIdle s = true := by
  unfold names
  rw [List.filter_eq_nil_iff]
  simp

theorem names_eq_nil_of_idle {segments : List String} (h : ∀ s ∈ segments, isIdle s = true) :
    names segments = [] :=
  names_eq_nil_iff.2 h

theorem names_append (xs ys : List String) : names (xs ++ ys) = names xs ++ names ys :=
  List.filter_append xs ys

end FileTree

open FileTree

variable {segments parent : List String}

/-- The segments are the idle ones at the end of a path, and before them the rest. -/
private theorem eq_append_idle (segments : List String) :
    segments = (segments.reverse.dropWhile isIdle).reverse ++
      (segments.reverse.takeWhile isIdle).reverse := by
  rw [← List.reverse_append, List.takeWhile_append_dropWhile, List.reverse_reverse]

private theorem isIdle_of_mem_takeWhile {s : String}
    (h : s ∈ (segments.reverse.takeWhile isIdle).reverse) : isIdle s = true :=
  List.mem_takeWhile_imp (List.mem_reverse.1 h)

/-- A path without names has no parent. -/
theorem parentSegments?_eq_none (h : parentSegments? segments = none) : names segments = [] := by
  unfold parentSegments? at h
  split at h
  · rename_i hdrop
    apply names_eq_nil_of_idle
    intro s hs
    rw [eq_append_idle segments, hdrop] at hs
    exact isIdle_of_mem_takeWhile (by simpa using hs)
  · cases h

/-- The parent stands before a name, with nothing but idle segments around that name. -/
theorem exists_of_parentSegments? (h : parentSegments? segments = some parent) :
    ∃ gap name tail, segments = parent ++ gap ++ name :: tail ∧ names gap = [] ∧
      isIdle name = false ∧ names tail = [] ∧ ∀ last ∈ parent.getLast?, isIdle last = false := by
  unfold parentSegments? at h
  split at h
  · cases h
  · rename_i name rest hdrop
    have hparent : (rest.dropWhile isIdle).reverse = parent := Option.some.inj h
    have hname : isIdle name = false := by
      have hhead := List.head?_dropWhile_not isIdle segments.reverse
      rw [hdrop] at hhead
      simpa using hhead
    have hsegments : segments =
        rest.reverse ++ name :: (segments.reverse.takeWhile isIdle).reverse := by
      have hall := eq_append_idle segments
      rw [hdrop] at hall
      simpa using hall
    have hrest := eq_append_idle rest.reverse
    rw [List.reverse_reverse, hparent] at hrest
    refine ⟨(rest.takeWhile isIdle).reverse, name, (segments.reverse.takeWhile isIdle).reverse,
      ?_, ?_, hname, ?_, ?_⟩
    · rw [← hrest]
      exact hsegments
    · exact names_eq_nil_of_idle fun s hs => List.mem_takeWhile_imp (List.mem_reverse.1 hs)
    · exact names_eq_nil_of_idle fun s hs => isIdle_of_mem_takeWhile hs
    · intro last hlast
      rw [← hparent, List.getLast?_reverse] at hlast
      have hhead := List.head?_dropWhile_not isIdle rest
      rw [Option.mem_def.1 hlast] at hhead
      simpa using hhead

theorem names_parent (h : parentSegments? segments = some parent) :
    ∃ name, names segments = names parent ++ [name] := by
  obtain ⟨gap, name, tail, hsegments, hgap, hname, htail, -⟩ := exists_of_parentSegments? h
  have hself : names (name :: tail) = [name] := by
    unfold names at htail ⊢
    rw [List.filter_cons, hname, htail]
    rfl
  refine ⟨name, ?_⟩
  rw [hsegments, names_append, names_append, hgap, hself, List.append_nil]

theorem length_parent_lt (h : parentSegments? segments = some parent) :
    parent.length < segments.length := by
  obtain ⟨gap, name, tail, hsegments, -⟩ := exists_of_parentSegments? h
  rw [hsegments, List.length_append, List.length_append, List.length_cons]
  omega

theorem isPrefix_parent (h : parentSegments? segments = some parent) : parent <+: segments := by
  obtain ⟨gap, name, tail, hsegments, -⟩ := exists_of_parentSegments? h
  rw [hsegments, List.append_assoc]
  exact List.prefix_append _ _

/-! ## All the way up -/

theorem isWayUp_of_no_names (h : names segments = []) : IsWayUp segments [segments] where
  head_eq := rfl
  names_eq := by
    rw [h]
    simp [h]
  isPrefix := by simp
  ends_with_name := by simp

/-- The way up of a path is the path before the way up of its parent. -/
theorem isWayUp_cons {directories : List (List String)}
    (h : parentSegments? segments = some parent) (hway : IsWayUp parent directories) :
    IsWayUp segments (segments :: directories) where
  head_eq := rfl
  names_eq := by
    obtain ⟨name, hname⟩ := names_parent h
    rw [List.map_cons, hway.names_eq, hname, List.inits_append]
    simp
  isPrefix := by
    intro directory hmem
    rcases List.mem_cons.1 hmem with rfl | hmem
    · exact List.prefix_rfl
    · exact (hway.isPrefix directory hmem).trans (isPrefix_parent h)
  ends_with_name := by
    intro directory hmem last hlast
    obtain ⟨_, _, _, -, -, -, -, hend⟩ := exists_of_parentSegments? h
    -- the first of the directories is the parent, whose end the parent's own rule tells
    have hhead := hway.head_eq
    cases directories with
    | nil => cases hhead
    | cons first rest =>
      rcases List.mem_cons.1 hmem with rfl | hmem
      · rw [Option.some.inj hhead] at hlast
        exact hend last hlast
      · exact hway.ends_with_name directory hmem last hlast

theorem isWayUp_ancestorsFrom (fuel : Nat) (hfuel : segments.length ≤ fuel) :
    IsWayUp segments (ancestorsFrom fuel segments) := by
  induction fuel generalizing segments with
  | zero =>
    have hnil : segments = [] := List.length_eq_zero_iff.1 (by omega)
    rw [hnil]
    exact isWayUp_of_no_names rfl
  | succ fuel ih =>
    unfold ancestorsFrom
    cases h : parentSegments? segments with
    | none => exact isWayUp_of_no_names (parentSegments?_eq_none h)
    | some parent =>
      have hlength := length_parent_lt h
      exact isWayUp_cons h (ih (by omega))

/-- The ancestors of a path are its way up. -/
theorem isWayUp_ancestors (segments : List String) : IsWayUp segments (ancestors segments) :=
  isWayUp_ancestorsFrom segments.length le_rfl

/-- Slashes and single points between the names do not count as directories of their own. -/
example : ancestors ["a", "", ".", "b", ""] = [["a", "", ".", "b", ""], ["a"], []] := by decide

end LinkReport
