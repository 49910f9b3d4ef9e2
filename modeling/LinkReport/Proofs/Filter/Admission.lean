import LinkReport.Proofs.Event
import LinkReport.Proofs.Filter.Plain

/-!
# What plain directives let through

Of a list of plain directives one decides about an event: among those whose scope is a
beginning of the event's target the one with the longest scope, and the last of them where
several have it. The sorted set that the filter holds comes to the same: the search finds the
longest scope first, and each insertion has put a later directive in place of an earlier one.

* `Passes` the rule
* `admits_iff_passes` the filter follows it
-/

namespace LinkReport.Filter

/-- The directive decides about what comes from `target`: no directive that speaks of
`target` has a longer scope, and none after it has the same. -/
def Decides (ps : List Plain) (p : Plain) (target : List Char) : Prop :=
  p.scope <+: target ∧
    (∀ q ∈ ps, q.scope <+: target → q.scope.length ≤ p.scope.length) ∧
    ∃ before after, ps = before ++ p :: after ∧ ∀ q ∈ after, q.scope ≠ p.scope

/-- The event passes: a directive decides about it, and the event is not more verbose than
the directive allows. -/
def Passes (ps : List Plain) (e : Event) : Prop :=
  ∃ p, Decides ps p e.target.toList ∧ e.level.verbosity ≤ p.threshold.verbosity

namespace Plain
variable {p q : Plain} {target : List Char}

/-! ## Targets and scopes -/

theorem target_directive_eq_iff :
    p.directive.target = q.directive.target ↔ p.scope = q.scope := by
  rw [directive, directive]
  by_cases hp : p.scope = []
  · by_cases hq : q.scope = []
    · simp [hp, hq]
    · simp [hp, hq, Ne.symm hq]
  · by_cases hq : q.scope = []
    · simp [hp, hq]
    · simp [hp, hq, String.ofList_inj]

theorem speaksOf_directive_iff {e : Event} :
    p.directive.speaksOf e = true ↔ p.scope <+: e.target.toList := by
  by_cases hp : p.scope = []
  · simp [Directive.speaksOf, directive, hp]
  · simp [Directive.speaksOf, directive, hp, List.isPrefixOf_iff_prefix]

/-- A target is larger than each of its beginnings. -/
theorem compare_targetSize {rest : List Char} (h : p.scope = q.scope ++ rest) (hne : rest ≠ []) :
    compare p.directive.targetSize q.directive.targetSize = .gt := by
  have hp : p.scope ≠ [] := by simp [h, hne]
  rw [Directive.targetSize, Directive.targetSize, directive, directive, if_neg hp]
  by_cases hq : q.scope = []
  · rw [if_pos hq]
    rfl
  · have hrest : (String.ofList rest).utf8ByteSize ≠ 0 := by
      rw [Ne, String.utf8ByteSize_eq_zero_iff, ← String.ofList_nil, String.ofList_inj]
      exact hne
    rw [if_neg hq, h, String.ofList_append]
    refine Nat.compare_eq_gt.2 ?_
    rw [String.utf8ByteSize_append]
    omega

/-- Of two scopes that a target starts with the longer one makes the more specific
directive. -/
theorem byTarget_eq_gt (hp : p.scope <+: target) (hq : q.scope <+: target)
    (h : q.scope.length < p.scope.length) :
    Directive.byTarget p.directive q.directive = .gt := by
  obtain ⟨rest, hrest⟩ := List.prefix_of_prefix_length_le hq hp (Nat.le_of_lt h)
  have hne : rest ≠ [] := by
    rintro rfl
    rw [← hrest, List.append_nil] at h
    exact Nat.lt_irrefl _ h
  rw [Directive.byTarget, compareLex, compareOn, compare_targetSize hrest.symm hne]
  rfl

/-- Scopes of one length that a target starts with are the same. -/
theorem scope_eq_of_length_eq (hp : p.scope <+: target) (hq : q.scope <+: target)
    (h : p.scope.length = q.scope.length) : p.scope = q.scope :=
  (List.prefix_of_prefix_length_le hp hq (Nat.le_of_eq h)).eq_of_length h

end Plain

/-! ## The search -/

variable {ps : List Plain} {p : Plain} {e : Event}

/-- The sorted set holds the directives that no later one with the same scope replaces. -/
theorem mem_sorted_map_iff {d : Directive} :
    d ∈ sorted (ps.map Plain.directive) ↔ ∃ p, d = p.directive ∧
      ∃ before after, ps = before ++ p :: after ∧ ∀ q ∈ after, q.scope ≠ p.scope := by
  rw [mem_sorted_iff fun d => isPlain_of_mem_map]
  constructor
  · rintro ⟨before', after', hsplit, hafter⟩
    obtain ⟨before, tail, rfl, rfl, htail⟩ := List.map_eq_append_iff.1 hsplit
    obtain ⟨p, after, rfl, rfl, rfl⟩ := List.map_eq_cons_iff.1 htail
    refine ⟨p, rfl, before, after, rfl, fun q hq heq => ?_⟩
    exact hafter q.directive (List.mem_map_of_mem hq) (Plain.target_directive_eq_iff.2 heq)
  · rintro ⟨p, rfl, before, after, rfl, hafter⟩
    refine ⟨before.map Plain.directive, after.map Plain.directive, by simp, fun d hd => ?_⟩
    obtain ⟨q, hq, rfl⟩ := List.mem_map.1 hd
    exact fun heq => hafter q hq (Plain.target_directive_eq_iff.1 heq)

/-- The search in the sorted set finds the directive that decides. -/
theorem find?_sorted_iff {d : Directive} :
    (sorted (ps.map Plain.directive)).find? (·.speaksOf e) = some d ↔
      ∃ p, d = p.directive ∧ Decides ps p e.target.toList := by
  have hset : Descending (sorted (ps.map Plain.directive)) := descending_sorted_map ps
  rw [find?_eq_some_iff hset, mem_sorted_map_iff]
  constructor
  · rintro ⟨⟨p, rfl, hlast⟩, hspeaks, hfirst⟩
    have hscope := Plain.speaksOf_directive_iff.1 hspeaks
    refine ⟨p, rfl, hscope, fun q hq hprefix => ?_, hlast⟩
    -- the one that stands in the set for the target of `q` speaks of the event as `q` does
    have hmem : q.directive ∈ ps.map Plain.directive := List.mem_map_of_mem hq
    obtain ⟨d, hd, htarget⟩ := exists_mem_sorted (fun d => isPlain_of_mem_map) hmem
    obtain ⟨q', hq', rfl⟩ := List.mem_map.1 (mem_of_mem_sorted hd)
    rw [Plain.target_directive_eq_iff] at htarget
    rw [← htarget] at hprefix ⊢
    refine Nat.le_of_not_lt fun hlt => ?_
    rcases hfirst _ hd (Plain.speaksOf_directive_iff.2 hprefix) with heq | hgt
    · rw [Plain.target_directive_eq_iff.1 (congrArg Directive.target heq)] at hlt
      exact Nat.lt_irrefl _ hlt
    · rw [Std.OrientedCmp.gt_iff_lt, Plain.byTarget_eq_gt hprefix hscope hlt] at hgt
      cases hgt
  · rintro ⟨p, rfl, hscope, hlongest, hlast⟩
    refine ⟨⟨p, rfl, hlast⟩, Plain.speaksOf_directive_iff.2 hscope, fun d hd hspeaks => ?_⟩
    obtain ⟨q, hq, rfl⟩ := List.mem_map.1 (mem_of_mem_sorted hd)
    have hprefix := Plain.speaksOf_directive_iff.1 hspeaks
    rcases Nat.lt_or_eq_of_le (hlongest q hq hprefix) with hlt | heq
    · exact .inr (Plain.byTarget_eq_gt hscope hprefix hlt)
    · refine .inl (eq_of_target_eq hset hd (mem_sorted_map_iff.2 ⟨p, rfl, hlast⟩) ?_)
      exact Plain.target_directive_eq_iff.2 (Plain.scope_eq_of_length_eq hprefix hscope heq)

/-- The filter that plain directives make admits what passes. -/
theorem admits_iff_passes :
    (ofDirectives (ps.map Plain.directive)).admits e = true ↔ Passes ps e := by
  rw [admits, ofDirectives_plain, Passes]
  cases hfound : (sorted (ps.map Plain.directive)).find? (·.speaksOf e) with
  | some d =>
    obtain ⟨p, rfl, hdecides⟩ := find?_sorted_iff.1 hfound
    refine ⟨fun hle => ⟨p, hdecides, of_decide_eq_true hle⟩, ?_⟩
    rintro ⟨q, hq, hle⟩
    have hsame := hfound.symm.trans (find?_sorted_iff.2 ⟨q, rfl, hq⟩)
    rw [Option.some.inj hsame]
    exact decide_eq_true hle
  | none =>
    refine ⟨fun h => (Bool.false_ne_true h).elim, ?_⟩
    rintro ⟨q, hq, -⟩
    rw [find?_sorted_iff.2 ⟨q, rfl, hq⟩] at hfound
    cases hfound

/-- A directive that stands alone decides about the events in its scope. -/
theorem passes_singleton_iff :
    Passes [p] e ↔ p.scope <+: e.target.toList ∧ e.level.verbosity ≤ p.threshold.verbosity := by
  constructor
  · rintro ⟨q, ⟨hscope, -, before, after, hsplit, -⟩, hle⟩
    have hq : q ∈ [p] := hsplit ▸ List.mem_append_right before List.mem_cons_self
    obtain rfl := List.mem_singleton.1 hq
    exact ⟨hscope, hle⟩
  · rintro ⟨hscope, hle⟩
    refine ⟨p, ⟨hscope, fun q hq _ => ?_, [], [], rfl, ?_⟩, hle⟩
    · exact Nat.le_of_eq (congrArg (·.scope.length) (List.mem_singleton.1 hq))
    · exact fun q hq => absurd hq List.not_mem_nil

instance (ps : List Plain) (e : Event) : Decidable (Passes ps e) :=
  decidable_of_iff _ admits_iff_passes

end LinkReport.Filter
