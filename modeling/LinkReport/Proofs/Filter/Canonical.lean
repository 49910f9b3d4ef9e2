import LinkReport.Proofs.Filter.Admission
import Mathlib.Data.Set.List

/-!
# The text of a filter

A filter of plain directives is shown as a table: one entry for each scope, with the level that
the last directive for it sets. The table does not depend on the order of directives with
different scopes, and its text is read as the filter that it shows.

* `lastLevel?` what the table holds
* `Rearranges.sorted_eq` the order of directives with different scopes does not matter
* `shown_canonical` the text of a filter
-/

namespace LinkReport.Filter

/-! ## Entries -/

/-- An entry of the table that a filter is shown as. -/
structure Entry where
  scope : List Char
  level : Level
deriving DecidableEq

/-- The text of an entry. -/
def Entry.text (e : Entry) : List Char :=
  if e.scope = [] then e.level.name.toList else e.scope ++ '=' :: e.level.name.toList

/-- The text of a table. -/
def writeTable (table : List Entry) : String :=
  String.ofList ([','].intercalate (table.map Entry.text))

/-- The level that the last directive with a scope sets for it. -/
def lastLevel? (ps : List Plain) (scope : List Char) : Option Level :=
  ((ps.filter fun p => p.scope = scope).getLast?).map Plain.threshold

/-- The same directives in another order, but those with one scope in the same order. -/
structure Rearranges (ps qs : List Plain) : Prop where
  perm : qs.Perm ps
  filter_eq (scope : List Char) :
    (qs.filter fun q => q.scope = scope) = ps.filter fun p => p.scope = scope

theorem Rearranges.lastLevel?_eq {ps qs : List Plain} (h : Rearranges ps qs) (scope : List Char) :
    lastLevel? qs scope = lastLevel? ps scope := by
  rw [lastLevel?, h.filter_eq, lastLevel?]

/-- A level by its name in lower case. -/
def LevelName.ofLevel (level : Level) : LevelName where
  level := level
  text := level.name.toList
  map_toLower_text := by cases level <;> decide

namespace Plain

/-- What the directive says, as an entry. -/
def entry (p : Plain) : Entry :=
  ⟨p.scope, p.threshold⟩

/-- The directive with its level written out, in lower case. -/
def canonical : Plain → Plain
  | level l => level (.ofLevel l.level)
  | targetLevel t l => targetLevel t (.ofLevel l.level)
  | target t _ => targetLevel t (.ofLevel .trace)

theorem directive_canonical (p : Plain) : p.canonical.directive = p.directive := by
  cases p <;> rfl

theorem text_canonical (p : Plain) : p.canonical.text = p.entry.text := by
  cases p with
  | level l => rfl
  | targetLevel t l => exact (if_neg t.text_ne_nil).symm
  | target t h => exact (if_neg t.text_ne_nil).symm

/-- A directive is shown as the entry that it makes. -/
theorem shown_directive (p : Plain) : p.directive.shown = String.ofList p.entry.text := by
  rw [Directive.shown, p.directive_isDynamic, directive, entry, Entry.text]
  by_cases hscope : p.scope = []
  · simp [hscope]
  · simp [hscope, ← String.toList_inj]

/-- Directives are the same if they make the same entry. -/
theorem directive_eq_iff {p q : Plain} : p.directive = q.directive ↔ p.entry = q.entry := by
  constructor
  · intro h
    have hscope : p.scope = q.scope := target_directive_eq_iff.1 (congrArg Directive.target h)
    have hlevel : p.threshold = q.threshold := congrArg Directive.level h
    rw [entry, entry, hscope, hlevel]
  · intro h
    obtain ⟨hscope, hlevel⟩ := Entry.mk.inj h
    rw [directive, directive, hscope, hlevel]

end Plain

/-! ## The sorted set as a table -/

/-- The last directive with a scope is one after which none has it. -/
theorem lastLevel?_eq_some_iff {ps : List Plain} {e : Entry} :
    lastLevel? ps e.scope = some e.level ↔ ∃ p, p.entry = e ∧
      ∃ before after, ps = before ++ p :: after ∧ ∀ q ∈ after, q.scope ≠ p.scope := by
  rw [lastLevel?, List.getLast?_filter, Option.map_eq_some_iff]
  constructor
  · rintro ⟨p, hfind, hlevel⟩
    obtain ⟨hscope, after, before, hreverse, hafter⟩ := List.find?_eq_some_iff_append.1 hfind
    have hscope : p.scope = e.scope := of_decide_eq_true hscope
    refine ⟨p, by rw [Plain.entry, hscope, hlevel], before.reverse, after.reverse, ?_, ?_⟩
    · rw [← List.reverse_reverse ps, hreverse]
      simp
    · intro q hq
      have hne := hafter q (List.mem_reverse.1 hq)
      rw [hscope]
      simpa using hne
  · rintro ⟨p, rfl, before, after, rfl, hafter⟩
    refine ⟨p, List.find?_eq_some_iff_append.2 ⟨decide_eq_true rfl, after.reverse,
      before.reverse, by simp, fun q hq => ?_⟩, rfl⟩
    have hne : q.scope ≠ p.scope := hafter q (List.mem_reverse.1 hq)
    rw [Bool.not_eq_true', decide_eq_false_iff_not]
    exact hne

/-- The sorted set holds what the last directive for each scope says. -/
theorem mem_sorted_map_iff_lastLevel? {ps : List Plain} {d : Directive} :
    d ∈ sorted (ps.map Plain.directive) ↔
      ∃ p : Plain, d = p.directive ∧ lastLevel? ps p.scope = some p.threshold := by
  have hentry (p : Plain) : lastLevel? ps p.scope = some p.threshold ↔ ∃ q, q.entry = p.entry ∧
      ∃ before after, ps = before ++ q :: after ∧ ∀ r ∈ after, r.scope ≠ q.scope :=
    lastLevel?_eq_some_iff (e := p.entry)
  rw [mem_sorted_map_iff]
  constructor
  · rintro ⟨p, rfl, hlast⟩
    exact ⟨p, rfl, (hentry p).2 ⟨p, rfl, hlast⟩⟩
  · rintro ⟨p, rfl, hlevel⟩
    obtain ⟨q, hq, hlast⟩ := (hentry p).1 hlevel
    exact ⟨q, Plain.directive_eq_iff.2 hq.symm, hlast⟩

/-- The order of directives with different scopes does not matter. -/
theorem Rearranges.sorted_eq {ps qs : List Plain} (h : Rearranges ps qs) :
    sorted (qs.map Plain.directive) = sorted (ps.map Plain.directive) := by
  refine (descending_sorted_map qs).eq_of_mem_iff (descending_sorted_map ps) fun d => ?_
  simp only [mem_sorted_map_iff_lastLevel?, h.lastLevel?_eq]

/-- The sorted set of plain directives consists of plain directives. -/
theorem exists_sorted_eq_map (ps : List Plain) :
    ∃ qs : List Plain, sorted (ps.map Plain.directive) = qs.map Plain.directive := by
  have hmem : sorted (ps.map Plain.directive) ∈ Set.range (List.map Plain.directive) := by
    rw [Set.range_list_map]
    intro d hd
    obtain ⟨p, -, rfl⟩ := List.mem_map.1 (mem_of_mem_sorted hd)
    exact ⟨p, rfl⟩
  obtain ⟨qs, hqs⟩ := hmem
  exact ⟨qs, hqs.symm⟩

/-- The entries of the sorted set are what the last directives say. -/
theorem mem_map_entry_iff {ps qs : List Plain} {e : Entry}
    (h : sorted (ps.map Plain.directive) = qs.map Plain.directive) :
    e ∈ qs.map Plain.entry ↔ lastLevel? ps e.scope = some e.level := by
  rw [lastLevel?_eq_some_iff]
  constructor
  · intro he
    obtain ⟨q, hq, rfl⟩ := List.mem_map.1 he
    have hmem : q.directive ∈ sorted (ps.map Plain.directive) := h ▸ List.mem_map_of_mem hq
    obtain ⟨p, hp, hlast⟩ := mem_sorted_map_iff.1 hmem
    exact ⟨p, (Plain.directive_eq_iff.1 hp).symm, hlast⟩
  · rintro ⟨p, rfl, hlast⟩
    have hmem : p.directive ∈ qs.map Plain.directive := h ▸ mem_sorted_map_iff.2 ⟨p, rfl, hlast⟩
    obtain ⟨q, hq, heq⟩ := List.mem_map.1 hmem
    exact List.mem_map.2 ⟨q, hq, Plain.directive_eq_iff.1 heq⟩

/-- A sorted set has one entry for a scope at most. -/
theorem nodup_scope {qs : List Plain} (h : Descending (qs.map Plain.directive)) :
    ((qs.map Plain.entry).map Entry.scope).Nodup := by
  rw [List.map_map, List.Nodup, List.pairwise_map]
  exact (List.pairwise_map.1 h).imp fun hgt hscope =>
    Directive.target_ne_of_byTarget_gt hgt (Plain.target_directive_eq_iff.2 hscope)

/-! ## The text of a table -/

/-- A filter of plain directives is shown as the entries that they make. -/
theorem shown_map_directive (qs : List Plain) :
    shown ⟨qs.map Plain.directive, []⟩ = writeTable (qs.map Plain.entry) := by
  have htexts : (qs.map Plain.directive).map Directive.shown
      = (qs.map fun q => q.entry.text).map String.ofList := by
    rw [List.map_map, List.map_map]
    exact List.map_congr_left fun q _ => q.shown_directive
  rw [← String.toList_inj, shown, List.append_nil, String.toList_intercalate, htexts,
    List.map_map, writeTable, String.toList_ofList, List.map_map]
  simp [Function.comp_def]

/-- The table is the text of the directives with their levels written out. -/
theorem writeTable_map_entry (qs : List Plain) :
    writeTable (qs.map Plain.entry) = write (qs.map Plain.canonical) := by
  rw [writeTable, write, List.map_map, List.map_map]
  simp only [Function.comp_def, Plain.text_canonical]

/-- The text of a sorted set is read as this set. -/
theorem read_writeTable {qs : List Plain} (h : Descending (qs.map Plain.directive)) :
    read (writeTable (qs.map Plain.entry)) = .ok ⟨qs.map Plain.directive, []⟩ := by
  have hcanonical : (qs.map Plain.canonical).map Plain.directive = qs.map Plain.directive := by
    rw [List.map_map]
    exact List.map_congr_left fun q _ => q.directive_canonical
  rw [writeTable_map_entry, read_write, hcanonical, ofDirectives_plain,
    sorted_eq_self (fun _ => isPlain_of_mem_map) h]

/-- A filter of plain directives is shown as the table of what the last directive for each
scope says, in the same way for each order of directives with different scopes, and the text
is read as the same filter whatever the level. -/
theorem shown_canonical (parts : List (Option Plain)) :
    ∃ (f : Filter) (table : List Entry),
      (∀ level, ofConfig ⟨level, some (writeParts parts)⟩ = .ok f) ∧
      f.shown = writeTable table ∧
      (table.map Entry.scope).Nodup ∧
      (∀ e, e ∈ table ↔ lastLevel? parts.reduceOption e.scope = some e.level) ∧
      (∀ others, Rearranges parts.reduceOption others.reduceOption →
        ∀ level, ofConfig ⟨level, some (writeParts others)⟩ = .ok f) ∧
      ∀ level, ofConfig ⟨level, some f.shown⟩ = .ok f := by
  obtain ⟨qs, hqs⟩ := exists_sorted_eq_map parts.reduceOption
  have hdescending : Descending (qs.map Plain.directive) := hqs ▸ descending_sorted_map _
  have hread : ∀ others : List (Option Plain),
      sorted (others.reduceOption.map Plain.directive) = qs.map Plain.directive →
      read (writeParts others) = .ok ⟨qs.map Plain.directive, []⟩ := by
    intro others hsorted
    rw [read_writeParts, ofDirectives_plain, hsorted]
  refine ⟨⟨qs.map Plain.directive, []⟩, qs.map Plain.entry, ofConfig_of_read (hread parts hqs),
    shown_map_directive qs, nodup_scope hdescending, fun e => mem_map_entry_iff hqs,
    fun others hothers => ?_, ?_⟩
  · exact ofConfig_of_read (hread others (hothers.sorted_eq.trans hqs))
  · rw [shown_map_directive]
    exact ofConfig_of_read (read_writeTable hdescending)

example : (ofConfig ⟨"off", some ",T=warn,,info,T"⟩).map shown = .ok "T=trace,info" := rfl

end LinkReport.Filter
