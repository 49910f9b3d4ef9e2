import LinkReport.Proofs.Filter.Canonical
import LinkReport.Proofs.Text.Trimming

/-!
# Filters from the text of a level

Where there is no usable filter text the text of the level is read in its place, and it is read
as a filter text too: as a list of directives, which may name targets, spans and fields. A part
of it is a directive of a level alone exactly if it writes a level. So the default takes over
where the text is malformed as a filter, and nowhere else, and a word that is no level is a
target.

* `Directive.read_eq_ofLevel_iff` the parts that are read as a level alone
* `Filter.read_eq_ofLevel_iff` the texts that are read as a level alone
* `ofConfig_shown_warn_iff` where the default takes over, and what comes of a word otherwise
-/

namespace LinkReport

/-! ## Texts of levels -/

namespace Level
open LinkReport.Filter (LevelName TargetName isTargetChar)

/-- The text writes the level: by its name in any letter case, or by its verbosity in digits. -/
def IsWritten (l : Level) (cs : List Char) : Prop :=
  Decimal.isWord l.name cs = true ∨ Decimal.digits? cs = some l.verbosity

instance (l : Level) (cs : List Char) : Decidable (l.IsWritten cs) :=
  inferInstanceAs (Decidable (_ ∨ _))

variable {l : Level} {cs : List Char} {n : Nat}

theorem name_injective {k : Level} (h : k.name = l.name) : k = l := by
  cases k <;> cases l <;> first | rfl | exact absurd h (by decide)

theorem isDigit_of_digits? (h : Decimal.digits? cs = some n) :
    cs ≠ [] ∧ ∀ c ∈ cs, c.isDigit = true := by
  rw [Decimal.digits?] at h
  split at h
  · next hdigits => exact ⟨hdigits.1, List.all_eq_true.1 hdigits.2⟩
  · cases h

/-- A whole number is written in digits, perhaps after a plus sign. -/
theorem natural?_eq_some_iff :
    Decimal.natural? cs = some n ↔
      Decimal.digits? cs = some n ∨ ∃ ds, cs = '+' :: ds ∧ Decimal.digits? ds = some n := by
  by_cases hplus : ∃ ds, cs = '+' :: ds
  · obtain ⟨ds, rfl⟩ := hplus
    have hnone : Decimal.digits? ('+' :: ds) = none := if_neg fun h => by simp at h
    rw [Decimal.natural?, hnone]
    simp
  · have hdigits : Decimal.natural? cs = Decimal.digits? cs := by
      rw [Decimal.natural?]
      exact fun ds h => hplus ⟨ds, h⟩
    rw [hdigits]
    refine ⟨.inl, fun h => h.resolve_right ?_⟩
    rintro ⟨ds, hcs, -⟩
    exact hplus ⟨ds, hcs⟩

theorem ofText?_eq_some_iff :
    ofText? cs = some l ↔
      Decimal.natural? cs = some l.verbosity ∨ Decimal.isWord l.name cs = true := by
  constructor
  · intro h
    rw [ofText?] at h
    cases hnumber : Decimal.natural? cs with
    | some n =>
      rw [hnumber] at h
      have hfound := List.find?_some (p := fun k : Level => k.verbosity == n) h
      exact .inl (congrArg some (beq_iff_eq.1 hfound).symm)
    | none =>
      rw [hnumber] at h
      exact .inr (List.find?_some (p := fun k : Level => Decimal.isWord k.name cs) h)
  · rintro (hnumber | hword)
    · rw [ofText?, hnumber]
      cases l <;> rfl
    · exact (LevelName.mk l cs (beq_iff_eq.1 hword)).ofText?_text

namespace IsWritten

theorem ofText?_eq (h : l.IsWritten cs) : ofText? cs = some l :=
  ofText?_eq_some_iff.2 (h.symm.imp_left fun hdigits => natural?_eq_some_iff.2 (.inl hdigits))

/-- The text of a level could be the name of a target. -/
def toTarget (h : l.IsWritten cs) : TargetName where
  text := cs
  text_ne_nil := by
    rcases h with hword | hdigits
    · exact (LevelName.mk l cs (beq_iff_eq.1 hword)).text_ne_nil
    · exact (isDigit_of_digits? hdigits).1
  isTargetChar_of_mem c hc := by
    rcases h with hword | hdigits
    · exact (LevelName.mk l cs (beq_iff_eq.1 hword)).toTarget.isTargetChar_of_mem c hc
    · have hdigit : c.isDigit = true := (isDigit_of_digits? hdigits).2 c hc
      simp [isTargetChar, Char.isAlphanum, hdigit]

end IsWritten
end Level

namespace Filter
variable {l : Level} {d d' : Directive}

/-! ## Directives of a level alone -/

namespace Directive

/-- The directive of a level alone. -/
def ofLevel (l : Level) : Directive :=
  ⟨none, none, none, l⟩

/-- The directive names no target, no span and no field. -/
def IsBare (d : Directive) : Prop :=
  d.target = none ∧ d.IsPlain

theorem isBare_ofLevel : (ofLevel l).IsBare :=
  ⟨rfl, rfl, rfl⟩

theorem IsBare.eq_ofLevel (h : d.IsBare) : d = ofLevel d.level := by
  obtain ⟨target, span, field, level⟩ := d
  obtain ⟨rfl, rfl, rfl⟩ := h
  rfl

theorem read_of_isWritten {part : List Char} (h : l.IsWritten part) :
    read part = .ok (ofLevel l) := by
  have hread := h.toTarget.read_text
  rw [show h.toTarget.text = part from rfl, h.ofText?_eq] at hread
  exact hread

end Directive

/-! ## The scan of a directive -/

namespace Part
variable {source cs : List Char} {c : Char} {part next : Part} {offset : Nat}

/-- What is known in a state of the scan: a target starts where the text does, and behind a
target, a span or a field the directive is not of a level alone. -/
def Scanned (d : Directive) (offset : Nat) : Part → Prop
  | .start => offset = 0
  | .levelOrTarget first => first = 0
  | .span _ | .field _ => True
  | .afterField | .afterSpan | .level _ => ¬d.IsBare

theorem scanned_step (h : part.Scanned d offset)
    (hstep : part.step source d offset c = .ok (d', next)) :
    next.Scanned d' (offset + c.utf8Size) := by
  cases part with
  | start =>
    rw [step] at hstep
    split at hstep
    · cases hstep
      trivial
    · split at hstep
      · cases hstep
        exact h
      · cases hstep
  | levelOrTarget first =>
    rw [step] at hstep
    split at hstep
    · obtain ⟨target, -, hnext⟩ := of_bind_eq_ok hstep
      cases hnext
      exact fun hbare => Option.some_ne_none _ hbare.1
    · split at hstep
      · obtain ⟨target, -, hnext⟩ := of_bind_eq_ok hstep
        cases hnext
        trivial
      · cases hstep
        exact h
  | span first =>
    rw [step] at hstep
    split at hstep
    · obtain ⟨span, -, hnext⟩ := of_bind_eq_ok hstep
      cases hnext
      exact fun hbare => Option.some_ne_none _ hbare.2.1
    · split at hstep
      · obtain ⟨span, -, hnext⟩ := of_bind_eq_ok hstep
        cases hnext
        trivial
      · cases hstep
        trivial
  | field first =>
    rw [step] at hstep
    split at hstep
    · obtain ⟨text, -, hfield⟩ := of_bind_eq_ok hstep
      obtain ⟨field, -, hnext⟩ := of_bind_eq_ok hfield
      cases hnext
      exact fun hbare => Option.some_ne_none _ hbare.2.2
    · cases hstep
      trivial
  | afterField | afterSpan =>
    rw [step] at hstep
    split at hstep
    · cases hstep
      exact h
    · cases hstep
  | level first =>
    cases hstep
    exact h

theorem scanned_run (h : part.Scanned d offset)
    (hrun : part.run source d offset cs = .ok (d', next)) : ∃ n, next.Scanned d' n := by
  induction cs generalizing d part offset with
  | nil =>
    cases hrun
    exact ⟨offset, h⟩
  | cons c cs ih =>
    obtain ⟨⟨d₁, part₁⟩, hstep, hrest⟩ := of_bind_eq_ok hrun
    exact ih (scanned_step h hstep) hrest

/-- Where a directive of a level alone comes out, the whole text is that of the level. -/
theorem ofText?_of_finish (h : part.Scanned d offset) (hfinish : part.finish source d = .ok d')
    (hbare : d'.IsBare) : Level.ofText? source = some d'.level := by
  cases part with
  | levelOrTarget first =>
    obtain rfl : first = 0 := h
    obtain ⟨text, hcut, htext⟩ := of_bind_eq_ok hfinish
    rw [cutFrom, Text.dropBytes?] at hcut
    obtain rfl : source = text := Except.ok.inj hcut
    cases hlevel : Level.ofText? source with
    | some l =>
      rw [hlevel] at htext
      cases htext
      rfl
    | none =>
      rw [hlevel] at htext
      cases htext
      exact absurd hbare.1 (Option.some_ne_none _)
  | level first =>
    obtain ⟨text, -, htext⟩ := of_bind_eq_ok hfinish
    -- only the level is set here
    split at htext
    · cases htext
      exact absurd hbare h
    · split at htext
      · cases htext
        exact absurd hbare h
      · cases htext
  | afterSpan =>
    cases hfinish
    exact absurd hbare h
  | start | span first | field first | afterField => cases hfinish

end Part

/-- A part is read as a level alone exactly if it writes the level. -/
theorem Directive.read_eq_ofLevel_iff {part : List Char} :
    read part = .ok (ofLevel l) ↔ l.IsWritten part := by
  refine ⟨fun h => ?_, read_of_isWritten⟩
  obtain ⟨⟨d, state⟩, hrun, hfinish⟩ := of_bind_eq_ok h
  obtain ⟨n, hscanned⟩ := Part.scanned_run (show Part.start.Scanned .blank 0 from rfl) hrun
  have htext : Level.ofText? part = some l :=
    Part.ofText?_of_finish hscanned hfinish isBare_ofLevel
  rcases Level.ofText?_eq_some_iff.1 htext with hnumber | hword
  · rcases Level.natural?_eq_some_iff.1 hnumber with hdigits | ⟨ds, rfl, hdigits⟩
    · exact .inr hdigits
    · -- the number may have a plus sign, but no directive starts with one
      have hblank : ∀ c ∈ '+' :: ds, Text.isBlank c = false := by
        intro c hc
        rcases List.mem_cons.1 hc with rfl | hc
        · decide
        · have hdigit := (Level.isDigit_of_digits? hdigits).2 c hc
          exact Text.isBlank_eq_false_of_isAlphanum (by simp [Char.isAlphanum, hdigit])
      have hstep : Part.start.step ('+' :: ds) .blank 0 '+' = .error .malformed := by
        rw [Part.step, if_neg (by decide), if_neg (by decide +kernel)]
      rw [read_eq_readFrom, Text.trim_eq_self hblank, Part.readFrom_cons_error hstep] at h
      cases h
  · exact .inl hword

/-! ## What is shown as a level alone -/

theorem Directive.shown_eq_name_iff : d.shown = l.name ↔ d = ofLevel l := by
  have hequals : '=' ∉ l.name.toList := by cases l <;> decide
  constructor
  · intro h
    by_cases hscoped : (d.target.isSome || d.isDynamic) = true
    · -- an equals sign stands behind the scope
      rw [← h, Directive.shown, if_pos hscoped] at hequals
      simp at hequals
    · obtain ⟨target, span, field, level⟩ := d
      simp only [Directive.isDynamic, Bool.or_eq_true, not_or, Option.not_isSome_iff_eq_none]
        at hscoped
      obtain ⟨rfl, rfl, rfl⟩ := hscoped
      have hname : level.name = l.name := by simpa [Directive.shown, Directive.isDynamic] using h
      rw [Level.name_injective hname, ofLevel]
  · rintro rfl
    simp [Directive.shown, Directive.isDynamic, ofLevel]

theorem shown_eq_name_iff {f : Filter} :
    f.shown = l.name ↔ f.static ++ f.dynamic = [.ofLevel l] := by
  have hcomma : ',' ∉ l.name.toList := by cases l <;> decide
  have hne : l.name ≠ "" := by cases l <;> decide
  rw [shown]
  cases f.static ++ f.dynamic with
  | nil => simpa using hne.symm
  | cons d ds =>
    cases ds with
    | nil => simpa using Directive.shown_eq_name_iff
    | cons e es =>
      -- a comma stands between two directives
      refine iff_of_false (fun h => hcomma ?_) (by simp)
      rw [← h, String.toList_intercalate]
      exact Text.mem_intercalate_iff.2 (.inr ⟨by decide, by simp⟩)

/-- The filter of a level alone. -/
def ofLevel (l : Level) : Filter :=
  ⟨[.ofLevel l], []⟩

theorem default_eq_ofLevel : default = ofLevel .warn := rfl

/-- The directives make the filter of a level exactly if they are of levels alone and the last
of them is of that level. -/
theorem ofDirectives_eq_ofLevel_iff {ds : List Directive} :
    ofDirectives ds = ofLevel l ↔ (∀ d ∈ ds, d.IsBare) ∧ ds.getLast? = some (.ofLevel l) := by
  constructor
  · intro h
    have hdynamic : ds.filter Directive.isDynamic = [] :=
      sorted_eq_nil_iff.1 (congrArg Filter.dynamic h)
    have hplain : ∀ d ∈ ds, d.IsPlain := by
      intro d hd
      simpa [Directive.isDynamic, Directive.IsPlain] using List.filter_eq_nil_iff.1 hdynamic d hd
    have hsorted : sorted ds = [.ofLevel l] := by
      rw [ofDirectives_of_isPlain hplain] at h
      exact congrArg Filter.static h
    have hbare : ∀ d ∈ ds, d.IsBare := by
      intro d hd
      obtain ⟨e, he, htarget⟩ := exists_mem_sorted hplain hd
      rw [hsorted, List.mem_singleton] at he
      rw [he] at htarget
      exact ⟨htarget.symm, hplain d hd⟩
    refine ⟨hbare, ?_⟩
    have hmem : Directive.ofLevel l ∈ sorted ds := by rw [hsorted, List.mem_singleton]
    obtain ⟨before, after, rfl, hafter⟩ := (mem_sorted_iff hplain).1 hmem
    cases after with
    | nil => simp
    | cons d after => exact absurd (hbare d (by simp)).1 (hafter d List.mem_cons_self)
  · rintro ⟨hbare, hlast⟩
    have hplain : ∀ d ∈ ds, d.IsPlain := fun d hd => (hbare d hd).2
    obtain ⟨before, rfl⟩ := List.getLast?_eq_some_iff.1 hlast
    rw [ofDirectives_of_isPlain hplain, ofLevel, Filter.mk.injEq]
    refine ⟨(descending_sorted hplain).eq_of_mem_iff (List.pairwise_singleton _ _) fun d => ?_, rfl⟩
    have hbefore : ∀ e ∈ before, e.IsPlain := fun e he => hplain e (List.mem_append_left _ he)
    rw [mem_sorted_append_singleton_iff hbefore (hplain _ (by simp)), List.mem_singleton]
    -- the last directive takes the place of all others, which have no target either
    refine ⟨fun h => h.resolve_right ?_, .inl⟩
    rintro ⟨hd, htarget⟩
    exact htarget (hbare d (List.mem_append_left _ (mem_of_mem_sorted hd))).1

/-- No other filter is shown as the level. -/
theorem shown_ofDirectives_iff {ds : List Directive} :
    (ofDirectives ds).shown = l.name ↔ ofDirectives ds = ofLevel l := by
  rw [shown_eq_name_iff]
  constructor
  · intro h
    rcases List.append_eq_singleton_iff.1 h with ⟨-, hdynamic⟩ | ⟨hstatic, hdynamic⟩
    · -- a level alone speaks of no span
      have hmem : Directive.ofLevel l ∈ (ofDirectives ds).dynamic := by
        rw [hdynamic, List.mem_singleton]
      cases (List.mem_filter.1 (mem_of_mem_sorted hmem)).2
    · rw [ofLevel, ← hstatic, ← hdynamic]
  · intro h
    rw [h]
    rfl

/-! ## Where the default takes over -/

/-- The parts of the text write levels, and the last of them writes this level. -/
def ListsLevels (text : String) (last : Level) : Prop :=
  (∀ part ∈ parts text.toList, ∃ l : Level, l.IsWritten part) ∧
    ∃ part ∈ (parts text.toList).getLast?, last.IsWritten part

theorem read_eq_ok_iff {text : String} {f : Filter} :
    read text = .ok f ↔
      ∃ ds, (parts text.toList).map Directive.read = ds.map .ok ∧ ofDirectives ds = f := by
  simp only [← mapM_eq_ok_iff]
  rw [read]
  cases (parts text.toList).mapM Directive.read <;> simp [Except.map]

/-- A text is read as the filter of a level exactly if it lists levels and that level is the
last. -/
theorem read_eq_ofLevel_iff {text : String} :
    read text = .ok (ofLevel l) ↔ ListsLevels text l := by
  rw [read_eq_ok_iff]
  constructor
  · rintro ⟨ds, hmap, hds⟩
    obtain ⟨hbare, hlast⟩ := ofDirectives_eq_ofLevel_iff.1 hds
    constructor
    · intro part hpart
      have hmem : Directive.read part ∈ ds.map .ok := hmap ▸ List.mem_map_of_mem hpart
      obtain ⟨d, hd, heq⟩ := List.mem_map.1 hmem
      rw [(hbare d hd).eq_ofLevel] at heq
      exact ⟨d.level, Directive.read_eq_ofLevel_iff.1 heq.symm⟩
    · have hends := congrArg List.getLast? hmap
      rw [List.getLast?_map, List.getLast?_map, hlast, Option.map_some,
        Option.map_eq_some_iff] at hends
      obtain ⟨part, hpart, heq⟩ := hends
      exact ⟨part, hpart, Directive.read_eq_ofLevel_iff.1 heq⟩
  · rintro ⟨hall, part, hpart, hlast⟩
    let levels := (parts text.toList).map fun part => (Level.ofText? part).getD .off
    refine ⟨levels.map .ofLevel, ?_, ofDirectives_eq_ofLevel_iff.2 ⟨fun d hd => ?_, ?_⟩⟩
    · rw [List.map_map, List.map_map]
      refine List.map_congr_left fun part hpart => ?_
      obtain ⟨k, hk⟩ := hall part hpart
      rw [Directive.read_of_isWritten hk]
      simp [hk.ofText?_eq]
    · obtain ⟨k, -, rfl⟩ := List.mem_map.1 hd
      exact Directive.isBare_ofLevel
    · rw [List.getLast?_map, List.getLast?_map, Option.mem_def.1 hpart]
      simp [hlast.ofText?_eq]

/-- The text of a level leads to the default: it is malformed as a filter, or it says what the
default says. -/
def FallsBack (text : String) : Prop :=
  read text = .error .malformed ∨ ListsLevels text .warn

variable {c : Config}

/-- The level decides, and is shown as the default is, exactly where the default takes over. -/
theorem ofConfig_eq_default_iff
    (hunusable : ∀ text, c.logFilter = some text → read text = .error .malformed) :
    ofConfig c = .ok default ↔ FallsBack c.logLevel := by
  rw [ofConfig_of_unusable hunusable, FallsBack, ← read_eq_ofLevel_iff, ← default_eq_ofLevel, read?]
  cases read c.logLevel with
  | ok f => simp [bind, Except.bind]
  | error fault => cases fault <;> simp [bind, Except.bind]

theorem shown_ofConfig_iff {f : Filter} (h : ofConfig c = .ok f) :
    f.shown = "warn" ↔ f = default := by
  have hds : ∃ ds, f = ofDirectives ds := by
    rcases isFor_of_ofConfig h with ⟨-, hread⟩ | ⟨-, hread⟩ | ⟨-, -⟩
    · obtain ⟨ds, -, rfl⟩ := read_eq_ok_iff.1 hread
      exact ⟨ds, rfl⟩
    · obtain ⟨ds, -, rfl⟩ := read_eq_ok_iff.1 hread
      exact ⟨ds, rfl⟩
    · exact ⟨_, rfl⟩
  obtain ⟨ds, rfl⟩ := hds
  exact shown_ofDirectives_iff (l := .warn)

/-- A word that writes no level is the name of a target. -/
theorem TargetName.ofText?_eq_none (t : TargetName) (h : ∀ l : Level, ¬l.IsWritten t.text) :
    Level.ofText? t.text = none := by
  refine Option.eq_none_iff_forall_ne_some.2 fun l hl => ?_
  rcases Level.ofText?_eq_some_iff.1 hl with hnumber | hword
  · rcases Level.natural?_eq_some_iff.1 hnumber with hdigits | ⟨ds, htext, -⟩
    · exact h l (.inr hdigits)
    · exact t.notMem_text (by decide) (htext ▸ List.mem_cons_self)
  · exact h l (.inl hword)

/-- Where there is no usable filter text, the filter is shown as `warn` exactly if the text of
the level is malformed as a filter or lists levels of which the last is `warn`; it is the default
then, and lets the warning about the environment file pass. A word that is no level is neither:
it is a target, of which everything passes, and the warning passes only if the program's own
target starts with the word. -/
theorem ofConfig_shown_warn_iff
    (hunusable : ∀ text, c.logFilter = some text → read text = .error .malformed) :
    ((∃ f, ofConfig c = .ok f ∧ f.shown = "warn") ↔ FallsBack c.logLevel) ∧
    (FallsBack c.logLevel →
      ofConfig c = .ok default ∧ ∀ e, default.admits (.loadFailed e) = true) ∧
    ∀ t : TargetName, c.logLevel = String.ofList t.text →
      (∀ l : Level, ¬l.IsWritten t.text) →
      ∃ f, ofConfig c = .ok f ∧ f.shown = String.ofList (t.text ++ "=trace".toList) ∧
        ∀ e, f.admits (.loadFailed e) = true ↔ t.text <+: "cpp_example".toList := by
  have hdefault := ofConfig_eq_default_iff hunusable
  refine ⟨⟨?_, fun h => ⟨default, hdefault.2 h, rfl⟩⟩, fun h => ⟨hdefault.2 h, fun e => rfl⟩, ?_⟩
  · rintro ⟨f, hfilter, hshown⟩
    rw [(shown_ofConfig_iff hfilter).1 hshown] at hfilter
    exact hdefault.1 hfilter
  · intro t htext hnone
    let p : Plain := .target t (t.ofText?_eq_none hnone)
    refine ⟨ofDirectives ([p].map Plain.directive), ?_, ?_, fun e => ?_⟩
    · rw [ofConfig_of_unusable hunusable, htext, show t.text = p.text from rfl, ← write_singleton,
        read?, read_write]
      rfl
    · have hlevel : "=trace".toList = '=' :: Level.trace.name.toList := by decide
      have hentry : p.entry.text = t.text ++ "=trace".toList := by
        rw [hlevel, Entry.text]
        exact if_neg t.text_ne_nil
      rw [ofDirectives_plain, ← hentry]
      exact (shown_map_directive [p]).trans (by simp [writeTable])
    · rw [admits_iff_passes, passes_singleton_iff]
      exact and_iff_left (show Level.warn.verbosity ≤ Level.trace.verbosity by decide)

/-- The word `verbose` is a target, and nothing is told of an environment file that could not be
read. -/
theorem ofConfig_verbose :
    ¬FallsBack "verbose" ∧
      ∃ f, ofConfig ⟨"verbose", some "cpp_example=nope"⟩ = .ok f ∧ f.shown = "verbose=trace" ∧
        ∀ e, f.admits (.loadFailed e) = false := by
  have hunusable : ∀ text, some "cpp_example=nope" = some text → read text = .error .malformed := by
    rintro text ⟨⟩
    rfl
  obtain ⟨hiff, -, hword⟩ :=
    ofConfig_shown_warn_iff (c := ⟨"verbose", some "cpp_example=nope"⟩) hunusable
  obtain ⟨f, hfilter, hshown, hadmits⟩ :=
    hword ⟨"verbose".toList, by decide, List.all_eq_true.1 (by decide)⟩ rfl
      (by intro l; cases l <;> decide)
  refine ⟨fun hback => ?_, f, hfilter, hshown, fun e => ?_⟩
  · obtain ⟨g, hg, hwarn⟩ := hiff.2 hback
    obtain rfl : f = g := Except.ok.inj (hfilter.symm.trans hg)
    exact absurd (hshown.symm.trans hwarn) (by decide)
  · rw [Bool.eq_false_iff, Ne, hadmits]
    decide

/-- The default does not take over for every text that writes no level. -/
theorem not_forall_ofConfig_shown_warn :
    ¬∀ c : Config, (∀ text, c.logFilter = some text → read text = .error .malformed) →
      Text.IsTrimmed c.logLevel.toList → (∀ l : Level, ¬l.IsWritten c.logLevel.toList) →
      ∃ f, ofConfig c = .ok f ∧ f.shown = "warn" := by
  intro h
  have htrimmed : Text.IsTrimmed "verbose".toList :=
    Text.isTrimmed_of_not_blank (by decide) fun _ hc =>
      Text.isBlank_eq_false_of_isAlphanum (List.all_eq_true.1 (by decide) _ hc)
  obtain ⟨f, hfilter, hwarn⟩ := h ⟨"verbose", none⟩ (fun text htext => by cases htext) htrimmed
    (by intro l; cases l <;> decide)
  have hshown : (ofConfig ⟨"verbose", none⟩).map shown = .ok "verbose=trace" := rfl
  rw [hfilter] at hshown
  exact absurd ((Except.ok.inj hshown).symm.trans hwarn) (by decide)

end Filter
end LinkReport
