import LinkReport.Proofs.Filter.Choice
import LinkReport.Proofs.Filter.Table
import LinkReport.Proofs.Text.Ascii
import Mathlib.Data.List.ReduceOption

/-!
# Plain filter texts

The second side of the filter reader: directives that consist of a target, a level or both,
and the text of a list of them, with a comma between one and the next. Such a text is read
as the sorted set of what was written, and the choice of a filter never gets beyond it.

* `Plain.read_text` says what one plain directive is read as;
* `read_writeParts` and `read_write` put a list of them together;
* `ofConfig_write` is the filter for a configuration with such a text.
-/

namespace LinkReport.Filter

/-- A level by its name, in any letter case. -/
structure LevelName where
  level : Level
  text : List Char
  map_toLower_text : text.map Char.toLower = level.name.toList

/-- The name of a target may hold this character. -/
def isTargetChar (c : Char) : Bool :=
  c.isAlphanum || c == '_' || c == ':' || c == '-'

/-- The name of a target. -/
structure TargetName where
  text : List Char
  text_ne_nil : text ≠ []
  isTargetChar_of_mem : ∀ c ∈ text, isTargetChar c = true

/-- A directive without blanks that names neither a span nor a field: a level alone, a target
with a level, or a target alone, which must not be read as a level. -/
inductive Plain where
  | level (l : LevelName)
  | targetLevel (t : TargetName) (l : LevelName)
  | target (t : TargetName) (h : Level.ofText? t.text = none)

namespace Plain

/-- The text of a directive. -/
def text : Plain → List Char
  | level l => l.text
  | targetLevel t l => t.text ++ '=' :: l.text
  | target t _ => t.text

/-- What the target of an event starts with for the directive to speak of it. A level alone
speaks of every event. -/
def scope : Plain → List Char
  | level _ => []
  | targetLevel t _ | target t _ => t.text

/-- The level up to which events pass. A target alone lets all of them pass. -/
def threshold : Plain → Level
  | level l | targetLevel _ l => l.level
  | target _ _ => .trace

/-- What the directive is read as. -/
def directive (p : Plain) : Directive where
  target := if p.scope = [] then none else some (String.ofList p.scope)
  span := none
  field := none
  level := p.threshold

end Plain

/-- The text of a list of directives. -/
def write (ps : List Plain) : String :=
  String.ofList ([','].intercalate (ps.map Plain.text))

/-- The text of a directive or of an empty part. -/
def partText (p : Option Plain) : List Char :=
  (p.map Plain.text).getD []

/-- The text of a list of directives with empty parts among them. -/
def writeParts (ps : List (Option Plain)) : String :=
  String.ofList ([','].intercalate (ps.map partText))

/-! ## Characters -/

theorem isTargetChar_of_isAlpha {c : Char} (h : c.isAlpha = true) : isTargetChar c = true := by
  simp [isTargetChar, Char.isAlphanum, h]

theorem isDirectiveStart_of_isTargetChar {c : Char} (h : isTargetChar c = true) :
    isDirectiveStart c = true := by
  simp only [isTargetChar, Bool.or_eq_true, beq_iff_eq] at h
  rcases h with ((h | rfl) | rfl) | rfl
  · simp [isDirectiveStart, Text.isAlphanumeric_of_isAlphanum h]
  · rfl
  · rfl
  · rfl

theorem isBlank_eq_false_of_isTargetChar {c : Char} (h : isTargetChar c = true) :
    Text.isBlank c = false := by
  simp only [isTargetChar, Bool.or_eq_true, beq_iff_eq] at h
  rcases h with ((h | rfl) | rfl) | rfl
  · exact Text.isBlank_eq_false_of_isAlphanum h
  · decide
  · decide
  · decide

/-! ## Names of levels -/

namespace LevelName
variable (l : LevelName)

theorem isAlpha_of_mem {c : Char} (h : c ∈ l.text) : c.isAlpha = true := by
  have hnames : ∀ level : Level, level.name.toList.all Char.isLower = true := by
    intro level
    cases level <;> decide
  refine Text.isAlpha_of_isLower_toLower (List.all_eq_true.1 (hnames l.level) _ ?_)
  rw [← l.map_toLower_text]
  exact List.mem_map_of_mem h

theorem text_ne_nil : l.text ≠ [] := by
  have hnames : ∀ level : Level, level.name.toList ≠ [] := by
    intro level
    cases level <;> decide
  intro hnil
  apply hnames l.level
  rw [← l.map_toLower_text, hnil, List.map_nil]

/-- A name of letters is no number. -/
theorem natural?_text : Decimal.natural? l.text = none := by
  obtain ⟨c, cs, htext⟩ := List.exists_cons_of_ne_nil l.text_ne_nil
  have hc : c.isAlpha = true := l.isAlpha_of_mem (htext ▸ List.mem_cons_self)
  have hplus : c ≠ '+' := by
    rintro rfl
    cases hc
  rw [htext, Decimal.natural?]
  · rw [Decimal.digits?, if_neg]
    simp [Text.isDigit_eq_false_of_isAlpha hc]
  · intro rest heq
    exact hplus (List.cons.inj heq).1

/-- Each level is found by its name. -/
theorem ofText?_text : Level.ofText? l.text = some l.level := by
  rw [Level.ofText?, l.natural?_text]
  simp only [Decimal.isWord, l.map_toLower_text]
  cases l.level <;> decide

/-- The name of a level could be that of a target. -/
def toTarget : TargetName where
  text := l.text
  text_ne_nil := l.text_ne_nil
  isTargetChar_of_mem _ h := isTargetChar_of_isAlpha (l.isAlpha_of_mem h)

end LevelName

/-! ## Reading a directive -/

namespace TargetName
variable (t : TargetName)

/-- A character that separates the parts of a filter stands in no name. -/
theorem notMem_text {c : Char} (h : isTargetChar c = false) : c ∉ t.text := by
  intro hc
  rw [t.isTargetChar_of_mem c hc] at h
  cases h

theorem isTarget_text : IsTarget t.text := by
  obtain ⟨c, cs, htext⟩ := List.exists_cons_of_ne_nil t.text_ne_nil
  refine ⟨⟨c, by rw [htext]; rfl, ?_⟩, t.notMem_text (by decide), t.notMem_text (by decide)⟩
  exact isDirectiveStart_of_isTargetChar (t.isTargetChar_of_mem c (htext ▸ List.mem_cons_self))

theorem isBlank_eq_false {c : Char} (h : c ∈ t.text) : Text.isBlank c = false :=
  isBlank_eq_false_of_isTargetChar (t.isTargetChar_of_mem c h)

/-- A name alone is a level if it can be read as one, and a target otherwise. -/
theorem read_text : Directive.read t.text = .ok (match Level.ofText? t.text with
    | some level => ⟨none, none, none, level⟩
    | none => ⟨some (String.ofList t.text), none, none, .trace⟩) := by
  have hcut : cutFrom t.text 0 = .ok t.text := by rw [cutFrom, Text.dropBytes?]
  have hscan : Part.start.readFrom t.text .blank 0 (t.text ++ [])
      = (Part.levelOrTarget 0).finish t.text .blank :=
    Part.readFrom_start_target t.isTarget_text
  rw [List.append_nil] at hscan
  rw [read_eq_readFrom, Text.trim_eq_self fun _ => t.isBlank_eq_false, hscan, Part.finish, hcut]
  cases h : Level.ofText? t.text <;> simp [bind, Except.bind, Directive.blank, h]

/-- A name and a level. -/
theorem read_text_equals (l : LevelName) : Directive.read (t.text ++ '=' :: l.text)
    = .ok ⟨some (String.ofList t.text), none, none, l.level⟩ := by
  have hblank : ∀ c ∈ t.text ++ '=' :: l.text, Text.isBlank c = false := by
    intro c hc
    rcases List.mem_append.1 hc with hc | hc
    · exact t.isBlank_eq_false hc
    · rcases List.mem_cons.1 hc with rfl | hc
      · decide
      · exact l.toTarget.isBlank_eq_false hc
  have htarget : cut (t.text ++ '=' :: l.text) 0 (Text.byteLength t.text) = .ok t.text := by
    have hslice := (Text.slice?_eq_some_iff (Nat.zero_le (Text.byteLength t.text))).2
      ⟨[], '=' :: l.text, rfl, rfl, rfl⟩
    rw [List.nil_append] at hslice
    rw [cut, hslice]
  have hlevel : cutFrom (t.text ++ '=' :: l.text) (Text.byteLength t.text + 1) = .ok l.text := by
    have hequals : '='.utf8Size = 1 := rfl
    have hdrop : Text.dropBytes? (Text.byteLength t.text + 1) (t.text ++ '=' :: l.text)
        = some l.text :=
      Text.dropBytes?_eq_some_iff.2 ⟨t.text ++ ['='], by simp, by simp [hequals]⟩
    rw [cutFrom, hdrop]
  have hstep : (Part.levelOrTarget 0).step (t.text ++ '=' :: l.text) .blank
      (Text.byteLength t.text) '=' = .ok ({ Directive.blank with
        target := some (String.ofList t.text) }, .level (Text.byteLength t.text + 1)) := by
    rw [Part.step, if_pos rfl, htarget]
    rfl
  rw [read_eq_readFrom, Text.trim_eq_self hblank, Part.readFrom_start_target t.isTarget_text,
    Part.readFrom_cons_ok hstep, Part.readFrom_eq_finish fun _ _ _ => rfl, Part.finish, hlevel]
  simp [bind, Except.bind, Directive.blank, l.text_ne_nil, l.ofText?_text]

end TargetName

namespace Plain
variable (p : Plain)

/-- A plain directive is read as what it says. -/
theorem read_text : Directive.read p.text = .ok p.directive := by
  cases p with
  | level l =>
    have hread := l.toTarget.read_text
    rw [show l.toTarget.text = l.text from rfl, l.ofText?_text] at hread
    exact hread
  | targetLevel t l =>
    rw [text, t.read_text_equals l, directive, scope, if_neg t.text_ne_nil]
    rfl
  | target t h =>
    rw [text, t.read_text, h, directive, scope, if_neg t.text_ne_nil]
    rfl

theorem text_ne_nil : p.text ≠ [] := by
  cases p with
  | level l => exact l.text_ne_nil
  | targetLevel t l => simp [text]
  | target t h => exact t.text_ne_nil

theorem comma_notMem_text : ',' ∉ p.text := by
  have hcomma : isTargetChar ',' = false := by decide
  cases p with
  | level l => exact l.toTarget.notMem_text hcomma
  | targetLevel t l =>
    have hlevel : ',' ∉ l.text := l.toTarget.notMem_text hcomma
    simp [text, t.notMem_text hcomma, hlevel]
  | target t h => exact t.notMem_text hcomma

theorem directive_isPlain : p.directive.IsPlain :=
  ⟨rfl, rfl⟩

theorem directive_isDynamic : p.directive.isDynamic = false :=
  rfl

end Plain

/-! ## Reading a list of directives -/

theorem write_singleton (p : Plain) : write [p] = String.ofList p.text := by
  rw [write, List.map_singleton, List.intercalate_singleton]

theorem write_eq_writeParts (ps : List Plain) : write ps = writeParts (ps.map some) := by
  rw [write, writeParts, List.map_map]
  rfl

theorem comma_notMem_partText (p : Option Plain) : ',' ∉ partText p := by
  cases p with
  | none => exact List.not_mem_nil
  | some p => exact p.comma_notMem_text

theorem filter_partText (ps : List (Option Plain)) :
    (ps.map partText).filter (· ≠ []) = ps.reduceOption.map Plain.text := by
  induction ps with
  | nil => rfl
  | cons p ps ih =>
    cases p with
    | none => exact ih
    | some p =>
      have hne : decide (partText (some p) ≠ []) = true := decide_eq_true p.text_ne_nil
      rw [List.map_cons, List.filter_cons, if_pos hne, ih]
      rfl

/-- Empty parts are left out. -/
theorem parts_writeParts (ps : List (Option Plain)) :
    parts (writeParts ps).toList = ps.reduceOption.map Plain.text := by
  rw [writeParts, String.toList_ofList, parts]
  cases ps with
  | nil => rfl
  | cons p ps =>
    rw [List.splitOn_intercalate, filter_partText]
    · intro text htext
      obtain ⟨q, -, rfl⟩ := List.mem_map.1 htext
      exact comma_notMem_partText q
    · simp

/-- The text of plain directives is read as all of them. -/
theorem read_writeParts (ps : List (Option Plain)) :
    read (writeParts ps) = .ok (ofDirectives (ps.reduceOption.map Plain.directive)) := by
  have hmap (ps : List Plain) :
      (ps.map Plain.text).mapM Directive.read = .ok (ps.map Plain.directive) := by
    induction ps with
    | nil => rfl
    | cons p ps ih =>
      rw [List.map_cons, List.mapM_cons, p.read_text, ih]
      rfl
  rw [read, parts_writeParts, hmap]
  rfl

/-- The text of a list of plain directives is read as all of them. -/
theorem read_write (ps : List Plain) :
    read (write ps) = .ok (ofDirectives (ps.map Plain.directive)) := by
  have hall : (ps.map some).reduceOption = ps := by simp [List.reduceOption]
  rw [write_eq_writeParts, read_writeParts, hall]

/-- Directives without spans and fields all decide about events. -/
theorem ofDirectives_of_isPlain {ds : List Directive} (h : ∀ d ∈ ds, d.IsPlain) :
    ofDirectives ds = ⟨sorted ds, []⟩ := by
  have hstatic : ds.filter Directive.isStatic = ds := by
    refine List.filter_eq_self.2 fun d hd => ?_
    obtain ⟨hspan, hfield⟩ := h d hd
    simp [Directive.isStatic, hspan, hfield]
  have hdynamic : ds.filter Directive.isDynamic = [] := by
    refine List.filter_eq_nil_iff.2 fun d hd => ?_
    obtain ⟨hspan, hfield⟩ := h d hd
    simp [Directive.isDynamic, hspan, hfield]
  rw [ofDirectives, hstatic, hdynamic]
  rfl

theorem isPlain_of_mem_map {ps : List Plain} {d : Directive} (h : d ∈ ps.map Plain.directive) :
    d.IsPlain := by
  obtain ⟨p, -, rfl⟩ := List.mem_map.1 h
  exact p.directive_isPlain

theorem descending_sorted_map (ps : List Plain) : Descending (sorted (ps.map Plain.directive)) :=
  descending_sorted fun _ => isPlain_of_mem_map

/-- All of them decide about events, and none speaks of spans. -/
theorem ofDirectives_plain (ps : List Plain) :
    ofDirectives (ps.map Plain.directive) = ⟨sorted (ps.map Plain.directive), []⟩ :=
  ofDirectives_of_isPlain fun _ => isPlain_of_mem_map

/-- A text that can be read decides about the filter, whatever the level. -/
theorem ofConfig_of_read {text : String} {f : Filter} (h : read text = .ok f) (level : String) :
    ofConfig ⟨level, some text⟩ = .ok f := by
  have hread : read? text = .ok (some f) := by rw [read?, h]
  rw [ofConfig_of_text rfl, hread]
  rfl

/-- The filter for a configuration with such a text, whatever its level. -/
theorem ofConfig_write (level : String) (ps : List Plain) :
    ofConfig ⟨level, some (write ps)⟩ = .ok (ofDirectives (ps.map Plain.directive)) :=
  ofConfig_of_read (read_write ps) level

end LinkReport.Filter
