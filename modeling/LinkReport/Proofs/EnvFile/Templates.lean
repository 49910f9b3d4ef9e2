import LinkReport.EnvFile.Bindings

/-!
# Templates

What is written in an environment file, before the environment has a part in it. A value is
a template, in which some names are looked up. The modes of the reading, its faults and the
keys are settled by the text alone, and a look-up only adds to a value.

* `Mode.step_cases` is the one fact about a step of the reading, for all look-ups at once;
* `readLine_eq_map_binding` and `bindLines_eq_map_bindEntries` put the reading of a line and
  of a file together from the reading of templates and the look-ups;
* `map_fst_bindEntries` says that the keys are those of the entries.
-/

namespace LinkReport.EnvFile

/-! ## Templates -/

/-- A piece of a value as it is written: a character that stands for itself, or a name that
stands for what it is looked up as. -/
inductive Piece where
  | char (c : Char)
  | name (n : List Char)
deriving DecidableEq, Repr

/-- The text that a piece makes. -/
def Piece.fill (lookup : List Char → List Char) : Piece → List Char
  | .char c => [c]
  | .name n => lookup n

/-- A value before its names are looked up. -/
abbrev Template := List Piece

namespace Template

/-- The value that a template makes. -/
def fill (lookup : List Char → List Char) (t : Template) : List Char :=
  t.flatMap (Piece.fill lookup)

/-- The names in a template. -/
def names (t : Template) : List (List Char) :=
  t.flatMap fun
    | .char _ => []
    | .name n => [n]

/-- A text in which every character stands for itself. -/
def ofText (text : List Char) : Template :=
  text.map .char

variable {lookup lookup' : List Char → List Char} {t u : Template} {n : List Char}

theorem fill_append : fill lookup (t ++ u) = fill lookup t ++ fill lookup u :=
  List.flatMap_append

theorem fill_cons {piece : Piece} :
    fill lookup (piece :: t) = piece.fill lookup ++ fill lookup t :=
  List.flatMap_cons

theorem names_cons {piece : Piece} : names (piece :: t) = names [piece] ++ names t := by
  rw [names, List.flatMap_cons]
  simp [names]

theorem fill_ofText (text : List Char) : fill lookup (ofText text) = text := by
  rw [fill, ofText, List.flatMap_map]
  exact List.flatMap_singleton' text

theorem fill_map_name (ns : List (List Char)) :
    fill lookup (ns.map .name) = ns.flatMap lookup := by
  rw [fill, List.flatMap_map]
  rfl

theorem mem_names_iff : n ∈ names t ↔ .name n ∈ t := by
  rw [names, List.mem_flatMap]
  constructor
  · rintro ⟨piece, hpiece, hn⟩
    cases piece with
    | char c => cases hn
    | name m => rwa [List.mem_singleton.1 hn]
  · intro h
    exact ⟨.name n, h, List.mem_singleton.2 rfl⟩

/-- The value depends on the names of the template only. -/
theorem fill_congr (h : ∀ n ∈ names t, lookup n = lookup' n) : fill lookup t = fill lookup' t := by
  induction t with
  | nil => rfl
  | cons piece t ih =>
    rw [fill_cons, fill_cons, ih fun n hn => h n (names_cons ▸ List.mem_append_right _ hn)]
    cases piece with
    | char c => rfl
    | name n =>
      rw [Piece.fill, Piece.fill, h n (mem_names_iff.2 List.mem_cons_self)]

/-- What a name stands for is found in the value. -/
theorem infix_fill (h : n ∈ names t) : lookup n <:+: fill lookup t := by
  obtain ⟨before, after, rfl⟩ := List.append_of_mem (mem_names_iff.1 h)
  refine ⟨fill lookup before, fill lookup after, ?_⟩
  rw [fill_append, fill_cons, Piece.fill, List.append_assoc]

end Template

/-! ## Values -/

/-- No name stands for anything. -/
def nothing (_ : List Char) : List Char := []

namespace Mode

/-- The name that a character completes. Its value goes before what the character adds. -/
def completed? : Mode → Char → Option (List Char)
  | .name _ part, c =>
    if Text.isAlphanumeric c then none
    else if c = '\x7b' ∧ part = [] then none
    else some part
  | .braced _ part, c => if c = '\x7d' then some part else none
  | .plain _, _ | .escape _, _ | .single, _ | .ended, _ => none

/-- The name that the end of the text completes. -/
def pending? : Mode → Option (List Char)
  | .name false part => some part
  | _ => none

/-- A character does the same whatever names stand for, but for the value of a name that it
completes. -/
theorem step_cases (mode : Mode) (c : Char) :
    (∀ lookup, mode.step lookup c = .stop) ∨ (∀ lookup, mode.step lookup c = .fault) ∨
      ∃ next kept, ∀ lookup,
        mode.step lookup c = .go next ((mode.completed? c).toList.flatMap lookup ++ kept) := by
  -- outside a name nothing is looked up
  have hfixed (hnone : mode.completed? c = none)
      (hstep : ∀ lookup, mode.step lookup c = mode.step nothing c) :
      (∀ lookup, mode.step lookup c = .stop) ∨ (∀ lookup, mode.step lookup c = .fault) ∨
        ∃ next kept, ∀ lookup,
          mode.step lookup c = .go next ((mode.completed? c).toList.flatMap lookup ++ kept) := by
    cases hc : mode.step nothing c with
    | stop => exact .inl fun lookup => (hstep lookup).trans hc
    | fault => exact .inr (.inl fun lookup => (hstep lookup).trans hc)
    | go next kept =>
      refine .inr (.inr ⟨next, kept, fun lookup => ?_⟩)
      rw [hnone]
      exact (hstep lookup).trans hc
  cases mode with
  | plain quoted => exact hfixed rfl fun _ => rfl
  | escape quoted => exact hfixed rfl fun _ => rfl
  | single => exact hfixed rfl fun _ => rfl
  | ended => exact hfixed rfl fun _ => rfl
  | name quoted part =>
    by_cases hletter : Text.isAlphanumeric c = true
    · refine .inr (.inr ⟨.name quoted (part ++ [c]), [], fun lookup => ?_⟩)
      simp only [step, completed?, if_pos hletter]
      rfl
    by_cases hbrace : c = '\x7b' ∧ part = []
    · refine .inr (.inr ⟨.braced quoted [], [], fun lookup => ?_⟩)
      simp only [step, completed?, if_neg hletter, if_pos hbrace]
      rfl
    have hcompleted : (name quoted part).completed? c = some part := by
      rw [completed?, if_neg hletter, if_neg hbrace]
    by_cases hdollar : c = '$'
    · refine .inr (.inr ⟨.name quoted [], [], fun lookup => ?_⟩)
      rw [step, if_neg hletter, if_neg hbrace, if_pos hdollar, hcompleted]
      simp
    · refine .inr (.inr ⟨.plain quoted, [c], fun lookup => ?_⟩)
      rw [step, if_neg hletter, if_neg hbrace, if_neg hdollar, hcompleted]
      simp
  | braced quoted part =>
    by_cases hclose : c = '\x7d'
    · refine .inr (.inr ⟨.plain quoted, [], fun lookup => ?_⟩)
      rw [step, completed?, if_pos hclose, if_pos hclose]
      simp
    · refine .inr (.inr ⟨.braced quoted (part ++ [c]), [], fun lookup => ?_⟩)
      rw [step, completed?, if_neg hclose, if_neg hclose]
      rfl

theorem finish_cases (mode : Mode) :
    (∃ fault, ∀ lookup, mode.finish lookup = .error fault) ∨
      ∀ lookup, mode.finish lookup = .ok (mode.pending?.toList.flatMap lookup) := by
  cases mode with
  | single => exact .inl ⟨.unclosed, fun _ => rfl⟩
  | braced quoted part => exact .inl ⟨.unclosed, fun _ => rfl⟩
  | ended => exact .inr fun _ => rfl
  | plain quoted | escape quoted =>
    cases quoted with
    | true => exact .inl ⟨.unclosed, fun _ => rfl⟩
    | false => exact .inr fun _ => rfl
  | name quoted part =>
    cases quoted with
    | true => exact .inl ⟨.unclosed, fun _ => rfl⟩
    | false =>
      refine .inr fun lookup => ?_
      rw [finish, pending?, Option.toList_some, List.flatMap_singleton]

/-- The template that a text writes from a mode on, where `index` characters have been
read. -/
def template (mode : Mode) (index : Nat) : List Char → Except ValueFault Template
  | [] => (mode.finish nothing).map fun _ => mode.pending?.toList.map .name
  | c :: cs =>
    match mode.step nothing c with
    | .stop => .ok []
    | .fault => .error (.character index)
    | .go next kept =>
      (next.template (index + 1) cs).map fun t =>
        (mode.completed? c).toList.map .name ++ (Template.ofText kept ++ t)

/-- A value is read by reading its template and looking up the names in it. -/
theorem read_eq_map_fill (lookup : List Char → List Char) (mode : Mode) (index : Nat)
    (cs : List Char) :
    mode.read lookup index cs = (mode.template index cs).map (Template.fill lookup) := by
  induction cs generalizing mode index with
  | nil =>
    rw [read, template]
    rcases mode.finish_cases with ⟨fault, hfinish⟩ | hfinish
    · rw [hfinish, hfinish]
      rfl
    · rw [hfinish, hfinish]
      exact congrArg Except.ok (Template.fill_map_name _).symm
  | cons c cs ih =>
    rw [read, template]
    rcases mode.step_cases c with hstep | hstep | ⟨next, kept, hstep⟩
    · rw [hstep, hstep]
      rfl
    · rw [hstep, hstep]
      rfl
    · rw [hstep, hstep]
      have hnothing : ∀ ns : List (List Char), ns.flatMap nothing = [] := by
        intro ns
        simp [nothing]
      simp only [ih, hnothing, List.nil_append]
      cases next.template (index + 1) cs with
      | error fault => rfl
      | ok t =>
        simp only [Except.map, Template.fill_append, Template.fill_map_name, Template.fill_ofText,
          List.append_assoc]

end Mode

/-- The template that `text` writes. -/
def valueTemplate (text : List Char) : Except Error Template :=
  match (Mode.plain false).template 0 text with
  | .ok t => .ok t
  | .error (.character index) => .error (.unreadable text index)
  | .error .unclosed => .error (.unreadable text (Text.byteLength text - 1))

theorem readValue_eq_map_fill (lookup : List Char → List Char) (text : List Char) :
    readValue lookup text = (valueTemplate text).map (Template.fill lookup) := by
  rw [readValue, Mode.read_eq_map_fill, valueTemplate]
  cases (Mode.plain false).template 0 text with
  | ok t => rfl
  | error fault => cases fault <;> rfl

/-! ## Lines and files -/

/-- An entry before the names in its value are looked up. -/
structure Entry where
  key : List Char
  template : Template

/-- The binding that an entry makes. -/
def Entry.binding (lookup : List Char → List Char) (entry : Entry) : Binding :=
  (entry.key, entry.template.fill lookup)

/-- The entry that a logical line writes, if it writes one. -/
def lineEntry (line : List Char) : Except Error (Option Entry) :=
  let stripped := Text.trimEnd line
  let start := Text.trimStart stripped
  if isVacant start then .ok none
  else match readHead start with
    | .error rest =>
      .error (.unreadable line (Text.byteLength stripped - Text.byteLength rest))
    | .ok (key, rest) =>
      let value := Text.trimStart rest
      if isVacant value then .ok (some ⟨key, []⟩)
      else (valueTemplate value).map fun t => some ⟨key, t⟩

theorem readLine_eq_map_binding (lookup : List Char → List Char) (line : List Char) :
    readLine lookup line = (lineEntry line).map (Option.map (Entry.binding lookup)) := by
  rw [readLine, lineEntry]
  by_cases hline : isVacant (Text.trimStart (Text.trimEnd line)) = true
  · simp only [if_pos hline]
    rfl
  simp only [if_neg hline]
  cases readHead (Text.trimStart (Text.trimEnd line)) with
  | error rest => rfl
  | ok head =>
    by_cases hvalue : isVacant (Text.trimStart head.2) = true
    · simp only [if_pos hvalue]
      rfl
    · simp only [if_neg hvalue, readValue_eq_map_fill]
      cases valueTemplate (Text.trimStart head.2) <;> rfl

/-- Blanks at the end of a line have no part in its entry. -/
theorem lineEntry_congr_trimEnd {line line' : List Char}
    (h : Text.trimEnd line = Text.trimEnd line') (entry : Option Entry) :
    lineEntry line = .ok entry ↔ lineEntry line' = .ok entry := by
  simp only [lineEntry, h]
  split
  · rfl
  · split
    · exact iff_of_false nofun nofun
    · rfl

/-- The entries that the lines write, in order. -/
def lineEntries : List (Except Error (List Char)) → Except Error (List Entry)
  | [] => .ok []
  | .error e :: _ => .error e
  | .ok line :: lines => do
    let entry ← lineEntry line
    let entries ← lineEntries lines
    .ok (entry.toList ++ entries)

/-- The bindings that entries make after earlier ones. -/
def bindEntries (env : Environment) (earlier : List Binding) (entries : List Entry) :
    List Binding :=
  entries.foldl (fun earlier entry => earlier ++ [entry.binding (expand env earlier)]) earlier

/-- A file is read by reading its entries, in which the environment has no part, and looking
up the names in them. -/
theorem bindLines_eq_map_bindEntries (env : Environment) (earlier : List Binding)
    (lines : List (Except Error (List Char))) :
    bindLines env earlier lines = (lineEntries lines).map (bindEntries env earlier) := by
  induction lines generalizing earlier with
  | nil => rfl
  | cons line lines ih =>
    cases line with
    | error e => rfl
    | ok line =>
      rw [bindLines, lineEntries, readLine_eq_map_binding]
      cases lineEntry line with
      | error e => rfl
      | ok entry =>
        cases entry with
        | none =>
          show bindLines env earlier lines = _
          rw [ih]
          cases lineEntries lines <;> rfl
        | some entry =>
          show bindLines env (earlier ++ [entry.binding (expand env earlier)]) lines = _
          rw [ih]
          cases lineEntries lines <;> rfl

/-- The keys of the bindings are those of the entries, whatever their values are. -/
theorem map_fst_bindEntries (env : Environment) (earlier : List Binding) (entries : List Entry) :
    (bindEntries env earlier entries).map Prod.fst
      = earlier.map Prod.fst ++ entries.map Entry.key := by
  induction entries generalizing earlier with
  | nil => simp [bindEntries]
  | cons entry entries ih =>
    rw [bindEntries, List.foldl_cons, ← bindEntries, ih]
    simp [Entry.binding]

end LinkReport.EnvFile
