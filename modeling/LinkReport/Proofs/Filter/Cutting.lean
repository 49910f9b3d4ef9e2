import LinkReport.Filter.Basic
import LinkReport.Proofs.Text.Boundaries

/-!
# Where the reading of a directive breaks off

The scan of a directive notes byte offsets in the trimmed text, and the parts are cut from
the untrimmed one. Where a blank stands before the directive the two texts differ, and an
offset may lie inside a character of the untrimmed text. `Directive.BreaksOff` says for
which texts that happens, in terms of the shape `target[span{field}]=level`.

* `cut_cases` is the one fact about a cut that everything rests on;
* the lemmas on `Part.readFrom` follow the scan over one part each;
* `Directive.read_eq_insideCharacter_iff` puts the parts together.
-/

namespace LinkReport.Filter

open Text (IsBoundary byteLength)

variable {source : List Char} {d : Directive}

/-! ## Cutting -/

/-- A cut gives a part exactly between two boundaries, and breaks off elsewhere. -/
theorem cut_cases (source : List Char) {first stop : Nat} (hle : first ≤ stop) :
    (cut source first stop = .error .insideCharacter ∧
        ¬(IsBoundary source first ∧ IsBoundary source stop)) ∨
      ∃ text, cut source first stop = .ok text ∧
        IsBoundary source first ∧ IsBoundary source stop := by
  have hiff : Text.slice? first stop source = none ↔
      ¬(IsBoundary source first ∧ IsBoundary source stop) := Text.slice?_eq_none_iff hle
  rw [cut]
  cases h : Text.slice? first stop source with
  | none => exact .inl ⟨rfl, hiff.1 h⟩
  | some text =>
    rw [h] at hiff
    exact .inr ⟨text, rfl, Classical.not_not.1 fun hnot => Option.some_ne_none text (hiff.2 hnot)⟩

theorem cutFrom_cases (source : List Char) (first : Nat) :
    (cutFrom source first = .error .insideCharacter ∧ ¬IsBoundary source first) ∨
      ∃ text, cutFrom source first = .ok text ∧ IsBoundary source first := by
  have hiff : Text.dropBytes? first source = none ↔ ¬IsBoundary source first :=
    Text.dropBytes?_eq_none_iff
  rw [cutFrom]
  cases h : Text.dropBytes? first source with
  | none => exact .inl ⟨rfl, hiff.1 h⟩
  | some text =>
    rw [h] at hiff
    exact .inr ⟨text, rfl, Classical.not_not.1 fun hnot => Option.some_ne_none text (hiff.2 hnot)⟩

/-- A field that cannot be read is malformed, and nothing is cut for it. -/
theorem malformed_of_readField {text : List Char} {fault : Fault}
    (h : readField text = .error fault) : fault = .malformed := by
  rw [readField] at h
  split at h
  · exact (Except.error.inj h).symm
  · split at h
    · cases h
    · exact (Except.error.inj h).symm

/-- What goes on after a cut breaks off if the cut does, or if it does so itself. -/
theorem cut_bind_eq_insideCharacter_iff {α : Type} {first stop : Nat} (hle : first ≤ stop)
    (next : List Char → Except Fault α) :
    (cut source first stop >>= next) = .error .insideCharacter ↔
      ¬(IsBoundary source first ∧ IsBoundary source stop) ∨
        ∃ text, cut source first stop = .ok text ∧ next text = .error .insideCharacter := by
  rcases cut_cases source hle with ⟨hcut, hnot⟩ | ⟨text, hcut, hbounds⟩
  · simp [hcut, hnot, bind, Except.bind]
  · simp [hcut, hbounds, bind, Except.bind]

/-- The same where it does not depend on the part that was cut. -/
theorem cut_bind_iff {α : Type} {first stop : Nat} {P : Prop} (hle : first ≤ stop)
    {next : List Char → Except Fault α}
    (hnext : ∀ text, next text = .error .insideCharacter ↔ P) :
    (cut source first stop >>= next) = .error .insideCharacter ↔
      ¬(IsBoundary source first ∧ IsBoundary source stop) ∨ P := by
  rcases cut_cases source hle with ⟨hcut, hnot⟩ | ⟨text, hcut, hbounds⟩
  · simp [hcut, hnot, bind, Except.bind]
  · simp [hcut, hbounds, hnext, bind, Except.bind]

/-! ## Reading from a state on -/

/-- The directive that is read from a state on. -/
def Part.readFrom (source : List Char) (d : Directive) (part : Part) (offset : Nat)
    (cs : List Char) : Except Fault Directive := do
  let (d, part) ← part.run source d offset cs
  part.finish source d

theorem read_eq_readFrom (source : List Char) :
    Directive.read source = Part.start.readFrom source .blank 0 (Text.trim source) := rfl

namespace Part
variable {part : Part} {offset first : Nat} {c : Char} {u cs : List Char}

theorem readFrom_nil : part.readFrom source d offset [] = part.finish source d := rfl

theorem readFrom_cons :
    part.readFrom source d offset (c :: cs) = (part.step source d offset c >>= fun next =>
      next.2.readFrom source next.1 (offset + c.utf8Size) cs) := by
  rw [readFrom, run, bind_assoc]
  rfl

theorem readFrom_cons_ok {d' : Directive} {next : Part}
    (h : part.step source d offset c = .ok (d', next)) :
    part.readFrom source d offset (c :: cs)
      = next.readFrom source d' (offset + c.utf8Size) cs := by
  rw [readFrom_cons, h]
  rfl

theorem readFrom_cons_error {fault : Fault} (h : part.step source d offset c = .error fault) :
    part.readFrom source d offset (c :: cs) = .error fault := by
  rw [readFrom_cons, h]
  rfl

/-- The reading passes over characters that change nothing. -/
theorem readFrom_append (h : ∀ c ∈ u, ∀ offset, part.step source d offset c = .ok (d, part)) :
    part.readFrom source d offset (u ++ cs)
      = part.readFrom source d (offset + byteLength u) cs := by
  induction u generalizing offset with
  | nil => rfl
  | cons c u ih =>
    rw [List.cons_append, readFrom_cons_ok (h c List.mem_cons_self offset),
      ih fun d hd => h d (List.mem_cons_of_mem c hd), Text.byteLength_cons, Nat.add_assoc]

/-- Where nothing changes up to the end, the end decides. -/
theorem readFrom_eq_finish (h : ∀ c ∈ cs, ∀ offset, part.step source d offset c = .ok (d, part)) :
    part.readFrom source d offset cs = part.finish source d := by
  rw [← List.append_nil cs, readFrom_append h, readFrom_nil]

/-- A level breaks off exactly if it starts inside a character. -/
theorem readFrom_level_iff :
    (level first).readFrom source d offset cs = .error .insideCharacter ↔
      ¬IsBoundary source first := by
  rw [readFrom_eq_finish fun _ _ _ => rfl, finish]
  rcases cutFrom_cases source first with ⟨hcut, hnot⟩ | ⟨text, hcut, hbound⟩
  · simp [hcut, hnot, bind, Except.bind]
  · by_cases htext : text = []
    · simp [hcut, hbound, htext, bind, Except.bind]
    · cases hlevel : Level.ofText? text <;> simp [hcut, hbound, htext, hlevel, bind, Except.bind]

/-- After a span a level must follow, and breaks off if it starts inside a character. -/
theorem readFrom_afterSpan_iff :
    afterSpan.readFrom source d offset cs = .error .insideCharacter ↔
      ∃ rest, cs = '=' :: rest ∧ ¬IsBoundary source (offset + 1) := by
  cases cs with
  | nil => simp [readFrom_nil, finish]
  | cons c rest =>
    by_cases hc : c = '='
    · have hstep : afterSpan.step source d offset c = .ok (d, level (offset + 1)) := if_pos hc
      rw [readFrom_cons_ok hstep, readFrom_level_iff]
      simp [hc]
    · have hstep : afterSpan.step source d offset c = .error .malformed := if_neg hc
      rw [readFrom_cons_error hstep]
      simp [hc]

/-- After a field the bracket must be closed, and then a level may follow. -/
theorem readFrom_afterField_iff :
    afterField.readFrom source d offset cs = .error .insideCharacter ↔
      ∃ rest, cs = ']' :: '=' :: rest ∧ ¬IsBoundary source (offset + 2) := by
  cases cs with
  | nil => simp [readFrom_nil, finish]
  | cons c rest =>
    by_cases hc : c = ']'
    · have hstep : afterField.step source d offset c = .ok (d, afterSpan) := if_pos hc
      rw [readFrom_cons_ok hstep, readFrom_afterSpan_iff]
      simp [hc, show ']'.utf8Size = 1 from rfl, Nat.add_assoc]
    · have hstep : afterField.step source d offset c = .error .malformed := if_neg hc
      rw [readFrom_cons_error hstep]
      simp [hc]

/-- Nothing changes over a text that does not hold a character which ends its part. -/
theorem step_field (hu : '\x7d' ∉ u) :
    ∀ c ∈ u, ∀ offset, (field first).step source d offset c = .ok (d, field first) := by
  intro c hc offset
  have hne : c ≠ '\x7d' := fun h => hu (h ▸ hc)
  exact if_neg hne

theorem step_span (hclose : ']' ∉ u) (hbrace : '\x7b' ∉ u) :
    ∀ c ∈ u, ∀ offset, (span first).step source d offset c = .ok (d, span first) := by
  intro c hc offset
  have hne : c ≠ ']' := fun h => hclose (h ▸ hc)
  have hne' : c ≠ '\x7b' := fun h => hbrace (h ▸ hc)
  simp [step, hne, hne']

theorem step_target (hequals : '=' ∉ u) (hopen : '[' ∉ u) :
    ∀ c ∈ u, ∀ offset,
      (levelOrTarget first).step source d offset c = .ok (d, levelOrTarget first) := by
  intro c hc offset
  have hne : c ≠ '=' := fun h => hequals (h ▸ hc)
  have hne' : c ≠ '[' := fun h => hopen (h ▸ hc)
  simp [step, hne, hne']

/-- A field that is closed breaks off where it is cut, or later if it can be read. -/
theorem readFrom_field_iff (hle : first ≤ offset) (hu : '\x7d' ∉ u) :
    (field first).readFrom source d offset (u ++ '\x7d' :: cs) = .error .insideCharacter ↔
      ¬(IsBoundary source first ∧ IsBoundary source (offset + byteLength u)) ∨
        (∃ text f, cut source first (offset + byteLength u) = .ok text ∧
          readField text = .ok f) ∧
        ∃ rest, cs = ']' :: '=' :: rest ∧ ¬IsBoundary source (offset + byteLength u + 3) := by
  have hstep : ∀ n, (field first).step source d n '\x7d' = (cut source first n >>= fun text =>
      readField text >>= fun f => .ok ({ d with field := some f }, afterField)) := fun n => rfl
  rw [readFrom_append (step_field hu), readFrom_cons, hstep, bind_assoc,
    cut_bind_eq_insideCharacter_iff (by omega)]
  refine or_congr_right ⟨?_, ?_⟩
  · intro hends
    obtain ⟨text, hcut, hread⟩ := hends
    -- a field that cannot be read is malformed, and nothing after it is cut
    cases hf : readField text with
    | error fault =>
      rw [hf, malformed_of_readField hf] at hread
      cases hread
    | ok f =>
      rw [hf] at hread
      obtain ⟨rest, hcs, hnot⟩ := readFrom_afterField_iff.1 hread
      exact ⟨⟨text, f, hcut, hf⟩, rest, hcs, hnot⟩
  · intro hends
    obtain ⟨⟨text, f, hcut, hf⟩, rest, hcs, hnot⟩ := hends
    refine ⟨text, hcut, ?_⟩
    rw [hf]
    exact readFrom_afterField_iff.2 ⟨rest, hcs, hnot⟩

/-- A field that is not closed is malformed. -/
theorem readFrom_field_open (hcs : '\x7d' ∉ cs) :
    (field first).readFrom source d offset cs = .error .malformed := by
  rw [readFrom_eq_finish (step_field hcs)]
  rfl

/-- A span that is closed breaks off where it is cut, or at the level after it. -/
theorem readFrom_span_close_iff (hle : first ≤ offset) (hclose : ']' ∉ u)
    (hbrace : '\x7b' ∉ u) :
    (span first).readFrom source d offset (u ++ ']' :: cs) = .error .insideCharacter ↔
      ¬(IsBoundary source first ∧ IsBoundary source (offset + byteLength u)) ∨
        ∃ rest, cs = '=' :: rest ∧ ¬IsBoundary source (offset + byteLength u + 2) := by
  have hstep : ∀ n, (span first).step source d n ']' = (cut source first n >>= fun text =>
      .ok ({ d with span := some (String.ofList text) }, afterSpan)) := fun n => rfl
  rw [readFrom_append (step_span hclose hbrace), readFrom_cons, hstep, bind_assoc]
  exact cut_bind_iff (by omega) fun text => readFrom_afterSpan_iff

/-- A span that a field follows breaks off where it is cut, or in the field. -/
theorem readFrom_span_brace_iff {P : Prop} (hle : first ≤ offset) (hclose : ']' ∉ u)
    (hbrace : '\x7b' ∉ u)
    (hfield : ∀ d, (field (offset + byteLength u + 1)).readFrom source d
      (offset + byteLength u + 1) cs = .error .insideCharacter ↔ P) :
    (span first).readFrom source d offset (u ++ '\x7b' :: cs) = .error .insideCharacter ↔
      ¬(IsBoundary source first ∧ IsBoundary source (offset + byteLength u)) ∨ P := by
  have hstep : ∀ n, (span first).step source d n '\x7b' = (cut source first n >>= fun text =>
      .ok ({ d with span := if text = [] then none else some (String.ofList text) },
        field (n + 1))) := fun n => rfl
  rw [readFrom_append (step_span hclose hbrace), readFrom_cons, hstep, bind_assoc]
  exact cut_bind_iff (by omega) fun text => hfield _

/-- A name between a bracket and a brace that cannot be cut out breaks off, whatever follows
the brace. -/
theorem readFrom_span_brace (hle : first ≤ offset) (hclose : ']' ∉ u) (hbrace : '\x7b' ∉ u)
    (hcut : ¬(IsBoundary source first ∧ IsBoundary source (offset + byteLength u))) :
    (span first).readFrom source d offset (u ++ '\x7b' :: cs) = .error .insideCharacter := by
  rw [readFrom_append (step_span hclose hbrace)]
  refine readFrom_cons_error ?_
  rcases cut_cases source (show first ≤ offset + byteLength u by omega) with
    ⟨hbreak, -⟩ | ⟨text, -, hbounds⟩
  · rw [step, if_neg (by decide), if_pos rfl, hbreak]
    rfl
  · exact absurd hbounds hcut

/-- A span that is neither closed nor followed by a field is malformed. -/
theorem readFrom_span_open (hclose : ']' ∉ cs) (hbrace : '\x7b' ∉ cs) :
    (span first).readFrom source d offset cs = .error .malformed := by
  rw [readFrom_eq_finish (step_span hclose hbrace)]
  rfl

end Part

/-! ## The bracketed part of a directive -/

/-- The text after an opening bracket breaks off the reading, where the text starts at byte
`n` of the trimmed directive. The parts are the name of a span up to a closing bracket or an
opening brace, a field up to a closing brace, and a level after the closing bracket. -/
inductive SpanBreaksOff (source : List Char) (n : Nat) (cs : List Char) : Prop where
  | name {u rest : List Char} {c : Char} (hclose : ']' ∉ u) (hbrace : '\x7b' ∉ u)
    (hc : c = ']' ∨ c = '\x7b') (hcs : cs = u ++ c :: rest)
    (hcut : ¬(IsBoundary source n ∧ IsBoundary source (n + byteLength u)))
  | level {u rest : List Char} (hclose : ']' ∉ u) (hbrace : '\x7b' ∉ u)
    (hcs : cs = u ++ ']' :: '=' :: rest) (hcut : ¬IsBoundary source (n + byteLength u + 2))
  | field {u f rest : List Char} (hclose : ']' ∉ u) (hbrace : '\x7b' ∉ u) (hf : '\x7d' ∉ f)
    (hcs : cs = u ++ '\x7b' :: (f ++ '\x7d' :: rest))
    (hcut : ¬(IsBoundary source (n + byteLength u + 1) ∧
      IsBoundary source (n + byteLength u + 1 + byteLength f)))
  /-- The level after a field, which is only reached if what was cut out for the field can
  be read. -/
  | fieldLevel {u f rest text : List Char} {read : Field} (hclose : ']' ∉ u)
    (hbrace : '\x7b' ∉ u) (hf : '\x7d' ∉ f)
    (hcs : cs = u ++ '\x7b' :: (f ++ '\x7d' :: ']' :: '=' :: rest))
    (htext : cut source (n + byteLength u + 1) (n + byteLength u + 1 + byteLength f) = .ok text)
    (hread : readField text = .ok read)
    (hcut : ¬IsBoundary source (n + byteLength u + 1 + byteLength f + 3))

/-- A text falls into what stands before the first of two characters and what stands after
it, unless it holds neither. -/
theorem notMem_or_exists_append (a b : Char) (cs : List Char) :
    (a ∉ cs ∧ b ∉ cs) ∨
      ∃ u c rest, cs = u ++ c :: rest ∧ (c = a ∨ c = b) ∧ a ∉ u ∧ b ∉ u := by
  cases h : cs.find? fun c => decide (c = a ∨ c = b) with
  | none =>
    simp only [List.find?_eq_none, decide_eq_true_eq, not_or] at h
    exact .inl ⟨fun ha => (h a ha).1 rfl, fun hb => (h b hb).2 rfl⟩
  | some c =>
    obtain ⟨hc, u, rest, hcs, hu⟩ := List.find?_eq_some_iff_append.1 h
    simp only [Bool.not_eq_true', decide_eq_false_iff_not, not_or] at hu
    exact .inr ⟨u, c, rest, hcs, of_decide_eq_true hc, fun ha => (hu a ha).1 rfl,
      fun hb => (hu b hb).2 rfl⟩

namespace Part
variable {n : Nat} {cs : List Char}

/-- The reading of a bracketed part breaks off exactly where a part of it cannot be cut
out. -/
theorem readFrom_span_iff :
    (span n).readFrom source d n cs = .error .insideCharacter ↔ SpanBreaksOff source n cs := by
  have hn : n ≤ n := Nat.le_refl n
  constructor
  · intro h
    -- the first closing bracket or opening brace ends the name
    rcases notMem_or_exists_append ']' '\x7b' cs with
      ⟨hclose, hbrace⟩ | ⟨u, c, rest, rfl, hc, hclose, hbrace⟩
    · rw [readFrom_span_open hclose hbrace] at h
      cases h
    by_cases hcut : IsBoundary source n ∧ IsBoundary source (n + byteLength u)
    · rcases hc with rfl | rfl
      · rw [readFrom_span_close_iff hn hclose hbrace] at h
        obtain ⟨after, rfl, hnot⟩ := h.resolve_left (not_not_intro hcut)
        exact .level hclose hbrace rfl hnot
      · by_cases hend : '\x7d' ∈ rest
        · obtain ⟨f, after, rfl, hf⟩ := List.eq_append_cons_of_mem hend
          rw [readFrom_span_brace_iff hn hclose hbrace fun d =>
            readFrom_field_iff (Nat.le_refl _) hf] at h
          rcases h.resolve_left (not_not_intro hcut) with
            hnot | ⟨⟨text, read, htext, hread⟩, after, rfl, hnot⟩
          · exact .field hclose hbrace hf rfl hnot
          · exact .fieldLevel hclose hbrace hf rfl htext hread hnot
        · have hopen : ∀ d, (field (n + byteLength u + 1)).readFrom source d
              (n + byteLength u + 1) rest = .error .insideCharacter ↔ False := fun d => by
            simp [readFrom_field_open hend]
          rw [readFrom_span_brace_iff hn hclose hbrace hopen, or_false] at h
          exact absurd hcut h
    · exact .name hclose hbrace hc rfl hcut
  · intro hspan
    rcases hspan with ⟨hclose, hbrace, rfl | rfl, rfl, hcut⟩ | ⟨hclose, hbrace, rfl, hcut⟩ |
      ⟨hclose, hbrace, hf, rfl, hcut⟩ | ⟨hclose, hbrace, hf, rfl, htext, hread, hcut⟩
    · exact (readFrom_span_close_iff hn hclose hbrace).2 (.inl hcut)
    · exact readFrom_span_brace hn hclose hbrace hcut
    · exact (readFrom_span_close_iff hn hclose hbrace).2 (.inr ⟨_, rfl, hcut⟩)
    · exact (readFrom_span_brace_iff hn hclose hbrace fun d =>
        readFrom_field_iff (Nat.le_refl _) hf).2 (.inr (.inl hcut))
    · exact (readFrom_span_brace_iff hn hclose hbrace fun d =>
        readFrom_field_iff (Nat.le_refl _) hf).2 (.inr (.inr ⟨⟨_, _, htext, hread⟩, _, rfl, hcut⟩))

end Part

/-! ## Directives -/

/-- The text can stand for the target of a directive. -/
def IsTarget (u : List Char) : Prop :=
  (∃ c ∈ u.head?, isDirectiveStart c = true) ∧ '=' ∉ u ∧ '[' ∉ u

/-- The reading of a directive breaks off: the trimmed text has a part whose place in the
untrimmed text starts or ends inside a character. The parts are a target up to an equals
sign or an opening bracket, a level after the equals sign, and what the bracket opens. -/
inductive Directive.BreaksOff (source : List Char) : Prop where
  | target {u rest : List Char} {c : Char} (hu : IsTarget u) (hc : c = '=' ∨ c = '[')
    (htext : Text.trim source = u ++ c :: rest) (hcut : ¬IsBoundary source (byteLength u))
  | level {u rest : List Char} (hu : IsTarget u) (htext : Text.trim source = u ++ '=' :: rest)
    (hcut : ¬IsBoundary source (byteLength u + 1))
  | span {u rest : List Char} (hu : u = [] ∨ IsTarget u)
    (htext : Text.trim source = u ++ '[' :: rest)
    (hspan : SpanBreaksOff source (byteLength u + 1) rest)

namespace Part
variable {u cs : List Char} {n : Nat}

/-- A directive that starts with a target is read up to the end of the target. -/
theorem readFrom_start_target (hu : IsTarget u) :
    start.readFrom source d 0 (u ++ cs)
      = (levelOrTarget 0).readFrom source d (byteLength u) cs := by
  obtain ⟨⟨c, hhead, hc⟩, hequals, hopen⟩ := hu
  cases u with
  | nil => cases hhead
  | cons b u =>
    obtain rfl : b = c := Option.some.inj hhead
    have hne : b ≠ '[' := fun h => hopen (h ▸ List.mem_cons_self)
    have hstep : start.step source d 0 b = .ok (d, levelOrTarget 0) := by
      rw [step, if_neg hne, if_pos hc]
    rw [List.cons_append, readFrom_cons_ok hstep, Nat.zero_add,
      readFrom_append (step_target (fun h => hequals (List.mem_cons_of_mem b h))
        fun h => hopen (List.mem_cons_of_mem b h))]
    rfl

theorem readFrom_target_equals_iff :
    (levelOrTarget 0).readFrom source d n ('=' :: cs) = .error .insideCharacter ↔
      ¬IsBoundary source n ∨ ¬IsBoundary source (n + 1) := by
  have hstep : (levelOrTarget 0).step source d n '=' = (cut source 0 n >>= fun text =>
      .ok ({ d with target := some (String.ofList text) }, level (n + 1))) := rfl
  rw [readFrom_cons, hstep, bind_assoc,
    ← (and_iff_right (Text.isBoundary_zero source) : _ ↔ IsBoundary source n)]
  exact cut_bind_iff (Nat.zero_le n) fun text => readFrom_level_iff

theorem readFrom_target_bracket_iff :
    (levelOrTarget 0).readFrom source d n ('[' :: cs) = .error .insideCharacter ↔
      ¬IsBoundary source n ∨ SpanBreaksOff source (n + 1) cs := by
  have hstep : (levelOrTarget 0).step source d n '[' = (cut source 0 n >>= fun text =>
      .ok ({ d with target := some (String.ofList text) }, span (n + 1))) := rfl
  rw [readFrom_cons, hstep, bind_assoc,
    ← (and_iff_right (Text.isBoundary_zero source) : _ ↔ IsBoundary source n)]
  exact cut_bind_iff (Nat.zero_le n) fun text => readFrom_span_iff

/-- A text without an equals sign and a bracket is read to its end, and not cut before. -/
theorem readFrom_target_nil :
    (levelOrTarget 0).readFrom source d n [] ≠ .error .insideCharacter := by
  have hwhole : cutFrom source 0 = .ok source := by rw [cutFrom, Text.dropBytes?]
  rw [readFrom_nil, finish, hwhole]
  cases hlevel : Level.ofText? source <;> simp [hlevel, bind, Except.bind]

theorem readFrom_start_bracket :
    start.readFrom source d 0 ('[' :: cs) = (span 1).readFrom source d 1 cs := by
  have hstep : start.step source d 0 '[' = .ok (d, span 1) := rfl
  exact readFrom_cons_ok hstep

end Part

/-- A directive breaks off the reading exactly where a part of it cannot be cut out. -/
theorem Directive.read_eq_insideCharacter_iff :
    Directive.read source = .error .insideCharacter ↔ Directive.BreaksOff source := by
  rw [read_eq_readFrom]
  constructor
  · intro h
    cases htext : Text.trim source with
    | nil =>
      rw [htext] at h
      cases h
    | cons c cs =>
      rw [htext] at h
      -- a directive starts with a bracket or a target, or it is malformed
      by_cases hbracket : c = '['
      · subst hbracket
        rw [Part.readFrom_start_bracket, Part.readFrom_span_iff] at h
        exact .span (.inl rfl) htext h
      by_cases hstart : isDirectiveStart c = true
      · rcases notMem_or_exists_append '=' '[' (c :: cs) with
          ⟨hequals, hopen⟩ | ⟨u, b, rest, hcs, hb, hequals, hopen⟩
        · have hu : IsTarget (c :: cs) := ⟨⟨c, rfl, hstart⟩, hequals, hopen⟩
          rw [← List.append_nil (c :: cs), Part.readFrom_start_target hu] at h
          exact absurd h Part.readFrom_target_nil
        · have hu : IsTarget u := by
            refine ⟨⟨c, ?_, hstart⟩, hequals, hopen⟩
            cases u with
            | nil =>
              -- the text starts with neither separator
              obtain rfl : c = b := (List.cons.inj hcs).1
              rcases hb with rfl | rfl
              · exact absurd hstart (by decide +kernel)
              · exact absurd rfl hbracket
            | cons a u =>
              rw [(List.cons.inj hcs).1]
              rfl
          rw [hcs, Part.readFrom_start_target hu] at h
          rw [hcs] at htext
          rcases hb with rfl | rfl
          · rcases Part.readFrom_target_equals_iff.1 h with hcut | hcut
            · exact .target hu (.inl rfl) htext hcut
            · exact .level hu htext hcut
          · rcases Part.readFrom_target_bracket_iff.1 h with hcut | hspan
            · exact .target hu (.inr rfl) htext hcut
            · exact .span (.inr hu) htext hspan
      · have hstep : Part.start.step source .blank 0 c = .error .malformed := by
          rw [Part.step, if_neg hbracket, if_neg hstart]
        rw [Part.readFrom_cons_error hstep] at h
        cases h
  · intro hbreaks
    rcases hbreaks with ⟨hu, rfl | rfl, htext, hcut⟩ | ⟨hu, htext, hcut⟩ | ⟨rfl | hu, htext, hspan⟩
    · rw [htext, Part.readFrom_start_target hu]
      exact Part.readFrom_target_equals_iff.2 (.inl hcut)
    · rw [htext, Part.readFrom_start_target hu]
      exact Part.readFrom_target_bracket_iff.2 (.inl hcut)
    · rw [htext, Part.readFrom_start_target hu]
      exact Part.readFrom_target_equals_iff.2 (.inr hcut)
    · rw [htext, List.nil_append, Part.readFrom_start_bracket]
      exact Part.readFrom_span_iff.2 hspan
    · rw [htext, Part.readFrom_start_target hu]
      exact Part.readFrom_target_bracket_iff.2 (.inr hspan)

/-! ## Directives that never break off -/

/-- A bracketed part that breaks off has a beginning whose end lies inside a character. -/
theorem SpanBreaksOff.exists_prefix {v cs : List Char}
    (h : SpanBreaksOff source (byteLength v) cs) :
    ∃ xs, xs <+: v ++ cs ∧ ¬IsBoundary source (byteLength xs) := by
  rcases h with ⟨-, -, -, rfl, hcut⟩ | ⟨-, -, rfl, hcut⟩ | ⟨-, -, -, rfl, hcut⟩ |
    ⟨-, -, -, rfl, -, -, hcut⟩
  · next u rest c =>
    -- either end of the name may lie inside a character
    by_cases hv : IsBoundary source (byteLength v)
    · refine ⟨v ++ u, ⟨c :: rest, by simp⟩, fun hb => hcut ⟨hv, ?_⟩⟩
      rwa [Text.byteLength_append] at hb
    · exact ⟨v, List.prefix_append v _, hv⟩
  · next u rest =>
    refine ⟨v ++ (u ++ [']', '=']), ⟨rest, by simp⟩, fun hb => hcut ?_⟩
    simpa [Char.utf8Size, Nat.add_assoc] using hb
  · next u f rest =>
    by_cases hv : IsBoundary source (byteLength v + byteLength u + 1)
    · refine ⟨v ++ (u ++ '\x7b' :: f), ⟨'\x7d' :: rest, by simp⟩, fun hb => hcut ⟨hv, ?_⟩⟩
      simpa [Char.utf8Size, Nat.add_assoc] using hb
    · refine ⟨v ++ (u ++ ['\x7b']), ⟨f ++ '\x7d' :: rest, by simp⟩, fun hb => hv ?_⟩
      simpa [Char.utf8Size, Nat.add_assoc] using hb
  · next u f rest _ _ =>
    refine ⟨v ++ (u ++ '\x7b' :: (f ++ ['\x7d', ']', '='])), ⟨rest, by simp⟩, fun hb => hcut ?_⟩
    simpa [Char.utf8Size, Nat.add_assoc] using hb

/-- A directive that breaks off has a beginning whose end lies inside a character of the
untrimmed text. -/
theorem Directive.BreaksOff.exists_prefix (h : Directive.BreaksOff source) :
    ∃ xs, xs <+: Text.trim source ∧ ¬IsBoundary source (byteLength xs) := by
  rcases h with ⟨-, -, htext, hcut⟩ | ⟨-, htext, hcut⟩ | ⟨-, htext, hspan⟩
  · exact ⟨_, ⟨_, htext.symm⟩, hcut⟩
  · next u rest =>
    refine ⟨u ++ ['='], ⟨rest, by rw [htext]; simp⟩, fun hb => hcut ?_⟩
    simpa [Char.utf8Size] using hb
  · next u rest =>
    have hlen : byteLength (u ++ ['[']) = byteLength u + 1 := by simp [Char.utf8Size]
    rw [← hlen] at hspan
    obtain ⟨xs, hxs, hcut⟩ := hspan.exists_prefix
    refine ⟨xs, ?_, hcut⟩
    rw [htext]
    simpa using hxs

/-- A directive that does not start with a blank never breaks off. -/
theorem Directive.not_breaksOff_of_head {c : Char} (hc : Text.isBlank c = false)
    (cs : List Char) : ¬Directive.BreaksOff (c :: cs) := by
  intro h
  obtain ⟨xs, hxs, hcut⟩ := h.exists_prefix
  rw [Text.trim, Text.trimStart_cons_of_not_blank hc] at hxs
  obtain ⟨after, hcs, -⟩ := Text.exists_trimEnd_append (c :: cs)
  exact hcut (Text.isBoundary_of_prefix (hxs.trans ⟨after, hcs.symm⟩))

/-- A directive of ASCII characters never breaks off. -/
theorem Directive.not_breaksOff_of_ascii (h : ∀ c ∈ source, c.utf8Size = 1) :
    ¬Directive.BreaksOff source := by
  intro hbreak
  obtain ⟨xs, ⟨ys, hxs⟩, hcut⟩ := hbreak.exists_prefix
  obtain ⟨before, after, hsource, -⟩ := Text.exists_append_trim source
  refine hcut (Text.isBoundary_of_ascii h ?_)
  rw [hsource, ← hxs]
  simp only [Text.byteLength_append]
  omega

end LinkReport.Filter
