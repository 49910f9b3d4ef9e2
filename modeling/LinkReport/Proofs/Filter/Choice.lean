import LinkReport.Filter.Basic
import LinkReport.Proofs.Filter.Cutting
import LinkReport.Proofs.Text.Joining

/-!
# The choice of a filter

A filter text is read part by part, and the first part that breaks off ends the reading,
unless a malformed part stands before it. `Config.BreaksOff` says for which configurations
the choice of a filter breaks off; for all others there is a filter, and it is that of the
first text that is usable.

* `Filter.read_eq_insideCharacter_iff` the texts whose reading breaks off
* `Filter.ofConfig_cases` the configurations for which the choice breaks off, and the filter
  for each other one
* `Config.not_breaksOff_of_ascii` configurations that are safe
-/

namespace LinkReport

/-- What succeeds in two parts has succeeded in the first. -/
theorem of_bind_eq_ok {α β ε : Type} {x : Except ε α} {f : α → Except ε β} {b : β}
    (h : x >>= f = .ok b) : ∃ a, x = .ok a ∧ f a = .ok b := by
  cases x with
  | error e => cases h
  | ok a => exact ⟨a, rfl, h⟩

namespace Filter

/-! ## Filters -/

/-- A traversal succeeds with what the elements give one by one. -/
theorem mapM_eq_ok_iff {α β ε : Type} {f : α → Except ε β} {xs : List α} {ys : List β} :
    xs.mapM f = .ok ys ↔ xs.map f = ys.map .ok := by
  induction xs generalizing ys with
  | nil => simp [pure, Except.pure, eq_comm]
  | cons x xs ih =>
    rw [List.mapM_cons]
    constructor
    · intro h
      obtain ⟨y, hy, hrest⟩ := of_bind_eq_ok h
      obtain ⟨zs, hzs, hcons⟩ := of_bind_eq_ok hrest
      cases hcons
      rw [List.map_cons, hy, ih.1 hzs, List.map_cons]
    · intro h
      cases ys with
      | nil => cases h
      | cons y ys =>
        obtain ⟨hy, hys⟩ := List.cons.inj h
        rw [hy, ih.2 hys]
        rfl

/-- A traversal fails with the fault of the first element that has one. -/
theorem mapM_eq_error_iff {α β ε : Type} {f : α → Except ε β} {e : ε} {xs : List α} :
    xs.mapM f = .error e ↔ ∃ before x after, xs = before ++ x :: after ∧
      (∀ y ∈ before, ∃ b, f y = .ok b) ∧ f x = .error e := by
  -- the first fault ends the traversal, so no element before it has one
  induction xs with
  | nil => simp [pure, Except.pure]
  | cons x xs ih =>
    rw [List.mapM_cons]
    cases hx : f x with
    | error e' =>
      have hstop : ((.error e' : Except ε β) >>= fun b => xs.mapM f >>= fun bs =>
          pure (b :: bs)) = .error e ↔ e' = e := by simp [bind, Except.bind]
      refine hstop.trans ⟨?_, ?_⟩
      · rintro rfl
        exact ⟨[], x, xs, rfl, fun y hy => absurd hy List.not_mem_nil, hx⟩
      · intro hsplits
        obtain ⟨before, y, after, hsplit, hbefore, hy⟩ := hsplits
        cases before with
        | nil =>
          rw [← (List.cons.inj hsplit).1, hx] at hy
          exact Except.error.inj hy
        | cons z before =>
          obtain ⟨b, hb⟩ := hbefore z List.mem_cons_self
          rw [← (List.cons.inj hsplit).1, hx] at hb
          cases hb
    | ok b =>
      have hrest : (xs.mapM f >>= fun bs => pure (b :: bs)) = .error e ↔ xs.mapM f = .error e := by
        cases xs.mapM f <;> simp [bind, Except.bind, pure, Except.pure]
      refine hrest.trans (ih.trans ⟨?_, ?_⟩)
      · intro hsplits
        obtain ⟨before, y, after, rfl, hbefore, hy⟩ := hsplits
        refine ⟨x :: before, y, after, rfl, fun z hz => ?_, hy⟩
        rcases List.mem_cons.1 hz with rfl | hz
        · exact ⟨b, hx⟩
        · exact hbefore z hz
      · intro hsplits
        obtain ⟨before, y, after, hsplit, hbefore, hy⟩ := hsplits
        cases before with
        | nil =>
          rw [(List.cons.inj hsplit).1, hy] at hx
          cases hx
        | cons z before =>
          exact ⟨before, y, after, (List.cons.inj hsplit).2,
            fun w hw => hbefore w (List.mem_cons_of_mem z hw), hy⟩

/-- The reading of a filter text breaks off: one of its parts does, and those before it can
be read. -/
def BreaksOff (text : String) : Prop :=
  ∃ before part after, parts text.toList = before ++ part :: after ∧
    (∀ p ∈ before, ∃ d, Directive.read p = .ok d) ∧ Directive.BreaksOff part

theorem read_eq_insideCharacter_iff {text : String} :
    read text = .error .insideCharacter ↔ BreaksOff text := by
  have hmap : read text = .error .insideCharacter ↔
      (parts text.toList).mapM Directive.read = .error .insideCharacter := by
    rw [read]
    cases (parts text.toList).mapM Directive.read <;> simp [Except.map]
  rw [hmap, mapM_eq_error_iff, BreaksOff]
  simp only [Directive.read_eq_insideCharacter_iff]

/-! ## Texts that never break off -/

/-- A part of a text holds characters of the text only. -/
theorem mem_of_mem_parts {c : Char} {part cs : List Char} (hpart : part ∈ parts cs)
    (hc : c ∈ part) : c ∈ cs := by
  have hsplit : part ∈ cs.splitOn ',' := (List.mem_filter.1 hpart).1
  exact Text.mem_of_mem_splitOn hsplit hc

theorem not_breaksOff_of_parts {text : String}
    (h : ∀ part ∈ parts text.toList, ¬Directive.BreaksOff part) : ¬BreaksOff text := by
  intro hbreaks
  obtain ⟨before, part, after, hparts, -, hbreak⟩ := hbreaks
  refine h part ?_ hbreak
  rw [hparts]
  exact List.mem_append_right before List.mem_cons_self

/-- A text without a blank at the start of a part never breaks off. -/
theorem not_breaksOff_of_heads {text : String}
    (h : ∀ part ∈ parts text.toList, ∀ c ∈ part.head?, Text.isBlank c = false) :
    ¬BreaksOff text := by
  apply not_breaksOff_of_parts
  intro part hpart
  cases part with
  | nil =>
    -- empty parts were left out
    exact absurd rfl (of_decide_eq_true (List.mem_filter.1 hpart).2)
  | cons c cs => exact Directive.not_breaksOff_of_head (h _ hpart c rfl) cs

/-- A text of ASCII characters never breaks off. -/
theorem not_breaksOff_of_ascii {text : String} (h : ∀ c ∈ text.toList, c.utf8Size = 1) :
    ¬BreaksOff text := by
  apply not_breaksOff_of_parts
  intro part hpart
  exact Directive.not_breaksOff_of_ascii fun c hc => h c (mem_of_mem_parts hpart hc)

/-! ## Configurations -/

/-- The filter is the one for the configuration: that of the filter text, or of the level
where there is no usable filter text, or the default where the level is not usable either. -/
inductive IsFor (c : Config) : Filter → Prop where
  | text {text : String} {f : Filter} (htext : c.logFilter = some text)
    (hread : read text = .ok f) : IsFor c f
  | level {f : Filter} (hunusable : ∀ text, c.logFilter = some text → read text = .error .malformed)
    (hread : read c.logLevel = .ok f) : IsFor c f
  | default (hunusable : ∀ text, c.logFilter = some text → read text = .error .malformed)
    (hlevel : read c.logLevel = .error .malformed) : IsFor c default

end Filter

/-- The choice of a filter for the configuration breaks off: in the filter text, or in the
level where that is tried. -/
def Config.BreaksOff (c : Config) : Prop :=
  (∃ text, c.logFilter = some text ∧ Filter.BreaksOff text) ∨
    (∀ text, c.logFilter = some text → Filter.read text = .error .malformed) ∧
      Filter.BreaksOff c.logLevel

/-- A configuration in ASCII never breaks off. -/
theorem Config.not_breaksOff_of_ascii {c : Config}
    (hlevel : ∀ ch ∈ c.logLevel.toList, ch.utf8Size = 1)
    (hfilter : ∀ text, c.logFilter = some text → ∀ ch ∈ text.toList, ch.utf8Size = 1) :
    ¬c.BreaksOff := by
  intro hbreaks
  rcases hbreaks with ⟨text, htext, hbreak⟩ | ⟨-, hbreak⟩
  · exact Filter.not_breaksOff_of_ascii (hfilter text htext) hbreak
  · exact Filter.not_breaksOff_of_ascii hlevel hbreak

namespace Filter

theorem ofConfig_of_text {c : Config} {text : String} (h : c.logFilter = some text) :
    ofConfig c = (read? text >>= fun chosen =>
      match chosen with
      | some f => .ok f
      | none => read? c.logLevel >>= fun level => .ok (level.getD default)) := by
  obtain ⟨level, filter⟩ := c
  obtain rfl : filter = some text := h
  rfl

/-- Without a usable filter text the level decides. -/
theorem ofConfig_of_unusable {c : Config}
    (h : ∀ text, c.logFilter = some text → read text = .error .malformed) :
    ofConfig c = (read? c.logLevel >>= fun level => .ok (level.getD default)) := by
  cases hfilter : c.logFilter with
  | none =>
    rw [ofConfig, hfilter]
    rfl
  | some text =>
    have hread : read? text = .ok none := by rw [read?, h text hfilter]
    rw [ofConfig_of_text hfilter, hread]
    rfl

private theorem ofConfig_cases_of_unusable {c : Config}
    (h : ∀ text, c.logFilter = some text → read text = .error .malformed) :
    (c.BreaksOff ∧ ofConfig c = .error .insideCharacter) ∨
      ¬c.BreaksOff ∧ ∃ f, ofConfig c = .ok f ∧ IsFor c f := by
  have hlevel : c.BreaksOff ↔ read c.logLevel = .error .insideCharacter := by
    rw [Config.BreaksOff, ← read_eq_insideCharacter_iff]
    refine ⟨?_, fun hbreak => .inr ⟨h, hbreak⟩⟩
    intro hbreaks
    rcases hbreaks with ⟨text, htext, hbreak⟩ | ⟨-, hbreak⟩
    · rw [← read_eq_insideCharacter_iff, h text htext] at hbreak
      cases hbreak
    · exact hbreak
  rw [ofConfig_of_unusable h, hlevel]
  cases hread : read c.logLevel with
  | ok f =>
    refine .inr ⟨by simp, f, ?_, .level h hread⟩
    rw [read?, hread]
    rfl
  | error fault =>
    cases fault with
    | malformed =>
      refine .inr ⟨by simp, default, ?_, .default h hread⟩
      rw [read?, hread]
      rfl
    | insideCharacter =>
      refine .inl ⟨rfl, ?_⟩
      rw [read?, hread]
      rfl

/-- A configuration has a filter exactly if the choice does not break off, and then it is
the first that is usable. -/
theorem ofConfig_cases (c : Config) :
    (c.BreaksOff ∧ ofConfig c = .error .insideCharacter) ∨
      ¬c.BreaksOff ∧ ∃ f, ofConfig c = .ok f ∧ IsFor c f := by
  cases htext : c.logFilter with
  | none => exact ofConfig_cases_of_unusable fun text h => by rw [htext] at h; cases h
  | some text =>
    cases hread : read text with
    | ok f =>
      refine .inr ⟨?_, f, ?_, .text htext hread⟩
      · intro hbreaks
        rcases hbreaks with ⟨other, hother, hbreak⟩ | ⟨hunusable, -⟩
        · rw [← read_eq_insideCharacter_iff, ← Option.some.inj (htext.symm.trans hother),
            hread] at hbreak
          cases hbreak
        · cases hread.symm.trans (hunusable text htext)
      · rw [ofConfig_of_text htext, read?, hread]
        rfl
    | error fault =>
      cases fault with
      | malformed =>
        refine ofConfig_cases_of_unusable fun other hother => ?_
        rw [← Option.some.inj (htext.symm.trans hother), hread]
      | insideCharacter =>
        refine .inl ⟨.inl ⟨text, htext, read_eq_insideCharacter_iff.1 hread⟩, ?_⟩
        rw [ofConfig_of_text htext, read?, hread]
        rfl

theorem exists_ofConfig_iff {c : Config} : (∃ f, ofConfig c = .ok f) ↔ ¬c.BreaksOff := by
  rcases ofConfig_cases c with ⟨hbreak, hcrash⟩ | ⟨hnot, f, hfilter, -⟩
  · simp [hbreak, hcrash]
  · simp [hnot, hfilter]

theorem isFor_of_ofConfig {c : Config} {f : Filter} (h : ofConfig c = .ok f) : IsFor c f := by
  rcases ofConfig_cases c with ⟨-, hcrash⟩ | ⟨-, f', hfilter, hfor⟩
  · rw [hcrash] at h
    cases h
  · rw [hfilter] at h
    cases h
    exact hfor

end Filter
end LinkReport
