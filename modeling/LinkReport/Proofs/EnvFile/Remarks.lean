import LinkReport.Proofs.EnvFile.Composition
import Mathlib.Algebra.Ring.Parity

/-!
# Remarks after values

The splitting and the reader of values look for the start of a remark on their own. The reader
skips any blanks after a value that has no quotes, and takes a `#` there for a remark. Over a run
of blanks the splitting goes to and fro between two states, so it sees the remark after one blank
and not after two, and takes a quote in a remark that it does not see for the start of a
quotation.

* `run_remarked_of_odd` and `run_remarked_of_even` the splitting on a line with a remark;
* `lineEntry_bare` the reader on what the splitting leaves of that line;
* `entries_remarked` and `exists_entries_remarked_error` a file with such a line first.
-/

namespace LinkReport.EnvFile

/-- The character may stand in a value without quotes, and means nothing there. -/
def isWordChar (c : Char) : Bool :=
  c.isAlphanum || "_=:,.-".toList.contains c

/-- A value that needs no quotes. -/
structure Word where
  text : List Char
  ne_nil : text ≠ []
  isWordChar_of_mem : ∀ c ∈ text, isWordChar c = true

/-- Blanks between a value and a remark. -/
structure Gap where
  blanks : List Char
  ne_nil : blanks ≠ []
  space_or_tab_of_mem : ∀ c ∈ blanks, c = ' ' ∨ c = '\t'

/-- A value without quotes as it stands in a file. -/
def bare (k : Key) (word : Word) : List Char :=
  k.text ++ '=' :: word.text

theorem isBlank_eq_false_of_isWordChar {c : Char} (h : isWordChar c = true) :
    Text.isBlank c = false := by
  rcases Bool.or_eq_true_iff.1 h with hletter | hsign
  · exact Text.isBlank_eq_false_of_isAlphanum hletter
  · have hsigns : "_=:,.-".toList.all (!Text.isBlank ·) = true := by decide
    have hblank := List.all_eq_true.1 hsigns c (List.contains_iff_mem.1 hsign)
    rwa [Bool.not_eq_true'] at hblank

/-- Over a key and a word the splitting stays where it is. -/
theorem run_bare (k : Key) (word : Word) :
    Scan.complete.run (bare k word) = .reached .complete := by
  unfold bare
  rw [← List.singleton_append, ← List.append_assoc]
  exact Scan.run_append (Scan.run_append k.run_text rfl)
    (Scan.run_complete rfl (fun _ => isBlank_eq_false_of_isWordChar) word.isWordChar_of_mem)

/-- Over blanks and tabs the splitting goes to and fro between two states. -/
theorem Scan.run_gap {blanks : List Char} (h : ∀ c ∈ blanks, c = ' ' ∨ c = '\t') :
    Scan.complete.run blanks = .reached (if Odd blanks.length then .blank else .complete) := by
  induction blanks using List.reverseRecOn with
  | nil => rfl
  | append_singleton blanks c ih =>
    apply Scan.run_append (ih fun d hd => h d (List.mem_append_left _ hd))
    rw [List.length_append, List.length_singleton]
    by_cases hodd : Odd blanks.length
    · rw [if_pos hodd, if_neg (mt Nat.odd_add_one.1 (not_not_intro hodd))]
      rcases h c (by simp) with rfl | rfl <;> rfl
    · rw [if_neg hodd, if_pos (Nat.odd_add_one.2 hodd)]
      rcases h c (by simp) with rfl | rfl <;> rfl

/-! ### A bare value in the reader -/

theorem Mode.template_word (index : Nat) {cs : List Char} (h : ∀ c ∈ cs, isWordChar c = true)
    (after : List Char) :
    (Mode.plain false).template index (cs ++ after) =
      ((Mode.plain false).template (index + cs.length) after).map (Template.ofText cs ++ ·) := by
  induction cs generalizing index with
  | nil =>
    rw [List.nil_append, List.length_nil, Nat.add_zero]
    cases (Mode.plain false).template index after <;> rfl
  | cons c cs ih =>
    have hc : isWordChar c = true := h c List.mem_cons_self
    have hne : ∀ d, isWordChar d = false → c ≠ d := by
      intro d hd hcd
      rw [hcd, hd] at hc
      cases hc
    have hstep : (Mode.plain false).step nothing c = .go (.plain false) [c] := by
      simp [step, hne '$' rfl, hne '\'' rfl, hne '"' rfl, hne '\\' rfl, hne ' ' rfl, hne '\t' rfl]
    rw [List.cons_append, template, hstep]
    simp only [ih (index + 1) fun d hd => h d (List.mem_cons_of_mem c hd), List.length_cons,
      Nat.add_right_comm index 1, ← Nat.add_assoc]
    cases (Mode.plain false).template (index + cs.length + 1) after <;> rfl

/-- What the reader passes over after a value: nothing, or blanks and a remark. -/
inductive Trailer : List Char → Prop where
  | empty : Trailer []
  | remark (gap : Gap) (cs : List Char) : Trailer (gap.blanks ++ '#' :: cs)

theorem Mode.template_ended (index : Nat) {blanks : List Char}
    (h : ∀ c ∈ blanks, c = ' ' ∨ c = '\t') (cs : List Char) :
    Mode.ended.template index (blanks ++ '#' :: cs) = .ok [] := by
  induction blanks generalizing index with
  | nil => rfl
  | cons c blanks ih =>
    have hstep : Mode.ended.step nothing c = .go .ended [] := if_pos (h c List.mem_cons_self)
    rw [List.cons_append, template, hstep]
    simp only [ih (index + 1) fun d hd => h d (List.mem_cons_of_mem c hd)]
    rfl

theorem Mode.template_trailer (index : Nat) {after : List Char} (h : Trailer after) :
    (Mode.plain false).template index after = .ok [] := by
  cases h with
  | empty => rfl
  | remark gap cs =>
    obtain ⟨c, blanks, hblanks⟩ := List.exists_cons_of_ne_nil gap.ne_nil
    have hmem := gap.space_or_tab_of_mem
    rw [hblanks] at hmem ⊢
    have hstep : (Mode.plain false).step nothing c = .go .ended [] := by
      rcases hmem c List.mem_cons_self with rfl | rfl <;> rfl
    rw [List.cons_append, template, hstep]
    simp only [template_ended (index + 1) (fun d hd => hmem d (List.mem_cons_of_mem c hd))]
    rfl

/-- A word is read as it stands, with or without a remark after it. -/
theorem valueTemplate_word (word : Word) {after : List Char} (h : Trailer after) :
    valueTemplate (word.text ++ after) = .ok (Template.ofText word.text) := by
  rw [valueTemplate, Mode.template_word 0 word.isWordChar_of_mem, Mode.template_trailer _ h]
  show Except.ok (Template.ofText word.text ++ []) = _
  rw [List.append_nil]

theorem Gap.trimEnd_blanks (gap : Gap) : Text.trimEnd gap.blanks = [] := by
  apply Text.trimEnd_eq_nil_iff.2
  intro c hc
  rcases gap.space_or_tab_of_mem c hc with rfl | rfl <;> decide

theorem Gap.trimEnd_append_remark (gap : Gap) (cs : List Char) :
    Text.trimEnd (gap.blanks ++ '#' :: cs) = gap.blanks ++ '#' :: Text.trimEnd cs := by
  have hhash : ∀ c ∈ (gap.blanks ++ ['#']).getLast?, Text.isBlank c = false := by
    intro c hc
    rw [List.getLast?_concat, Option.mem_some_iff] at hc
    rw [← hc]
    decide
  have hkept := Text.trimEnd_append hhash cs
  rwa [List.append_assoc, List.append_assoc] at hkept

/-- The word ends its entry, so only what stands after it can be lost at the end of the line. -/
theorem trimEnd_bare_append (k : Key) (word : Word) (after : List Char) :
    Text.trimEnd (bare k word ++ after) = bare k word ++ Text.trimEnd after := by
  apply Text.trimEnd_append
  intro c hc
  rw [bare, List.getLast?_append_cons, List.getLast?_cons_of_ne_nil word.ne_nil] at hc
  exact isBlank_eq_false_of_isWordChar (word.isWordChar_of_mem c (List.mem_of_getLast? hc))

/-- A bare value is what its entry binds, with or without a remark after it. -/
theorem lineEntry_bare_append (k : Key) (word : Word) {after : List Char}
    (h : Trailer (Text.trimEnd after)) :
    lineEntry (bare k word ++ after) = .ok (some ⟨k.text, Template.ofText word.text⟩) := by
  obtain ⟨c, cs, hword⟩ := List.exists_cons_of_ne_nil word.ne_nil
  have hc : isWordChar c = true := word.isWordChar_of_mem c (hword ▸ List.mem_cons_self)
  have hfirst : (word.text ++ Text.trimEnd after).head? = some c := by
    rw [hword]
    rfl
  have hhash : c ≠ '#' := fun h => absurd (h ▸ hc) (by decide)
  refine lineEntry_of_value k ?_ hfirst (isBlank_eq_false_of_isWordChar hc) hhash
    (valueTemplate_word word h)
  rw [trimEnd_bare_append, bare, List.append_assoc, List.cons_append]

theorem lineEntry_bare (k : Key) (word : Word) :
    lineEntry (bare k word) = .ok (some ⟨k.text, Template.ofText word.text⟩) := by
  have hempty : Trailer (Text.trimEnd []) := .empty
  have hentry := lineEntry_bare_append k word hempty
  rwa [List.append_nil] at hentry

theorem lineEntry_bare_blanks (k : Key) (word : Word) (gap : Gap) :
    lineEntry (bare k word ++ gap.blanks) = .ok (some ⟨k.text, Template.ofText word.text⟩) :=
  lineEntry_bare_append k word (gap.trimEnd_blanks ▸ .empty)

theorem lineEntry_bare_remark (k : Key) (word : Word) (gap : Gap) (cs : List Char) :
    lineEntry (bare k word ++ (gap.blanks ++ '#' :: cs)) =
      .ok (some ⟨k.text, Template.ofText word.text⟩) :=
  lineEntry_bare_append k word (gap.trimEnd_append_remark cs ▸ .remark gap (Text.trimEnd cs))

/-! ### A remark in the splitting -/

/-- The splitting, if it takes the remark for a part of the line, leaves it inside a quotation. -/
def Remark.LeavesQuoteOpen (remark : Remark) : Prop :=
  ∃ t : Scan, Scan.complete.run remark.text = .reached t ∧ t.isQuoted = true

/-- A remark without quotes leaves none open. -/
theorem Remark.not_leavesQuoteOpen (remark : Remark) (hsingle : '\'' ∉ remark.text)
    (hdouble : '"' ∉ remark.text) : ¬remark.LeavesQuoteOpen := by
  rintro ⟨t, hrun, hquoted⟩
  have houtside : Scan.complete.isQuoted = false := rfl
  rcases Scan.run_of_no_quotes houtside hsingle hdouble with ⟨kept, hcut⟩ | ⟨u, hu, hrun'⟩
  · rw [hcut] at hrun
    cases hrun
  · rw [hrun'] at hrun
    cases hrun
    rw [hu] at hquoted
    cases hquoted

variable (k : Key) (word : Word) (gap : Gap) (remark : Remark)

/-- A bare value with a remark after it as it stands in a file. -/
def remarked : List Char :=
  bare k word ++ (gap.blanks ++ '#' :: remark.text)

theorem lineFeed_notMem_bare : '\n' ∉ bare k word := by
  intro h
  rcases List.mem_append.1 h with hkey | hvalue
  · exact k.lineFeed_notMem hkey
  · rcases List.mem_cons.1 hvalue with heq | hword
    · exact absurd heq (by decide)
    · exact absurd (word.isWordChar_of_mem _ hword) (by decide)

theorem lineFeed_notMem_remarked : '\n' ∉ remarked k word gap remark := by
  intro h
  rcases List.mem_append.1 h with hbare | hafter
  · exact lineFeed_notMem_bare k word hbare
  · rcases List.mem_append.1 hafter with hgap | hremark
    · rcases gap.space_or_tab_of_mem _ hgap with heq | heq <;> exact absurd heq (by decide)
    · rcases List.mem_cons.1 hremark with heq | hremark
      · exact absurd heq (by decide)
      · exact remark.lineFeed_notMem hremark

/-- Before a remark the splitting stands after a blank if the number of blanks is odd, and else
where the line may end. -/
theorem run_bare_append_gap : Scan.complete.run (bare k word ++ gap.blanks) =
    .reached (if Odd gap.blanks.length then .blank else .complete) :=
  Scan.run_append (run_bare k word) (Scan.run_gap gap.space_or_tab_of_mem)

/-- After an odd number of blanks the splitting cuts the remark off. -/
theorem run_remarked_of_odd (h : Odd gap.blanks.length) (cs : List Char) :
    Scan.complete.run (remarked k word gap remark ++ cs) =
      .comment (bare k word ++ gap.blanks) := by
  have hgap := run_bare_append_gap k word gap
  rw [if_pos h] at hgap
  have hcut : Scan.blank.run ('#' :: (remark.text ++ cs)) = .comment [] := if_pos ⟨rfl, rfl⟩
  have hkept := Scan.run_append_eq hgap ('#' :: (remark.text ++ cs))
  rw [hcut, Scan.foldr_cons_comment, List.append_nil] at hkept
  simpa [remarked] using hkept

/-- After an even number of blanks the splitting goes on over the remark. -/
theorem run_remarked_of_even (h : ¬Odd gap.blanks.length) (cs : List Char) :
    Scan.complete.run (remarked k word gap remark ++ cs) =
      (bare k word ++ gap.blanks ++ ['#']).foldr ScanEnd.cons
        (Scan.complete.run (remark.text ++ cs)) := by
  have hgap := run_bare_append_gap k word gap
  rw [if_neg h] at hgap
  have hhash : Scan.complete.run ['#'] = .reached .complete := rfl
  rw [← Scan.run_append_eq (Scan.run_append hgap hhash)]
  simp [remarked]

theorem startsComment_bare_append (cs : List Char) :
    startsComment (bare k word ++ cs) = false := by
  simpa [bare] using k.startsComment_append ('=' :: word.text ++ cs)

theorem startsComment_remarked_append (cs : List Char) :
    startsComment (remarked k word gap remark ++ cs) = false := by
  unfold remarked
  rw [List.append_assoc]
  exact startsComment_bare_append k word _

/-- A line with a bare value binds its key to the value. -/
theorem entries_bare (rest : List UInt8) :
    entries (Text.utf8 (bare k word) ++ 10 :: rest) =
      (entries rest).map (⟨k.text, Template.ofText word.text⟩ :: ·) := by
  have hrun : Scan.complete.run (bare k word ++ ['\n']) = .reached .complete :=
    Scan.run_append (run_bare k word) rfl
  exact entries_of_closed (lineFeed_notMem_bare k word) (startsComment_bare_append k word _) hrun
    (lineEntry_bare k word) rest

/-- A remark that the splitting cuts off, or that leaves no quotation open, has no part in what
its line binds. -/
theorem entries_remarked (h : Odd gap.blanks.length ∨ ¬remark.LeavesQuoteOpen)
    (rest : List UInt8) :
    entries (Text.utf8 (remarked k word gap remark) ++ 10 :: rest) =
      (entries rest).map (⟨k.text, Template.ofText word.text⟩ :: ·) := by
  have hline := lineFeed_notMem_remarked k word gap remark
  have hstart := startsComment_remarked_append k word gap remark ['\n']
  by_cases hodd : Odd gap.blanks.length
  · exact entries_of_cut hline hstart (run_remarked_of_odd k word gap remark hodd _)
      (lineEntry_bare_blanks k word gap) rest
  · have hclosed := h.resolve_left hodd
    have hrun := run_remarked_of_even k word gap remark hodd ['\n']
    cases hscan : Scan.complete.run remark.text with
    | comment kept =>
      -- the splitting sees another remark inside this one
      rw [Scan.run_append_of_comment hscan, Scan.foldr_cons_comment] at hrun
      have hkept := lineEntry_bare_remark k word gap kept
      rw [← List.append_assoc, List.append_cons] at hkept
      exact entries_of_cut hline hstart hrun hkept rest
    | reached t =>
      have ht : t.isQuoted = false := by
        rw [← Bool.not_eq_true]
        exact fun hquoted => hclosed ⟨t, hscan, hquoted⟩
      have hend : t.run ['\n'] = .reached .complete := by
        rw [Scan.run_lineFeed, Scan.next_lineFeed_eq_complete_iff.2 ht]
      rw [Scan.run_append hscan hend, Scan.foldr_cons_reached] at hrun
      exact entries_of_closed hline hstart hrun
        (lineEntry_bare_remark k word gap remark.text) rest

/-- Any other remark keeps its line open, and a file that ends there is at fault. -/
theorem exists_entries_remarked_error (heven : ¬Odd gap.blanks.length)
    (hopen : remark.LeavesQuoteOpen) :
    ∃ e, entries (Text.utf8 (remarked k word gap remark) ++ [10]) = .error e := by
  obtain ⟨t, hscan, hquoted⟩ := hopen
  have hline := lineFeed_notMem_remarked k word gap remark
  have hstart : startsComment ([] ++ (remarked k word gap remark ++ ['\n'])) = false :=
    startsComment_remarked_append k word gap remark _
  have hne : t.next '\n' ≠ .complete := by
    intro hcomplete
    rw [Scan.next_lineFeed_eq_complete_iff.1 hcomplete] at hquoted
    cases hquoted
  have hrun := run_remarked_of_even k word gap remark heven ['\n']
  rw [Scan.run_append hscan (Scan.run_lineFeed t), Scan.foldr_cons_reached] at hrun
  unfold entries logicalLines
  rw [logicalLinesFrom_open hline hstart hrun hne, physicalLines, logicalLinesFrom, if_neg hne]
  exact ⟨_, rfl⟩

end LinkReport.EnvFile
