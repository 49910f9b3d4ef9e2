import LinkReport.CommandLine.Arguments

/-!
# Accepted arguments

A program goes on to its work if its arguments are flags that change the work, each given
once, with nothing else among them but a separator at the end. All other arguments are
answered at once.

* `Program.read_eq_work_iff` the arguments that lead to the work, and the flags they give
-/

namespace LinkReport.CommandLine

/-- The flags that change the work of a program. -/
def Program.workFlags : Program → List Flag
  | .demo => [.json, .showConfig]
  | .selfTest => []

/-- The arguments are these flags of the program, each of them once, and there may be a
separator at the end. -/
structure Program.Accepts (p : Program) (arguments : List String) (given : List Flag) :
    Prop where
  known : ∀ f ∈ given, f ∈ p.workFlags
  once : given.Nodup
  written : arguments = given.map Flag.written ∨ arguments = given.map Flag.written ++ ["--"]

namespace Program.Accepts

variable {p : Program} {text : String} {rest : List String} {f : Flag} {given : List Flag}

theorem cons (h : p.Accepts rest given) (hwork : f ∈ p.workFlags) (hf : f ∉ given) :
    p.Accepts (f.written :: rest) (f :: given) where
  known g hg := by
    rcases List.mem_cons.1 hg with rfl | hg
    · exact hwork
    · exact h.known g hg
  once := List.nodup_cons.2 ⟨hf, h.once⟩
  written := by
    rcases h.written with rfl | rfl
    · exact .inl rfl
    · exact .inr rfl

/-- Accepted arguments that do not start with a separator start with a flag. -/
theorem of_cons (h : p.Accepts (text :: rest) given) (htext : text ≠ "--") :
    ∃ f more, given = f :: more ∧ text = f.written ∧ f ∈ p.workFlags ∧ f ∉ more ∧
      p.Accepts rest more := by
  cases given with
  | nil =>
    rcases h.written with hwritten | hwritten
    · cases hwritten
    · exact absurd (List.cons.inj hwritten).1 htext
  | cons f more =>
    obtain ⟨hf, honce⟩ := List.nodup_cons.1 h.once
    have hknown : ∀ g ∈ more, g ∈ p.workFlags :=
      fun g hg => h.known g (List.mem_cons_of_mem f hg)
    have hfirst := h.known f List.mem_cons_self
    rcases h.written with hwritten | hwritten
    · obtain ⟨rfl, hrest⟩ := List.cons.inj hwritten
      exact ⟨f, more, rfl, rfl, hfirst, hf, hknown, honce, .inl hrest⟩
    · obtain ⟨rfl, hrest⟩ := List.cons.inj hwritten
      exact ⟨f, more, rfl, rfl, hfirst, hf, hknown, honce, .inr hrest⟩

/-- Nothing follows a separator in accepted arguments. -/
theorem of_separator (h : p.Accepts ("--" :: rest) given) : given = [] ∧ rest = [] := by
  cases given with
  | nil =>
    rcases h.written with hwritten | hwritten
    · cases hwritten
    · exact ⟨rfl, (List.cons.inj hwritten).2⟩
  | cons f more =>
    have hdashes : "--" ≠ f.written := by cases f <;> decide
    rcases h.written with hwritten | hwritten
    · exact absurd (List.cons.inj hwritten).1 hdashes
    · exact absurd (List.cons.inj hwritten).1 hdashes

end Program.Accepts

/-! ## One argument -/

theorem Flag.written_eq (f : Flag) : f.written = String.ofList ('-' :: '-' :: f.name.toList) := by
  cases f <;> rfl

namespace Argument

theorem ofText_separator : ofText "--" = .separator := by decide

/-- The form of a flag as it is written. -/
theorem ofText_written (f : Flag) : ofText f.written = .long f.name none := by
  cases f <;> decide

theorem eq_of_ofText_eq_separator {text : String} (h : ofText text = .separator) :
    text = "--" := by
  rw [ofText] at h
  split at h
  · next htext =>
    rw [← String.toList_inj, htext]
    rfl
  · next rest _ _ =>
    simp only at h
    cases hvalue : rest.dropWhile (· != '=') <;> rw [hvalue] at h <;> cases h
  · cases h
  · cases h

/-- A long form without a value is the name after two dashes. -/
theorem eq_of_ofText_eq_long {text name : String} (h : ofText text = .long name none) :
    text = String.ofList ('-' :: '-' :: name.toList) := by
  rw [ofText] at h
  split at h
  · cases h
  · next rest _ htext =>
    simp only at h
    cases hvalue : rest.dropWhile (· != '=') with
    | cons c value => rw [hvalue] at h; cases h
    | nil =>
      rw [hvalue] at h
      -- no equals sign was found, so the name is all of the rest
      have hname : rest.takeWhile (· != '=') = rest := by
        have hsplit := List.takeWhile_append_dropWhile (p := (· != '=')) (l := rest)
        rwa [hvalue, List.append_nil] at hsplit
      rw [hname] at h
      injection h with hname
      rw [← hname, String.toList_ofList, ← htext, String.ofList_toList]
  · cases h
  · cases h

end Argument

namespace Flag

theorem mem_workFlags_iff {p : Program} {f : Flag} :
    f ∈ p.workFlags ↔ p = .demo ∧ (f = .json ∨ f = .showConfig) := by
  cases p <;> cases f <;> decide

theorem meet_of_mem_workFlags {p : Program} {f : Flag} (hf : f ∈ p.workFlags)
    (given : List Flag) :
    f.meet given =
      if given.contains f then .error (.refused (.repeated f)) else .ok (given ++ [f]) := by
  rcases (mem_workFlags_iff.1 hf).2 with rfl | rfl <;> rfl

theorem flag?_name {p : Program} {f : Flag} (hf : f ∈ p.workFlags) : p.flag? f.name = some f := by
  obtain ⟨rfl, rfl | rfl⟩ := mem_workFlags_iff.1 hf <;> rfl

theorem mem_workFlags_or_of_mem_flags {p : Program} {f : Flag} (hf : f ∈ p.flags) :
    f ∈ p.workFlags ∨ f = .help ∨ f = .version := by
  revert f
  cases p <;> decide

/-- A flag goes on only if it changes the work and is not given yet. -/
theorem meet_eq_ok {p : Program} {f : Flag} {given next : List Flag} (hf : f ∈ p.flags)
    (h : f.meet given = .ok next) : f ∈ p.workFlags ∧ f ∉ given ∧ next = given ++ [f] := by
  rcases mem_workFlags_or_of_mem_flags hf with hwork | rfl | rfl
  · rw [meet_of_mem_workFlags hwork] at h
    split at h
    · cases h
    · next hgiven =>
      refine ⟨hwork, fun hmem => hgiven (List.contains_iff_mem.2 hmem), ?_⟩
      exact (Except.ok.inj h).symm
  · cases h
  · cases h

theorem meet_ne_work (f : Flag) (given final : List Flag) :
    f.meet given ≠ .error (.work final) := by
  intro h
  rw [meet.eq_def] at h
  split at h
  · cases h
  · cases h
  · split at h <;> cases h

end Flag

namespace Argument

/-- Reading goes on after an argument that is a flag of the work and not given yet, and after
no other, separators apart. -/
theorem meet_ofText_eq_ok_iff {p : Program} {given next : List Flag} {text : String}
    (htext : text ≠ "--") :
    (ofText text).meet p given = .ok next ↔
      ∃ f ∈ p.workFlags, f ∉ given ∧ text = f.written ∧ next = given ++ [f] := by
  constructor
  · intro h
    cases hform : ofText text with
    | separator => exact absurd (eq_of_ofText_eq_separator hform) htext
    | positional other => rw [hform] at h; cases h
    | short letter =>
      rw [hform, meet] at h
      split at h
      · next f hletter =>
        -- letters only ask for answers
        have hanswer : f = .help ∨ f = .version := by
          rw [Flag.ofLetter?.eq_def] at hletter
          split at hletter <;> cases hletter <;> simp
        rcases hanswer with rfl | rfl <;> cases h
      · cases h
    | long name value =>
      rw [hform, meet.eq_def] at h
      cases hflag : p.flag? name with
      | none => simp [hflag] at h
      | some f =>
        cases value with
        | some value => simp [hflag] at h
        | none =>
          simp only [hflag] at h
          obtain ⟨hwork, hgiven, hnext⟩ := Flag.meet_eq_ok (List.mem_of_find?_eq_some hflag) h
          have hname : f.name = name := by simpa using List.find?_some hflag
          refine ⟨f, hwork, hgiven, ?_, hnext⟩
          rw [eq_of_ofText_eq_long hform, Flag.written_eq, hname]
  · intro hflag
    obtain ⟨f, hwork, hgiven, rfl, rfl⟩ := hflag
    have hnot : given.contains f = false := by
      rw [Bool.eq_false_iff]
      exact fun h => hgiven (List.contains_iff_mem.1 h)
    rw [ofText_written, meet.eq_def]
    simp only [Flag.flag?_name hwork]
    rw [Flag.meet_of_mem_workFlags hwork, hnot]
    rfl

theorem meet_ne_work (p : Program) (a : Argument) (given final : List Flag) :
    a.meet p given ≠ .error (.work final) := by
  intro h
  cases a with
  | separator => cases h
  | positional text => cases h
  | short letter =>
    rw [meet] at h
    split at h
    · exact Flag.meet_ne_work _ _ _ h
    · cases h
  | long name value =>
    rw [meet.eq_def] at h
    simp only at h
    split at h
    · exact Flag.meet_ne_work _ _ _ h
    · cases h
    · cases h

end Argument

/-! ## All arguments -/

/-- Nothing may follow a separator. -/
theorem readFrom_separator_eq_work_iff {p : Program} {given final : List Flag}
    {rest : List String} :
    readFrom p given ("--" :: rest) = .work final ↔ rest = [] ∧ final = given := by
  rw [readFrom.eq_def]
  simp only [Argument.ofText_separator]
  cases rest with
  | nil => simp [eq_comm]
  | cons next rest => simp

section
variable {p : Program} {given next : List Flag} {text : String} {request : Request}

theorem readFrom_cons_of_ok (htext : text ≠ "--")
    (hmeet : (Argument.ofText text).meet p given = .ok next) (rest : List String) :
    readFrom p given (text :: rest) = readFrom p next rest := by
  rw [readFrom.eq_def]
  cases hform : Argument.ofText text with
  | separator => exact absurd (Argument.eq_of_ofText_eq_separator hform) htext
  | long name value | short letter | positional other =>
    rw [hform] at hmeet
    simp only [hform, hmeet]

theorem readFrom_cons_of_error (htext : text ≠ "--")
    (hmeet : (Argument.ofText text).meet p given = .error request) (rest : List String) :
    readFrom p given (text :: rest) = request := by
  rw [readFrom.eq_def]
  cases hform : Argument.ofText text with
  | separator => exact absurd (Argument.eq_of_ofText_eq_separator hform) htext
  | long name value | short letter | positional other =>
    rw [hform] at hmeet
    simp only [hform, hmeet]

end

/-- Reading from some flags on ends in the work exactly if the rest of the arguments gives
flags of the work that are new. The induction is on the arguments; the flags that are given
already grow along. -/
theorem readFrom_eq_work_iff {p : Program} {arguments : List String} {given final : List Flag} :
    readFrom p given arguments = .work final ↔
      ∃ more, final = given ++ more ∧ (∀ f ∈ more, f ∉ given) ∧ p.Accepts arguments more := by
  induction arguments generalizing given with
  | nil =>
    rw [readFrom]
    constructor
    · intro h
      injection h with h
      refine ⟨[], by rw [h, List.append_nil], fun f hf => absurd hf List.not_mem_nil, ?_⟩
      exact ⟨fun f hf => absurd hf List.not_mem_nil, List.nodup_nil, .inl rfl⟩
    · intro hmore
      obtain ⟨more, rfl, -, haccepts⟩ := hmore
      cases more with
      | nil => rw [List.append_nil]
      | cons f more => rcases haccepts.written with h | h <;> cases h
  | cons text rest ih =>
    by_cases htext : text = "--"
    · subst htext
      rw [readFrom_separator_eq_work_iff]
      constructor
      · intro hend
        obtain ⟨rfl, rfl⟩ := hend
        refine ⟨[], (List.append_nil _).symm, fun f hf => absurd hf List.not_mem_nil, ?_⟩
        exact ⟨fun f hf => absurd hf List.not_mem_nil, List.nodup_nil, .inr rfl⟩
      · intro hmore
        obtain ⟨more, rfl, -, haccepts⟩ := hmore
        obtain ⟨rfl, rfl⟩ := haccepts.of_separator
        exact ⟨rfl, List.append_nil given⟩
    · constructor
      · intro h
        cases hmeet : (Argument.ofText text).meet p given with
        | error request =>
          rw [readFrom_cons_of_error htext hmeet] at h
          rw [h] at hmeet
          exact absurd hmeet (Argument.meet_ne_work _ _ _ _)
        | ok next =>
          rw [readFrom_cons_of_ok htext hmeet] at h
          obtain ⟨f, hwork, hgiven, rfl, rfl⟩ := (Argument.meet_ofText_eq_ok_iff htext).1 hmeet
          obtain ⟨more, rfl, hnew, haccepts⟩ := ih.1 h
          -- what follows is new to the flags so far, and this one is among them
          have hf : f ∉ more := fun hmem => hnew f hmem (List.mem_append_right given (by simp))
          refine ⟨f :: more, List.append_assoc .., fun g hg => ?_, haccepts.cons hwork hf⟩
          rcases List.mem_cons.1 hg with rfl | hg
          · exact hgiven
          · exact fun hmem => hnew g hg (List.mem_append_left _ hmem)
      · intro hmore
        obtain ⟨more, rfl, hnew, haccepts⟩ := hmore
        obtain ⟨f, more, rfl, rfl, hwork, hf, haccepts⟩ := haccepts.of_cons htext
        have hmeet : (Argument.ofText f.written).meet p given = .ok (given ++ [f]) :=
          (Argument.meet_ofText_eq_ok_iff htext).2
            ⟨f, hwork, hnew f List.mem_cons_self, rfl, rfl⟩
        rw [readFrom_cons_of_ok htext hmeet]
        refine ih.2 ⟨more, List.append_cons .., fun g hg hmem => ?_, haccepts⟩
        rcases List.mem_append.1 hmem with hmem | hmem
        · exact hnew g (List.mem_cons_of_mem f hg) hmem
        · rw [List.mem_singleton.1 hmem] at hg
          exact hf hg

/-- The arguments that lead to the work, and the flags that they give. -/
theorem Program.read_eq_work_iff {p : Program} {arguments : List String} {given : List Flag} :
    p.read arguments = .work given ↔ p.Accepts arguments given := by
  rw [read, readFrom_eq_work_iff]
  constructor
  · intro hmore
    obtain ⟨more, rfl, -, h⟩ := hmore
    exact h
  · intro h
    exact ⟨given, rfl, fun f _ => List.not_mem_nil, h⟩

end LinkReport.CommandLine
