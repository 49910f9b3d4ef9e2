import LinkReport.Proofs.Session
import Mathlib.Data.List.Basic

/-!
# Sessions at two levels

A session may leave open up to which level it records events. Filled with two levels, of which
the second lets through all that the first does, it is the same session twice: it breaks off in
both or in neither, and every step has the same reply, but for those that tell the filter of the
level itself. What is recorded at the first level is recorded at the second, too, in the same
order. Nothing is recorded where events are recorded up to `off`.

* `Filter.admits_upTo_iff` what passes at a level
* `OpenStep.take_fill` one step at two levels
* `run_of_verbosity_le` a whole session at two levels
-/

namespace LinkReport

/-- Every event has a level that something is recorded at. -/
theorem Event.verbosity_level_pos (e : Event) : 0 < e.level.verbosity := by
  cases e <;> exact Nat.zero_lt_succ _

/-! ## The filter for a level alone -/

/-- The configuration with a level and without a filter. -/
def Config.upTo (l : Filter.LevelName) : Config :=
  ⟨String.ofList l.text, none⟩

namespace Filter
variable {a b : LevelName} {e : Event}

/-- The filter for a level. -/
def upTo (l : LevelName) : Filter :=
  ofDirectives ([Plain.level l].map Plain.directive)

theorem ofConfig_upTo (l : LevelName) : ofConfig (Config.upTo l) = .ok (upTo l) := by
  rw [ofConfig_of_unusable (by intro text h; cases h), Config.upTo,
    show l.text = (Plain.level l).text from rfl, ← write_singleton, read?, read_write]
  rfl

/-- At a level the events pass that are not more verbose. -/
theorem admits_upTo_iff : (upTo a).admits e = true ↔ e.level.verbosity ≤ a.level.verbosity := by
  rw [upTo, admits_iff_passes, passes_singleton_iff]
  exact and_iff_right List.nil_prefix

/-- What passes at a level passes at one that is at least as verbose. -/
theorem admits_upTo_of_le (h : a.level.verbosity ≤ b.level.verbosity)
    (ha : (upTo a).admits e = true) : (upTo b).admits e = true :=
  admits_upTo_iff.2 (Nat.le_trans (admits_upTo_iff.1 ha) h)

theorem not_admits_upTo_off (h : a.level = .off) : (upTo a).admits e = false := by
  rw [Bool.eq_false_iff, Ne, admits_upTo_iff, h]
  exact Nat.not_le_of_gt e.verbosity_level_pos

end Filter

namespace Session

/-! ## What a session records -/

/-- The records of events, in order. -/
def recordsOf (events : List Event) : String :=
  String.join (events.map Event.record)

/-- The session records the event. -/
def State.records (s : State) (e : Event) : Bool :=
  s.filter.any (·.admits e)

theorem State.log_eq_recordsOf (s : State) (events : List Event) :
    s.log events = recordsOf (events.filter s.records) := by
  cases hfilter : s.filter with
  | none =>
    have hnone : events.filter s.records = [] :=
      List.filter_eq_nil_iff.2 fun e _ => by simp [records, hfilter]
    rw [log, hfilter, hnone]
    rfl
  | some f =>
    have hrecords : s.records = f.admits := by
      funext e
      rw [records, hfilter, Option.any_some]
    rw [log, hfilter, hrecords]
    rfl

/-- The first state records nothing that the second does not, and has the same surroundings. -/
structure State.Quieter (s t : State) : Prop where
  surroundings : s.surroundings = t.surroundings
  records : ∀ e, s.records e = true → t.records e = true

variable {s t : State}

theorem State.Quieter.refl (s : State) : s.Quieter s :=
  ⟨rfl, fun _ h => h⟩

theorem State.Quieter.withSurroundings (h : s.Quieter t) (surroundings : Surroundings) :
    State.Quieter { s with surroundings } { t with surroundings } :=
  ⟨rfl, h.records⟩

theorem State.Quieter.withFilter (h : s.Quieter t) {f g : Filter}
    (hfilter : ∀ e, f.admits e = true → g.admits e = true) :
    State.Quieter { s with filter := some f } { t with filter := some g } :=
  ⟨h.surroundings, hfilter⟩

/-! ## Steps at a level -/

/-- A step of a session in which a level is left open. -/
inductive OpenStep where
  | fixed (step : Step)
  /-- Records events up to the level from now on. -/
  | logUpTo

namespace OpenStep

/-- The step with a level in the open place. -/
def fill (l : Filter.LevelName) : OpenStep → Step
  | fixed step => step
  | logUpTo => .logWith (.upTo l)

/-- The step chooses the filter of the session's log. -/
def setsFilter : OpenStep → Bool
  | fixed step => step.setsFilter
  | logUpTo => true

/-- The answers of a step at two levels: the replies are the same, unless they tell the filter
of the level, and the second log may hold more records of what the query tells. -/
inductive Quieter : OpenStep → Reply × String → Reply × String → Prop where
  | query {q : Query} {s : Surroundings} {reply : Reply} {told recorded kept : List Event}
      (hanswer : q.answer s = .ok (reply, told)) (hrecorded : recorded.Sublist told)
      (hkept : kept.Sublist recorded) :
      Quieter (.fixed (.query q)) (reply, recordsOf kept) (reply, recordsOf recorded)
  | silent {step : Step} (reply : Reply) (hstep : ∀ q, step ≠ .query q) :
      Quieter (.fixed step) (reply, "") (reply, "")
  | logUpTo (reply reply' : Reply) : Quieter .logUpTo (reply, "") (reply', "")

/-- Two runs of a step break off alike, or lead to states and answers of which the first are
quieter. -/
inductive Outcomes (step : OpenStep) :
    Except Filter.Crash (State × Reply × String) → Except Filter.Crash (State × Reply × String) →
      Prop where
  | crash (crash : Filter.Crash) : Outcomes step (.error crash) (.error crash)
  | ok {s t : State} {x y : Reply × String} (hstate : s.Quieter t) (hanswer : step.Quieter x y) :
      Outcomes step (.ok (s, x)) (.ok (t, y))

variable {a b : Filter.LevelName}

/-- A step does the same at two levels, but for what is recorded from then on. -/
theorem take_fill (hle : a.level.verbosity ≤ b.level.verbosity) (h : s.Quieter t)
    (step : OpenStep) : step.Outcomes ((step.fill a).take s) ((step.fill b).take t) := by
  obtain ⟨surroundings, filter⟩ := s
  obtain ⟨surroundings', filter'⟩ := t
  obtain rfl : surroundings = surroundings' := h.surroundings
  cases step with
  | logUpTo =>
    rw [fill, fill, Step.take, Step.take, Filter.ofConfig_upTo, Filter.ofConfig_upTo]
    exact .ok (h.withFilter fun e => Filter.admits_upTo_of_le hle) (.logUpTo _ _)
  | fixed step =>
    cases step with
    | setVariables vars => exact .ok (h.withSurroundings _) (.silent _ (by simp))
    | unsetVariable name => exact .ok (h.withSurroundings _) (.silent _ (by simp))
    | replaceEnvFile entry => exact .ok (h.withSurroundings _) (.silent _ (by simp))
    | logWith c =>
      rw [fill, fill, Step.take, Step.take]
      cases Filter.ofConfig c with
      | error crash => exact .crash crash
      | ok f => exact .ok (h.withFilter fun _ he => he) (.silent _ (by simp))
    | logLoaded =>
      rw [fill, fill, Step.take, Step.take]
      cases Filter.ofConfig surroundings.config with
      | error crash => exact .crash crash
      | ok f => exact .ok (h.withFilter fun _ he => he) (.silent _ (by simp))
    | query q =>
      rw [fill, fill, Step.take, Step.take]
      cases hanswer : q.answer surroundings with
      | error crash => exact .crash crash
      | ok x =>
        obtain ⟨reply, told⟩ := x
        show Outcomes _ (.ok (_, reply, State.log _ told)) (.ok (_, reply, State.log _ told))
        rw [State.log_eq_recordsOf, State.log_eq_recordsOf]
        exact .ok h (.query hanswer List.filter_sublist (List.monotone_filter_right told h.records))

end OpenStep

/-! ## Sessions at a level -/

/-- The answers of the steps of a session at two levels. -/
inductive Quieter : List OpenStep → List (Reply × String) → List (Reply × String) → Prop where
  | nil : Quieter [] [] []
  | cons {step : OpenStep} {steps : List OpenStep} {x y : Reply × String}
      {quiet loud : List (Reply × String)} (hstep : step.Quieter x y)
      (hsteps : Quieter steps quiet loud) : Quieter (step :: steps) (x :: quiet) (y :: loud)

/-- The filter that the steps choose last is that for the open level. -/
def RecordsUpTo (steps : List OpenStep) : Prop :=
  ∃ before between, steps = before ++ .logUpTo :: between ∧
    ∀ step ∈ between, step.setsFilter = false

variable {a b : Filter.LevelName}

theorem run_of_take {step : Step} {x : Reply × String} (h : step.take s = .ok (t, x))
    (steps : List Step) : run s (step :: steps) = (run t steps).map (x :: ·) := by
  rw [run, h]
  show (run t steps >>= fun rest => .ok (x :: rest)) = _
  cases run t steps <;> rfl

/-- A session filled with two levels from two states of which the first is quieter. -/
theorem run_fill (hle : a.level.verbosity ≤ b.level.verbosity) (h : s.Quieter t)
    (steps : List OpenStep) :
    (∃ crash, run s (steps.map (·.fill a)) = .error crash ∧
        run t (steps.map (·.fill b)) = .error crash) ∨
      ∃ quiet loud, run s (steps.map (·.fill a)) = .ok quiet ∧
        run t (steps.map (·.fill b)) = .ok loud ∧ Quieter steps quiet loud := by
  induction steps generalizing s t with
  | nil => exact .inr ⟨[], [], rfl, rfl, .nil⟩
  | cons step steps ih =>
    have houtcomes := step.take_fill hle h
    generalize hquiet : (step.fill a).take s = x at houtcomes
    generalize hloud : (step.fill b).take t = y at houtcomes
    rw [List.map_cons, List.map_cons]
    cases houtcomes with
    | crash crash =>
      refine .inl ⟨crash, ?_, ?_⟩
      · rw [run, hquiet]
        rfl
      · rw [run, hloud]
        rfl
    | ok hstate hanswer =>
      rw [run_of_take hquiet, run_of_take hloud]
      rcases ih hstate with ⟨crash, hrest, hrest'⟩ | ⟨quiet, loud, hrest, hrest', hsteps⟩
      · rw [hrest, hrest']
        exact .inl ⟨crash, rfl, rfl⟩
      · rw [hrest, hrest']
        exact .inr ⟨_, _, rfl, rfl, .cons hanswer hsteps⟩

/-! ## A session that records nothing -/

theorem exists_events_of_take {step : Step} {reply : Reply} {log : String}
    (h : step.take s = .ok (t, reply, log)) : ∃ events, log = s.log events := by
  have hnothing : s.log [] = "" := by
    rw [State.log_eq_recordsOf]
    rfl
  cases step with
  | query q =>
    obtain ⟨events, -, -, hlog⟩ := take_query_eq_ok_iff.1 h
    exact ⟨events, hlog⟩
  | setVariables | unsetVariable | replaceEnvFile =>
    cases h
    exact ⟨[], hnothing.symm⟩
  | logWith | logLoaded =>
    obtain ⟨f, -, hf⟩ := of_bind_eq_ok h
    cases hf
    exact ⟨[], hnothing.symm⟩

theorem State.log_of_off {l : Filter.LevelName} (hl : l.level = .off)
    (h : s.filter = some (.upTo l)) (events : List Event) : s.log events = "" := by
  have hnone : events.filter s.records = [] := by
    refine List.filter_eq_nil_iff.2 fun e _ => ?_
    rw [records, h, Option.any_some, Filter.not_admits_upTo_off hl]
    exact Bool.false_ne_true
  rw [log_eq_recordsOf, hnone]
  rfl

theorem RecordsUpTo.lastChoice {earlier : List OpenStep} (h : RecordsUpTo earlier)
    (l : Filter.LevelName) : LastChoice (.upTo l) (earlier.map (·.fill l)) := by
  obtain ⟨before, between, rfl, hbetween⟩ := h
  refine ⟨before.map (·.fill l), between.map (·.fill l), by simp [OpenStep.fill], ?_⟩
  intro step hstep
  obtain ⟨openStep, hmem, rfl⟩ := List.mem_map.1 hstep
  have hsets := hbetween openStep hmem
  cases openStep with
  | fixed step => exact hsets
  | logUpTo => cases hsets

/-- After a choice of the level `off` nothing is recorded until another filter is chosen. -/
theorem log_of_recordsUpTo_off {l : Filter.LevelName} (hl : l.level = .off)
    {earlier later : List OpenStep} {step : OpenStep} {answers : List (Reply × String)}
    (hearlier : RecordsUpTo earlier)
    (hrun : run s ((earlier ++ step :: later).map (·.fill l)) = .ok answers) :
    ∃ reply, answers[earlier.length]? = some (reply, "") := by
  rw [List.map_append, List.map_cons] at hrun
  obtain ⟨t, first, rest, hafter, hrest, rfl, hlength⟩ := of_run_append hrun
  obtain ⟨next, reply, log, last, htake, -, rfl⟩ := run_cons_eq_ok_iff.1 hrest
  have hfilter : t.filter = some (.upTo l) :=
    filter_of_lastChoice (hearlier.lastChoice l) hafter (Filter.ofConfig_upTo l)
  obtain ⟨events, rfl⟩ := exists_events_of_take htake
  rw [List.length_map] at hlength
  refine ⟨reply, ?_⟩
  rw [State.log_of_off hl hfilter, ← hlength]
  simp

/-- A session at two levels, of which the second is at least as verbose, breaks off at both or
at neither. Every step but those that choose the level has the same reply, and its log at the
first level is that at the second without some of the records. At the level `off` nothing is
recorded while no other filter is chosen. -/
theorem run_of_verbosity_le (hle : a.level.verbosity ≤ b.level.verbosity) (s : State)
    (steps : List OpenStep) :
    (∃ crash, run s (steps.map (·.fill a)) = .error crash ∧
        run s (steps.map (·.fill b)) = .error crash) ∨
      ∃ quiet loud, run s (steps.map (·.fill a)) = .ok quiet ∧
        run s (steps.map (·.fill b)) = .ok loud ∧ Quieter steps quiet loud ∧
        (a.level = .off → ∀ earlier step later, steps = earlier ++ step :: later →
          RecordsUpTo earlier → ∃ reply, quiet[earlier.length]? = some (reply, "")) := by
  rcases run_fill hle (.refl s) steps with hcrash | ⟨quiet, loud, hquiet, hloud, hsteps⟩
  · exact .inl hcrash
  · refine .inr ⟨quiet, loud, hquiet, hloud, hsteps, ?_⟩
    rintro hoff earlier step later rfl hearlier
    exact log_of_recordsUpTo_off hoff hearlier hquiet

/-- A session that checks the library and compares two strings at a level. -/
def comparing : List OpenStep :=
  [.logUpTo, .fixed (.query .selfTest), .fixed (.query (.evaluate "a" "b"))]

/-- A state in which no filter is chosen yet. -/
def unfiltered : State :=
  ⟨⟨.empty, none⟩, none⟩

theorem run_comparing (l : Filter.LevelName) :
    run unfiltered (comparing.map (·.fill l)) = .ok
      [(.filter (.upTo l), ""),
        (.verdict .ofSelfTest, (Filter.upTo l).log Verdict.selfTestEvents),
        (.verdict (.evaluate "a" "b"),
          (Filter.upTo l).log (Verdict.evaluationEvents "a" "b"))] := by
  have htake : (Step.logWith (.upTo l)).take unfiltered =
      .ok (⟨unfiltered.surroundings, some (.upTo l)⟩, .filter (.upTo l), "") := by
    rw [Step.take, Filter.ofConfig_upTo]
    rfl
  exact run_of_take htake _

/-- At `error` the end of the self-test is not recorded but the mismatch is, and at `off` not
even that. -/
theorem run_of_verbosity_le_comparing :
    let off : Filter.LevelName := ⟨.off, "off".toList, by decide⟩
    let error : Filter.LevelName := ⟨.error, "error".toList, by decide⟩
    let debug : Filter.LevelName := ⟨.debug, "Debug".toList, by decide⟩
    error.level.verbosity ≤ debug.level.verbosity ∧
    (∃ quiet loud, run unfiltered (comparing.map (·.fill error)) = .ok quiet ∧
      run unfiltered (comparing.map (·.fill debug)) = .ok loud ∧ Quieter comparing quiet loud ∧
      quiet.map Prod.snd =
        ["", "", "ERROR cpp_example::selftest: string mismatch returned=a expected=b\n"] ∧
      loud.map Prod.snd =
        ["", "DEBUG cpp_example::selftest: self-test finished passed=true\n",
          "ERROR cpp_example::selftest: string mismatch returned=a expected=b\n"]) ∧
    off.level.verbosity ≤ error.level.verbosity ∧ off.level = .off ∧
    ∃ silent reply, run unfiltered (comparing.map (·.fill off)) = .ok silent ∧
      silent[2]? = some (reply, "") := by
  intro off error debug
  have hle : error.level.verbosity ≤ debug.level.verbosity := by decide
  have hoff : off.level.verbosity ≤ error.level.verbosity := by decide
  refine ⟨hle, ?_, hoff, rfl, ?_⟩
  · rcases run_of_verbosity_le hle unfiltered comparing with
      ⟨crash, hcrash, -⟩ | ⟨quiet, loud, hquiet, hloud, hsteps, -⟩
    · rw [run_comparing] at hcrash
      cases hcrash
    · refine ⟨quiet, loud, hquiet, hloud, hsteps, ?_, ?_⟩
      · rw [run_comparing] at hquiet
        rw [← Except.ok.inj hquiet]
        decide +kernel
      · rw [run_comparing] at hloud
        rw [← Except.ok.inj hloud]
        decide +kernel
  · rcases run_of_verbosity_le hoff unfiltered comparing with
      ⟨crash, hcrash, -⟩ | ⟨silent, loud, hsilent, -, -, hnothing⟩
    · rw [run_comparing] at hcrash
      cases hcrash
    · obtain ⟨reply, hreply⟩ := hnothing rfl [.logUpTo, .fixed (.query .selfTest)] _ [] rfl
        ⟨[], [.fixed (.query .selfTest)], rfl, by simp [OpenStep.setsFilter, Step.setsFilter]⟩
      exact ⟨silent, reply, hsilent, hreply⟩

end Session
end LinkReport
