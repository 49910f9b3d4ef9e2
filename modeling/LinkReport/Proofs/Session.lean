import LinkReport.Proofs.Filter.Admission
import LinkReport.Proofs.Startup
import LinkReport.Session

/-!
# Sessions

Of what lasts between the steps of a session, the filter is changed by two steps only. So
after the last of them every log goes through the filter that it chose, however the variables
and the environment file change.

* `filter_of_take` what one step leaves of the filter, and `filter_of_after` what many do
* `run_queries` queries that follow one another
* `Query.Emits` the events of each query
* `run_logs_passing_events` the logs after a filter of plain directives was chosen
-/

namespace LinkReport.Session

variable {s t : State} {step : Step} {steps earlier later : List Step} {reply : Reply}
  {log : String} {answers : List (Reply × String)} {c : Config} {q : Query}

/-! ## The state after some steps -/

/-- The state after some steps. -/
def State.after (s : State) : List Step → Except Filter.Crash State
  | [] => .ok s
  | step :: steps => do
    let (next, _, _) ← step.take s
    next.after steps

theorem State.after_cons_eq_ok_iff :
    s.after (step :: steps) = .ok t ↔
      ∃ next reply log, step.take s = .ok (next, reply, log) ∧ next.after steps = .ok t := by
  rw [after]
  rcases step.take s with crash | ⟨next, reply, log⟩ <;> simp [bind, Except.bind]

theorem State.after_append_eq_ok_iff :
    s.after (earlier ++ later) = .ok t ↔ ∃ u, s.after earlier = .ok u ∧ u.after later = .ok t := by
  induction earlier generalizing s with
  | nil => simp [after]
  | cons step earlier ih =>
    rw [List.cons_append, after_cons_eq_ok_iff]
    simp only [ih, after_cons_eq_ok_iff]
    constructor
    · rintro ⟨next, reply, log, htake, u, hearlier, hlater⟩
      exact ⟨u, ⟨next, reply, log, htake, hearlier⟩, hlater⟩
    · rintro ⟨u, ⟨next, reply, log, htake, hearlier⟩, hlater⟩
      exact ⟨next, reply, log, htake, u, hearlier, hlater⟩

theorem run_cons_eq_ok_iff :
    run s (step :: steps) = .ok answers ↔
      ∃ next reply log rest, step.take s = .ok (next, reply, log) ∧
        run next steps = .ok rest ∧ answers = (reply, log) :: rest := by
  rw [run]
  rcases step.take s with crash | ⟨next, reply, log⟩
  · simp [bind, Except.bind]
  · rcases h : run next steps with crash | rest
    · simp [bind, Except.bind, h]
    · simp [bind, Except.bind, h, eq_comm]

/-- After steps that come to their end a session goes on from the state that they lead to. Their
answers stand before the others. -/
theorem exists_run_append (h : s.after earlier = .ok t) :
    ∃ first, first.length = earlier.length ∧
      ∀ later, run s (earlier ++ later) = (run t later).map (first ++ ·) := by
  induction earlier generalizing s with
  | nil =>
    cases h
    refine ⟨[], rfl, fun later => ?_⟩
    rw [List.nil_append]
    cases run t later <;> rfl
  | cons step earlier ih =>
    obtain ⟨next, reply, log, htake, hafter⟩ := State.after_cons_eq_ok_iff.1 h
    obtain ⟨first, hlength, hrun⟩ := ih hafter
    refine ⟨(reply, log) :: first, by simp [hlength], fun later => ?_⟩
    rw [List.cons_append, run, htake]
    show (run next (earlier ++ later) >>= fun rest => .ok ((reply, log) :: rest)) = _
    rw [hrun]
    cases run t later <;> rfl

/-- A session ends where one of its steps breaks off. -/
theorem run_append_of_crash {crash : Filter.Crash} (h : s.after earlier = .error crash)
    (later : List Step) : run s (earlier ++ later) = .error crash := by
  induction earlier generalizing s with
  | nil => cases h
  | cons step earlier ih =>
    rw [State.after] at h
    rw [List.cons_append, run]
    cases htake : step.take s with
    | error crash' =>
      rw [htake] at h
      cases h
      rfl
    | ok x =>
      rw [htake] at h
      show (run x.1 (earlier ++ later) >>= fun rest => .ok ((x.2.1, x.2.2) :: rest)) = _
      rw [ih h]
      rfl

/-- The answers of a session are those of its earlier steps and then those of the later ones,
which start from the state after the earlier steps. -/
theorem of_run_append (h : run s (earlier ++ later) = .ok answers) :
    ∃ t first rest, s.after earlier = .ok t ∧ run t later = .ok rest ∧
      answers = first ++ rest ∧ first.length = earlier.length := by
  cases hafter : s.after earlier with
  | error crash =>
    rw [run_append_of_crash hafter] at h
    cases h
  | ok t =>
    obtain ⟨first, hlength, hrun⟩ := exists_run_append hafter
    rw [hrun] at h
    cases hlater : run t later with
    | error crash =>
      rw [hlater] at h
      cases h
    | ok rest =>
      rw [hlater] at h
      exact ⟨t, first, rest, rfl, hlater, (Except.ok.inj h).symm, hlength⟩

/-! ## The filter of a session -/

/-- The step chooses the filter of the session's log. -/
def Step.setsFilter : Step → Bool
  | .logWith _ | .logLoaded => true
  | .setVariables _ | .unsetVariable _ | .replaceEnvFile _ | .query _ => false

theorem take_query_eq_ok_iff :
    (Step.query q).take s = .ok (t, reply, log) ↔
      ∃ events, q.answer s.surroundings = .ok (reply, events) ∧ t = s ∧ log = s.log events := by
  rw [Step.take]
  rcases q.answer s.surroundings with crash | ⟨reply', events'⟩
  · simp [bind, Except.bind]
  · simp only [bind, Except.bind, Except.ok.injEq, Prod.mk.injEq]
    constructor
    · rintro ⟨rfl, rfl, rfl⟩
      exact ⟨events', ⟨rfl, rfl⟩, rfl, rfl⟩
    · rintro ⟨events, ⟨rfl, rfl⟩, rfl, rfl⟩
      exact ⟨rfl, rfl, rfl⟩

/-- Every step but the two that choose a filter keeps it. -/
theorem filter_of_take (h : step.take s = .ok (t, reply, log)) (hstep : step.setsFilter = false) :
    t.filter = s.filter := by
  cases step with
  | setVariables vars => cases h; rfl
  | unsetVariable name => cases h; rfl
  | replaceEnvFile entry => cases h; rfl
  | logWith c => cases hstep
  | logLoaded => cases hstep
  | query q =>
    obtain ⟨events, -, rfl, -⟩ := take_query_eq_ok_iff.1 h
    rfl

theorem filter_of_after (h : s.after steps = .ok t)
    (hsteps : ∀ step ∈ steps, step.setsFilter = false) : t.filter = s.filter := by
  induction steps generalizing s with
  | nil => cases h; rfl
  | cons step steps ih =>
    obtain ⟨next, reply, log, htake, hafter⟩ := State.after_cons_eq_ok_iff.1 h
    rw [ih hafter fun step' hstep' => hsteps step' (List.mem_cons_of_mem step hstep'),
      filter_of_take htake (hsteps step List.mem_cons_self)]

/-- The filter for `c` is the last that the steps choose. -/
def LastChoice (c : Config) (steps : List Step) : Prop :=
  ∃ before between, steps = before ++ .logWith c :: between ∧
    ∀ step ∈ between, step.setsFilter = false

theorem filter_of_lastChoice {f : Filter} (h : LastChoice c steps)
    (hafter : s.after steps = .ok t) (hf : Filter.ofConfig c = .ok f) : t.filter = some f := by
  obtain ⟨before, between, rfl, hbetween⟩ := h
  obtain ⟨u, -, hrest⟩ := State.after_append_eq_ok_iff.1 hafter
  obtain ⟨next, reply, log, htake, hlast⟩ := State.after_cons_eq_ok_iff.1 hrest
  rw [Step.take, hf] at htake
  cases htake
  -- what comes after the choice keeps it
  exact filter_of_after hlast hbetween

/-! ## Queries one after another -/

/-- The queries have these answers, with these events on the way. -/
def Tells (s : Surroundings) (qs : List Query) (told : List (Reply × List Event)) : Prop :=
  List.Forall₂ (fun q x => q.answer s = .ok x) qs told

/-- Queries leave the state as it is, so each is answered in the state before all of them, and
what follows them starts from it too. -/
theorem run_queries_append {qs : List Query} {told : List (Reply × List Event)}
    (h : Tells s.surroundings qs told) (later : List Step) :
    run s (qs.map .query ++ later) =
      (run s later).map (told.map (fun x => (x.1, s.log x.2)) ++ ·) := by
  induction h with
  | nil =>
    rw [List.map_nil, List.nil_append]
    cases run s later <;> rfl
  | @cons q x qs told hq _ ih =>
    have htake : (Step.query q).take s = .ok (s, x.1, s.log x.2) :=
      take_query_eq_ok_iff.2 ⟨x.2, hq, rfl, rfl⟩
    rw [List.map_cons, List.cons_append, run, htake]
    show (run s (qs.map .query ++ later) >>= fun rest => .ok ((x.1, s.log x.2) :: rest)) = _
    rw [ih]
    cases run s later <;> rfl

theorem run_queries {qs : List Query} {told : List (Reply × List Event)}
    (h : Tells s.surroundings qs told) :
    run s (qs.map .query) = .ok (told.map fun x => (x.1, s.log x.2)) := by
  have hrun := run_queries_append h []
  rw [List.append_nil] at hrun
  rw [hrun]
  exact congrArg Except.ok (List.append_nil _)

/-- Queries of which none breaks off tell something. -/
theorem exists_tells {s : Surroundings} {qs : List Query}
    (h : ∀ q ∈ qs, ∃ x, q.answer s = .ok x) : ∃ told, Tells s qs told := by
  induction qs with
  | nil => exact ⟨[], .nil⟩
  | cons q qs ih =>
    obtain ⟨x, hx⟩ := h q List.mem_cons_self
    obtain ⟨told, htold⟩ := ih fun q' hq' => h q' (List.mem_cons_of_mem q hq')
    exact ⟨x :: told, .cons hx htold⟩

/-- The same after the choice of the filter that a startup makes. -/
theorem run_logLoaded_queries {s : Surroundings} {f : Filter} (initial : Option Filter)
    {qs : List Query} {told : List (Reply × List Event)} (hf : Filter.ofConfig s.config = .ok f)
    (h : Tells s qs told) :
    run ⟨s, initial⟩ (.logLoaded :: qs.map .query)
      = .ok ((.config s.config, "") :: told.map fun x => (x.1, f.log x.2)) := by
  have htake : Step.logLoaded.take ⟨s, initial⟩ = .ok (⟨s, some f⟩, .config s.config, "") := by
    rw [Step.take, hf]
    rfl
  exact run_cons_eq_ok_iff.2 ⟨_, _, _, _, htake, run_queries h, rfl⟩

/-! ## The events of a query -/

/-- The query asks for something that is not told. -/
def Query.isSilent : Query → Bool
  | .report _ | .configOf _ | .environmentConfig | .loadedConfig | .filterOf _ | .line _ => true
  | .answers | .selfTest | .evaluate .. | .verdict _ | .startup => false

/-- What a query tells in some surroundings: the events, and for each of them its level and
the part of the program that it comes from. -/
inductive Query.Emits (s : Surroundings) : Query → List (Level × String) → List Event → Prop where
  | loaded {c : Config} (hload : s.load = .ok c) :
    Emits s .startup [(.debug, "cpp_example")] [.configurationLoaded c]
  | fallback {e : Config.LoadError} (hload : s.load = .error e) :
    Emits s .startup [(.warn, "cpp_example"), (.debug, "cpp_example")]
      [.loadFailed e, .configurationLoaded (Config.ofEnvironment s.environment)]
  | answers :
    Emits s .answers [(.debug, "cpp_example::example")] [.reportAssembled Report.current]
  | same {text : String} : Emits s (.evaluate text text) [] []
  | mismatch {returned expected : String} (hne : returned ≠ expected) :
    Emits s (.evaluate returned expected) [(.error, "cpp_example::selftest")]
      [.stringMismatch returned expected]
  | selfTest :
    Emits s .selfTest [(.debug, "cpp_example::selftest")] [.selfTestFinished true]
  /-- A verdict is judged by evaluating its strings once more. -/
  | verdict {v : Verdict} {heads : List (Level × String)} {events : List Event}
    (h : Emits s (.evaluate v.returned v.expected) heads events) : Emits s (.verdict v) heads events
  | silent {q : Query} (h : q.isSilent = true) : Emits s q [] []

theorem Query.Emits.map_events {s : Surroundings} {heads : List (Level × String)}
    {events : List Event} (h : q.Emits s heads events) :
    events.map (fun e => (e.level, e.target)) = heads := by
  induction h with
  | verdict h ih => exact ih
  | _ => rfl

theorem Query.emits_evaluationEvents (s : Surroundings) (returned expected : String) :
    ∃ heads, Emits s (.evaluate returned expected) heads
      (Verdict.evaluationEvents returned expected) := by
  rw [Verdict.evaluationEvents]
  by_cases h : returned = expected
  · rw [if_pos h, h]
    exact ⟨_, .same⟩
  · rw [if_neg h]
    exact ⟨_, .mismatch h⟩

/-- What follows the choice of a filter and tells nothing. -/
theorem Query.eq_nil_of_bind {α : Type} {x : Except Filter.Crash α} {f : α → Reply}
    {events : List Event} (h : (x >>= fun a => .ok (f a, [])) = .ok (reply, events)) :
    events = [] := by
  obtain ⟨a, -, hanswer⟩ := of_bind_eq_ok h
  cases hanswer
  rfl

theorem Query.exists_emits_of_answer {s : Surroundings} {events : List Event}
    (h : q.answer s = .ok (reply, events)) : ∃ heads, q.Emits s heads events := by
  cases q with
  | answers => cases h; exact ⟨_, .answers⟩
  | report r => cases h; exact ⟨_, .silent rfl⟩
  | selfTest => cases h; exact ⟨_, .selfTest⟩
  | evaluate returned expected => cases h; exact emits_evaluationEvents s returned expected
  | verdict v =>
    cases h
    obtain ⟨heads, hemits⟩ := emits_evaluationEvents s v.returned v.expected
    exact ⟨heads, .verdict hemits⟩
  | configOf vars =>
    obtain rfl := eq_nil_of_bind h
    exact ⟨_, .silent rfl⟩
  | environmentConfig => cases h; exact ⟨_, .silent rfl⟩
  | loadedConfig =>
    rw [answer] at h
    split at h <;> cases h <;> exact ⟨_, .silent rfl⟩
  | filterOf c =>
    obtain rfl := eq_nil_of_bind h
    exact ⟨_, .silent rfl⟩
  | line v =>
    rw [answer] at h
    split at h <;> cases h <;> exact ⟨_, .silent rfl⟩
  | startup =>
    rcases s.start_cases with ⟨-, hstart⟩ | ⟨-, f, -, hstart⟩
    · rw [answer, hstart] at h
      cases h
    · rw [answer, hstart] at h
      cases h
      show ∃ heads, Emits s .startup heads s.startupEvents
      rw [Surroundings.startupEvents]
      cases hload : s.load with
      | ok c => exact ⟨_, .loaded hload⟩
      | error e => exact ⟨_, .fallback hload⟩

/-! ## Logs after a choice of plain directives -/

/-- The log of the session holds the records of the events that pass. -/
theorem State.log_of_plain {ps : List Filter.Plain} {s : State}
    (h : s.filter = some (Filter.ofDirectives (ps.map Filter.Plain.directive)))
    (events : List Event) :
    s.log events = String.join ((events.filter (Filter.Passes ps ·)).map Event.record) := by
  have hadmits : ∀ e ∈ events, (Filter.ofDirectives (ps.map Filter.Plain.directive)).admits e
      = decide (Filter.Passes ps e) := fun e _ =>
    Bool.eq_iff_iff.2 (Filter.admits_iff_passes.trans decide_eq_true_iff.symm)
  rw [log, h]
  show Filter.log _ events = _
  rw [Filter.log, List.filter_congr hadmits]

/-- The choice of plain directives never breaks off, whatever level is given besides them.
From then on, until another filter is chosen, the log of each query holds the records of the
events that the query tells, in their order and only those that pass. -/
theorem run_logs_passing_events (ps : List Filter.Plain) (level : String) :
    (∃ f, Filter.ofConfig ⟨level, some (Filter.write ps)⟩ = .ok f) ∧
    ∀ (s : State) (earlier later : List Step) (q : Query) (answers : List (Reply × String)),
      LastChoice ⟨level, some (Filter.write ps)⟩ earlier →
      run s (earlier ++ .query q :: later) = .ok answers →
      ∃ t reply heads events, s.after earlier = .ok t ∧
        q.answer t.surroundings = .ok (reply, events) ∧
        q.Emits t.surroundings heads events ∧
        events.map (fun e => (e.level, e.target)) = heads ∧
        answers[earlier.length]? =
          some (reply, String.join ((events.filter (Filter.Passes ps ·)).map Event.record)) := by
  have hfilter := Filter.ofConfig_write level ps
  refine ⟨⟨_, hfilter⟩, fun s earlier later q answers hchoice hrun => ?_⟩
  obtain ⟨t, first, rest, hafter, hrest, rfl, hlength⟩ := of_run_append hrun
  obtain ⟨next, reply, log, last, htake, -, rfl⟩ := run_cons_eq_ok_iff.1 hrest
  obtain ⟨events, hanswer, -, rfl⟩ := take_query_eq_ok_iff.1 htake
  obtain ⟨heads, hemits⟩ := Query.exists_emits_of_answer hanswer
  refine ⟨t, reply, heads, events, hafter, hanswer, hemits, hemits.map_events, ?_⟩
  rw [← State.log_of_plain (filter_of_lastChoice hchoice hafter hfilter) events, ← hlength]
  simp

/-- The text of this filter is `info,cpp_example::self=ERROR,cpp_example=off`. -/
def errorsOfSelfTest : List Filter.Plain :=
  [.level ⟨.info, "info".toList, by decide⟩,
    .targetLevel ⟨"cpp_example::self".toList, by decide, List.all_eq_true.1 (by decide)⟩
      ⟨.error, "ERROR".toList, by decide⟩,
    .targetLevel ⟨"cpp_example".toList, by decide, List.all_eq_true.1 (by decide)⟩
      ⟨.off, "off".toList, by decide⟩]

/-- Steps of a session that choose this filter, and go on to something else. -/
def choosingErrors : List Step :=
  [.logWith ⟨"trace", some (Filter.write errorsOfSelfTest)⟩, .replaceEnvFile .absent]

/-- The longest scope decides, though a shorter one stands after it. -/
theorem run_logs_mismatch :
    ∃ answers reply, run ⟨⟨.empty, some ⟨"/srv", .directory⟩⟩, none⟩
        (choosingErrors ++ .query (.evaluate "a" "b") :: []) = .ok answers ∧
      answers[2]? =
        some (reply, "ERROR cpp_example::selftest: string mismatch returned=a expected=b\n") := by
  obtain ⟨⟨f, hf⟩, hlogs⟩ := run_logs_passing_events errorsOfSelfTest "trace"
  have hchosen (s : State) : (Step.logWith ⟨"trace", some (Filter.write errorsOfSelfTest)⟩).take s
      = .ok ({ s with filter := some f }, .filter f, "") := by
    rw [Step.take, hf]
    rfl
  obtain ⟨answers, hrun⟩ : ∃ answers, run ⟨⟨.empty, some ⟨"/srv", .directory⟩⟩, none⟩
      (choosingErrors ++ .query (.evaluate "a" "b") :: []) = .ok answers :=
    ⟨_, run_cons_eq_ok_iff.2 ⟨_, _, _, _, hchosen _, rfl, rfl⟩⟩
  have hlast : LastChoice ⟨"trace", some (Filter.write errorsOfSelfTest)⟩ choosingErrors :=
    ⟨[], [.replaceEnvFile .absent], rfl, by simp [Step.setsFilter]⟩
  obtain ⟨t, reply, heads, events, -, hanswer, -, -, hlog⟩ := hlogs _ _ _ _ _ hlast hrun
  have hrecords : String.join ((([.stringMismatch "a" "b"] : List Event).filter
      (Filter.Passes errorsOfSelfTest ·)).map Event.record)
        = "ERROR cpp_example::selftest: string mismatch returned=a expected=b\n" := by
    decide +kernel
  cases hanswer
  exact ⟨answers, _, hrun, hlog.trans (congrArg (fun text => some (_, text)) hrecords)⟩

end LinkReport.Session
