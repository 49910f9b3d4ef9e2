import LinkReport.Proofs.Session

/-!
# Sessions in a process

One more thing lasts in a process than a session shows. The first startup installs a logger for
the whole process, which records on standard error what the session does not record itself. A
later startup cannot install another; that is reported on standard error, and the startup goes
on. Without the logger and standard error, a session in a process is the session alone.

* `Process.shown_eq_run` a session in a process shows what the session alone answers
* `Process.logger_of_after` a logger stays once it is installed
-/

namespace LinkReport.Session

/-- A process in which a session runs. -/
structure Process where
  state : State
  /-- The filter of the logger of the whole process, once a startup has installed it. -/
  logger : Option Filter

/-- What a step leaves behind. -/
structure Outcome where
  reply : Reply
  /-- What the session records. -/
  log : String
  /-- What is written to standard error. -/
  stderr : String

/-- What the session shows of a step. -/
def Outcome.shown (outcome : Outcome) : Reply × String :=
  (outcome.reply, outcome.log)

namespace Process

/-- The process after a startup that would install a logger; the first one does. -/
def install (p : Process) (f : Filter) : Process :=
  { p with logger := p.logger.or (some f) }

/-- What a startup reports if it cannot install a logger. The reason is given by the library that
installs it. -/
def report (reason : String) (p : Process) : String :=
  if p.logger.isSome then s!"  [WARN] failed to initialize tracing subscriber: {reason}\n" else ""

/-- What the logger writes of events. It comes to see only those that the session does not record
itself. -/
def recorded (p : Process) (events : List Event) : String :=
  match p.state.filter, p.logger with
  | none, some f => f.log events
  | _, _ => ""

/-- Takes a step in a process. -/
def take (reason : String) (p : Process) : Step → Except Filter.Crash (Process × Outcome)
  | .query .startup => do
    let startup ← p.state.surroundings.start
    let next := p.install startup.filter
    .ok (next, {
      reply := .config startup.config, log := p.state.log startup.events,
      stderr := p.report reason ++ next.recorded startup.events })
  | .query q => do
    let (reply, events) ← q.answer p.state.surroundings
    .ok (p, { reply, log := p.state.log events, stderr := p.recorded events })
  | step => do
    let (state, reply, log) ← step.take p.state
    .ok ({ p with state }, { reply, log, stderr := "" })

/-- What the steps of a session leave behind in a process. -/
def run (reason : String) (p : Process) : List Step → Except Filter.Crash (List Outcome)
  | [] => .ok []
  | step :: steps => do
    let (next, outcome) ← p.take reason step
    let rest ← next.run reason steps
    .ok (outcome :: rest)

/-- The process after some steps. -/
def after (reason : String) (p : Process) : List Step → Except Filter.Crash Process
  | [] => .ok p
  | step :: steps => do
    let (next, _) ← p.take reason step
    next.after reason steps

/-- What a session in a process shows. -/
def shown (reason : String) (p : Process) (steps : List Step) :
    Except Filter.Crash (List (Reply × String)) :=
  (p.run reason steps).map (·.map Outcome.shown)

section
variable {reason : String} {p next : Process} {f : Filter} {step : Step} {steps : List Step}

/-! ## The session alone -/

theorem map_bind_ok {α β γ : Type} (x : Except Filter.Crash α) (f : α → β) (g : β → γ) :
    (x >>= fun a => .ok (f a)).map g = x >>= fun a => .ok (g (f a)) := by
  cases x <;> rfl

/-- A step in a process does what it does alone. -/
theorem map_take (reason : String) (p : Process) (step : Step) :
    (p.take reason step).map (fun x => (x.1.state, x.2.shown)) = step.take p.state := by
  cases step with
  | setVariables | unsetVariable | replaceEnvFile => rfl
  | logWith c =>
    refine (map_bind_ok ((Step.logWith c).take p.state) _ _).trans ?_
    cases (Step.logWith c).take p.state <;> rfl
  | logLoaded =>
    refine (map_bind_ok (Step.logLoaded.take p.state) _ _).trans ?_
    cases Step.logLoaded.take p.state <;> rfl
  | query q =>
    cases q with
    | answers | report | selfTest | evaluate | verdict | environmentConfig => rfl
    | configOf vars => exact map_bind_ok ((Query.configOf vars).answer p.state.surroundings) _ _
    | loadedConfig => exact map_bind_ok (Query.loadedConfig.answer p.state.surroundings) _ _
    | filterOf c => exact map_bind_ok ((Query.filterOf c).answer p.state.surroundings) _ _
    | line v => exact map_bind_ok ((Query.line v).answer p.state.surroundings) _ _
    | startup =>
      refine (map_bind_ok p.state.surroundings.start _ _).trans ?_
      rw [Step.take, Query.answer]
      cases p.state.surroundings.start <;> rfl

theorem of_take_eq_ok {outcome : Outcome} (h : p.take reason step = .ok (next, outcome)) :
    step.take p.state = .ok (next.state, outcome.reply, outcome.log) := by
  rw [← map_take reason p step, h]
  rfl

theorem of_take_eq_error {crash : Filter.Crash} (h : p.take reason step = .error crash) :
    step.take p.state = .error crash := by
  rw [← map_take reason p step, h]
  rfl

/-- A session in a process shows what the session alone answers. What a startup installs, and
what is written to standard error, never shows. -/
theorem shown_eq_run (reason : String) (p : Process) (steps : List Step) :
    p.shown reason steps = Session.run p.state steps := by
  induction steps generalizing p with
  | nil => rfl
  | cons step steps ih =>
    rw [shown, run, Session.run]
    cases htake : p.take reason step with
    | error crash =>
      rw [of_take_eq_error htake]
      rfl
    | ok x =>
      obtain ⟨next, outcome⟩ := x
      rw [of_take_eq_ok htake]
      show Except.map _ (next.run reason steps >>= fun rest => .ok (outcome :: rest)) =
        (Session.run next.state steps >>= fun rest => .ok ((outcome.reply, outcome.log) :: rest))
      rw [← ih next, shown]
      cases next.run reason steps <;> rfl

theorem map_after (reason : String) (p : Process) (steps : List Step) :
    (p.after reason steps).map Process.state = p.state.after steps := by
  induction steps generalizing p with
  | nil => rfl
  | cons step steps ih =>
    rw [after, State.after]
    cases htake : p.take reason step with
    | error crash =>
      rw [of_take_eq_error htake]
      rfl
    | ok x =>
      rw [of_take_eq_ok htake]
      exact ih x.1

theorem exists_after_iff {t : State} :
    (∃ next, p.after reason steps = .ok next ∧ next.state = t) ↔ p.state.after steps = .ok t := by
  rw [← map_after reason p steps]
  cases p.after reason steps with
  | error crash => exact iff_of_false (fun ⟨_, h, _⟩ => by cases h) nofun
  | ok next => simp [Except.map]

theorem after_append (h : p.after reason steps = .ok next) (later : List Step) :
    p.after reason (steps ++ later) = next.after reason later := by
  induction steps generalizing p with
  | nil => cases h; rfl
  | cons step steps ih =>
    obtain ⟨⟨between, outcome⟩, htake, hafter⟩ := of_bind_eq_ok h
    rw [List.cons_append, after, htake]
    exact ih hafter

/-! ## The logger -/

/-- Only a startup installs a logger, that of its configuration, and only if there is none. -/
theorem logger_cases {outcome : Outcome} (h : p.take reason step = .ok (next, outcome)) :
    next.logger = p.logger ∨ step = .query .startup ∧
      ∃ f, Filter.ofConfig p.state.surroundings.config = .ok f ∧
        next.logger = p.logger.or (some f) := by
  cases step with
  | setVariables | unsetVariable | replaceEnvFile => cases h; exact .inl rfl
  | logWith | logLoaded =>
    obtain ⟨x, -, hnext⟩ := of_bind_eq_ok h
    cases hnext
    exact .inl rfl
  | query q =>
    cases q with
    | answers | report | selfTest | evaluate | verdict | environmentConfig =>
      cases h
      exact .inl rfl
    | configOf | loadedConfig | filterOf | line =>
      obtain ⟨x, -, hnext⟩ := of_bind_eq_ok h
      cases hnext
      exact .inl rfl
    | startup =>
      obtain ⟨startup, hstart, hnext⟩ := of_bind_eq_ok h
      cases hnext
      exact .inr ⟨rfl, startup.filter, (Surroundings.of_start_eq_ok hstart).1, rfl⟩

/-- A logger that is installed stays, however many startups follow. -/
theorem logger_of_after (h : p.after reason steps = .ok next) (hlogger : p.logger = some f) :
    next.logger = some f := by
  induction steps generalizing p with
  | nil => cases h; exact hlogger
  | cons step steps ih =>
    obtain ⟨⟨between, outcome⟩, htake, hafter⟩ := of_bind_eq_ok h
    refine ih hafter ?_
    rcases logger_cases htake with hkept | ⟨-, g, -, hinstalled⟩
    · rw [hkept, hlogger]
    · rw [hinstalled, hlogger, Option.some_or]

end
end Process
end LinkReport.Session
