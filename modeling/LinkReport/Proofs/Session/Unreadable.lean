import LinkReport.Proofs.Config.Variables
import LinkReport.Proofs.Session

/-!
# Variables that hold no text

A variable whose value is not UTF-8 counts as unset, wherever it is looked up: as one of the two
that configure, and as a name in a value of the environment file. So two environments with the
same texts cannot be told apart, and a session stays the same if such a variable is removed where
it was set.

* `Surroundings.Agrees`, `State.Agrees` what a query can see of the variables
* `Config.IsLeftToFile` what the file decides about in place of the environment
* `Step.take_congr` one step from two states that agree
* `run_readable` the session without the values that hold no text
-/

namespace LinkReport

/-! ## Environments with the same texts -/

/-- The environment without the variables whose value is not UTF-8. -/
def Environment.readable (env : Environment) : Environment :=
  ⟨fun name => (env.value? name).filter fun value => (Text.ofUtf8? value).isSome⟩

theorem Environment.text?_readable (env : Environment) : env.readable.text? = env.text? := by
  funext name
  rw [text?, text?, readable]
  cases hvalue : env.value? name with
  | none => simp [hvalue]
  | some value => cases htext : Text.ofUtf8? value <;> simp [hvalue, htext, Option.filter]

section
variable {env env' : Environment}

theorem EnvFile.expand_eq (h : env.text? = env'.text?) : expand env = expand env' := by
  funext earlier name
  rw [expand, expand, h]

theorem Config.layered_eq (h : env.text? = env'.text?) : layered env = layered env' := by
  funext bindings key
  rw [layered, layered, h]

/-- The environment has a part in loading by its texts only. -/
theorem Config.load_eq (h : env.text? = env'.text?) (dir : Directory) :
    load env dir = load env' dir := by
  have hbind (earlier : List EnvFile.Binding) :
      EnvFile.bindEntries env earlier = EnvFile.bindEntries env' earlier := by
    funext entries
    rw [EnvFile.bindEntries, EnvFile.bindEntries, EnvFile.expand_eq h]
  rw [load_eq_map_entries, load_eq_map_entries, hbind, layered_eq h]

theorem Environment.text?_setAll (h : env.text? = env'.text?)
    (vars : List (String × List UInt8)) : (env.setAll vars).text? = (env'.setAll vars).text? := by
  induction vars generalizing env env' with
  | nil => exact h
  | cons v vars ih =>
    refine ih (funext fun other => ?_)
    rw [text?_set, text?_set, h]

theorem Environment.text?_unset_congr (h : env.text? = env'.text?) (name : String) :
    (env.unset name).text? = (env'.unset name).text? := by
  funext other
  rw [text?_unset, text?_unset, h]

end

/-- The file decides about a variable, where it configures and where a value mentions it. -/
structure Config.IsLeftToFile (env : Environment) (name : String) : Prop where
  /-- Every file is loaded as where the variable is not set. -/
  load_unset (dir : Directory) : load env dir = load (env.unset name) dir
  /-- The last value that the file binds to the variable configures. -/
  configures (dir : Directory) (entries : List EnvFile.Entry) (h : dir.entries = .ok entries) :
    ∃ c value?, load env dir = .ok c ∧
      EnvFile.lastValue? name.toList (EnvFile.bindEntries env [] entries) = value? ∧
      (name = logLevelKey → c.logLevel = (nonBlank? value?).getD defaultLogLevel) ∧
      (name = logFilterKey → c.logFilter = nonBlank? value?)
  /-- In a value the variable stands for what an earlier line binds last, or for nothing. -/
  expands (earlier : List EnvFile.Entry) (entry : EnvFile.Entry) :
    let bindings := EnvFile.bindEntries env [] earlier
    EnvFile.bindEntries env [] (earlier ++ [entry]) =
      bindings ++ [(entry.key, entry.template.fill fun mentioned =>
        if mentioned = name.toList then (EnvFile.lastValue? mentioned bindings).getD []
        else EnvFile.expand env bindings mentioned)]

section
variable {env : Environment} {name : String}

theorem Config.layered_of_unset (h : env.text? name = none) (bindings : List EnvFile.Binding) :
    layered env bindings name = EnvFile.lastValue? name.toList bindings := by
  rw [layered, h, Option.none_or]

theorem EnvFile.expand_of_unset (h : env.text? name = none) (earlier : List Binding) :
    expand env earlier name.toList = (lastValue? name.toList earlier).getD [] := by
  rw [expand, String.ofList_toList, h, Option.none_or]

theorem Config.isLeftToFile_of_unset (h : env.text? name = none) : IsLeftToFile env name where
  load_unset dir := by
    refine load_eq (funext fun other => ?_) dir
    rw [Environment.text?_unset]
    split
    · next hsame => rw [hsame, h]
    · rfl
  configures dir entries hentries := by
    have hload : load env dir =
        .ok (ofVariables (layered env (EnvFile.bindEntries env [] entries))) := by
      rw [load_eq_map_entries, hentries]
      rfl
    refine ⟨_, _, hload, rfl, ?_, ?_⟩
    · rintro rfl
      rw [ofVariables, layered_of_unset h]
    · rintro rfl
      rw [ofVariables, layered_of_unset h]
  expands earlier entry := by
    have hlookup : EnvFile.expand env (EnvFile.bindEntries env [] earlier) = fun mentioned =>
        if mentioned = name.toList then
          (EnvFile.lastValue? mentioned (EnvFile.bindEntries env [] earlier)).getD []
        else EnvFile.expand env (EnvFile.bindEntries env [] earlier) mentioned := by
      funext mentioned
      split
      · next hname => rw [hname, EnvFile.expand_of_unset h]
      · rfl
    rw [EnvFile.bindEntries_append_singleton, EnvFile.Entry.binding, hlookup]

end

/-- The surroundings have the same directory and variables of the same texts. -/
structure Surroundings.Agrees (s t : Surroundings) : Prop where
  texts : s.environment.text? = t.environment.text?
  directory : s.directory = t.directory

namespace Surroundings.Agrees
variable {s t : Surroundings}

theorem load_eq (h : s.Agrees t) : s.load = t.load := by
  rw [load, load, h.directory]
  cases t.directory with
  | none => rfl
  | some dir => exact Config.load_eq h.texts dir

theorem ofEnvironment_eq (h : s.Agrees t) :
    Config.ofEnvironment s.environment = Config.ofEnvironment t.environment := by
  rw [Config.ofEnvironment, Config.ofEnvironment, h.texts]

theorem config_eq (h : s.Agrees t) : s.config = t.config := by
  rw [config, config, h.load_eq, h.ofEnvironment_eq]

theorem start_eq (h : s.Agrees t) : s.start = t.start := by
  rw [start, start, h.config_eq, startupEvents, startupEvents, h.load_eq, h.ofEnvironment_eq]

theorem answer_eq (h : s.Agrees t) (q : Session.Query) : q.answer s = q.answer t := by
  cases q with
  | environmentConfig =>
    show Except.ok (Session.Reply.config (Config.ofEnvironment s.environment), []) = _
    rw [h.ofEnvironment_eq]
    rfl
  | loadedConfig => rw [Session.Query.answer, Session.Query.answer, h.load_eq]
  | startup => rw [Session.Query.answer, Session.Query.answer, h.start_eq]
  | answers | report | selfTest | evaluate | verdict | configOf | filterOf | line => rfl

end Surroundings.Agrees

namespace Session

/-! ## Sessions from states that agree -/

/-- The states have the same filter and surroundings that agree. -/
structure State.Agrees (s t : State) : Prop where
  surroundings : s.surroundings.Agrees t.surroundings
  filter : s.filter = t.filter

variable {s t u : State}

theorem State.Agrees.trans (h : s.Agrees t) (h' : t.Agrees u) : s.Agrees u :=
  ⟨⟨h.surroundings.texts.trans h'.surroundings.texts,
    h.surroundings.directory.trans h'.surroundings.directory⟩, h.filter.trans h'.filter⟩

theorem State.Agrees.withEnvironment (h : s.Agrees t) {env env' : Environment}
    (htexts : env.text? = env'.text?) : (s.withEnvironment env).Agrees (t.withEnvironment env') :=
  ⟨⟨htexts, h.surroundings.directory⟩, h.filter⟩

theorem State.Agrees.withEnvFile (h : s.Agrees t) (entry : Config.EnvFileEntry) :
    (s.withEnvFile entry).Agrees (t.withEnvFile entry) := by
  refine ⟨⟨h.surroundings.texts, ?_⟩, h.filter⟩
  rw [State.withEnvFile, State.withEnvFile, h.surroundings.directory]

theorem State.Agrees.withFilter (h : s.Agrees t) (f : Option Filter) :
    State.Agrees { s with filter := f } { t with filter := f } :=
  ⟨h.surroundings, rfl⟩

/-- The two outcomes are the same crash, or the same answer and log with states that agree. -/
inductive SameOutcome :
    Except Filter.Crash (State × Reply × String) → Except Filter.Crash (State × Reply × String) →
      Prop where
  | crash (crash : Filter.Crash) : SameOutcome (.error crash) (.error crash)
  | ok {s t : State} (h : s.Agrees t) (reply : Reply) (log : String) :
    SameOutcome (.ok (s, reply, log)) (.ok (t, reply, log))

/-- A step does the same in states that agree, and they still agree after it. -/
theorem Step.take_congr (h : s.Agrees t) (step : Step) :
    SameOutcome (step.take s) (step.take t) := by
  cases step with
  | setVariables vars =>
    exact .ok (h.withEnvironment (Environment.text?_setAll h.surroundings.texts vars)) _ _
  | unsetVariable name =>
    exact .ok (h.withEnvironment (Environment.text?_unset_congr h.surroundings.texts name)) _ _
  | replaceEnvFile entry => exact .ok (h.withEnvFile entry) _ _
  | logWith c =>
    rw [take, take]
    cases Filter.ofConfig c with
    | error crash => exact .crash crash
    | ok f => exact .ok (h.withFilter (some f)) _ _
  | logLoaded =>
    rw [take, take, h.surroundings.config_eq]
    cases Filter.ofConfig t.surroundings.config with
    | error crash => exact .crash crash
    | ok f => exact .ok (h.withFilter (some f)) _ _
  | query q =>
    rw [take, take, h.surroundings.answer_eq]
    cases q.answer t.surroundings with
    | error crash => exact .crash crash
    | ok x =>
      have hlog : s.log x.2 = t.log x.2 := by rw [State.log, State.log, h.filter]
      show SameOutcome (.ok (s, x.1, s.log x.2)) (.ok (t, x.1, t.log x.2))
      rw [hlog]
      exact .ok h _ _

/-! ## Sessions without unreadable values -/

/-- The step that does one assignment, or that removes the variable if its value is not
UTF-8. -/
def Step.assign (v : String × List UInt8) : Step :=
  if (Text.ofUtf8? v.2).isSome then .setVariables [v] else .unsetVariable v.1

/-- The steps in the place of a step, with each assignment of a value that is not UTF-8 replaced
by the removal of the variable. A step without such an assignment stays. -/
def Step.readable : Step → List Step
  | .setVariables vars =>
    if vars.all fun v => (Text.ofUtf8? v.2).isSome then [.setVariables vars]
    else vars.map assign
  | step => [step]

/-- The state without the variables whose value is not UTF-8. -/
def State.readable (s : State) : State :=
  s.withEnvironment s.surroundings.environment.readable

/-- The answers of steps, each repeated for all the steps in the place of its own. -/
def repeated (steps : List Step) (answers : List (Reply × String)) : List (Reply × String) :=
  (steps.zip answers).flatMap fun x => List.replicate x.1.readable.length x.2

theorem repeated_cons (step : Step) (steps : List Step) (answer : Reply × String)
    (answers : List (Reply × String)) :
    repeated (step :: steps) (answer :: answers) =
      List.replicate step.readable.length answer ++ repeated steps answers := by
  rw [repeated, List.zip_cons_cons, List.flatMap_cons]
  rfl

theorem Step.take_assign (s : State) (v : String × List UInt8) :
    ∃ t, (assign v).take s = .ok (t, .done, "") ∧
      (s.withEnvironment (s.surroundings.environment.set v.1 v.2)).Agrees t := by
  rw [assign]
  cases htext : Text.ofUtf8? v.2 with
  | some text => exact ⟨_, rfl, ⟨⟨rfl, rfl⟩, rfl⟩⟩
  | none =>
    refine ⟨_, rfl, ⟨⟨funext fun other => ?_, rfl⟩, rfl⟩⟩
    show (s.surroundings.environment.set v.1 v.2).text? other =
      (s.surroundings.environment.unset v.1).text? other
    rw [Environment.text?_set, Environment.text?_unset, htext]

/-- Assignments one by one lead to a state that agrees with the one after all of them at once. -/
theorem run_assign (h : s.Agrees t) (vars : List (String × List UInt8)) :
    ∃ u, (s.withEnvironment (s.surroundings.environment.setAll vars)).Agrees u ∧
      ∀ later, run t (vars.map Step.assign ++ later) =
        (run u later).map (List.replicate vars.length (.done, "") ++ ·) := by
  induction vars generalizing s t with
  | nil =>
    refine ⟨t, h, fun later => ?_⟩
    show run t later = _
    cases run t later <;> rfl
  | cons v vars ih =>
    obtain ⟨next, htake, hnext⟩ := Step.take_assign t v
    have hset : (s.withEnvironment (s.surroundings.environment.set v.1 v.2)).Agrees next :=
      (h.withEnvironment (Environment.text?_setAll h.surroundings.texts [v])).trans hnext
    obtain ⟨u, hu, hrun⟩ := ih hset
    refine ⟨u, hu, fun later => ?_⟩
    rw [List.map_cons, List.cons_append, run, htake]
    show (run next (vars.map Step.assign ++ later) >>= fun rest => .ok ((.done, "") :: rest)) = _
    rw [hrun]
    cases run u later <;> rfl

/-- A step that stays does the same in both sessions. -/
theorem run_readable_of_stays {step : Step} {steps : List Step} (h : s.Agrees t)
    (hstays : step.readable = [step])
    (ih : ∀ {s t : State}, s.Agrees t →
      run t (steps.flatMap Step.readable) = (run s steps).map (repeated steps)) :
    run t ((step :: steps).flatMap Step.readable) =
      (run s (step :: steps)).map (repeated (step :: steps)) := by
  rw [List.flatMap_cons, hstays, List.singleton_append, run, run]
  have houtcome := step.take_congr h
  generalize step.take s = x at houtcome
  generalize step.take t = y at houtcome
  cases houtcome with
  | crash crash => rfl
  | @ok s' t' hnext reply log =>
    show (run t' (steps.flatMap Step.readable) >>= fun rest => .ok ((reply, log) :: rest)) =
      Except.map _ (run s' steps >>= fun rest => .ok ((reply, log) :: rest))
    rw [ih hnext]
    cases run s' steps with
    | error crash => rfl
    | ok rest =>
      show Except.ok ((reply, log) :: repeated steps rest) = .ok (repeated _ _)
      rw [repeated_cons, hstays]
      rfl

theorem run_readable_of_agrees (h : s.Agrees t) (steps : List Step) :
    run t (steps.flatMap Step.readable) = (run s steps).map (repeated steps) := by
  induction steps generalizing s t with
  | nil => rfl
  | cons step steps ih =>
    by_cases hstays : step.readable = [step]
    · exact run_readable_of_stays h hstays ih
    · cases step with
      | unsetVariable | replaceEnvFile | logWith | logLoaded | query => exact absurd rfl hstays
      | setVariables vars =>
        have hreadable : (Step.setVariables vars).readable = vars.map Step.assign := by
          rw [Step.readable] at hstays ⊢
          split at hstays
          · exact absurd rfl hstays
          · next hsome => exact if_neg hsome
        obtain ⟨u, hu, hrun⟩ := run_assign h vars
        rw [List.flatMap_cons, hreadable, hrun, ih hu, run]
        let after := s.withEnvironment (s.surroundings.environment.setAll vars)
        show _ = Except.map _ (run after steps >>= fun rest => .ok ((Reply.done, "") :: rest))
        cases run after steps with
        | error crash => rfl
        | ok rest =>
          show Except.ok (_ ++ repeated steps rest) = .ok (repeated _ _)
          rw [repeated_cons, hreadable, List.length_map]

/-- A session without the values that are not UTF-8, in the environment that it starts with and
in the steps that set variables, has the same answers and logs. Where such a variable configures,
the file decides about it, and where a value of the file names it, it stands for what earlier
lines bind, or for nothing. -/
theorem run_readable (s : State) (steps : List Step) :
    run s.readable (steps.flatMap Step.readable) = (run s steps).map (repeated steps) ∧
    ∀ (env : Environment) (name : String) (value : List UInt8),
      env.value? name = some value → Text.ofUtf8? value = none →
        (∀ bindings, Config.layered env bindings name =
          EnvFile.lastValue? name.toList bindings) ∧
        (∀ earlier, EnvFile.expand env earlier name.toList =
          (EnvFile.lastValue? name.toList earlier).getD []) ∧
        Config.IsLeftToFile env name := by
  have hagrees : s.Agrees s.readable :=
    ⟨⟨(Environment.text?_readable s.surroundings.environment).symm, rfl⟩, rfl⟩
  refine ⟨run_readable_of_agrees hagrees steps, fun env name value hvalue hnone => ?_⟩
  have htext : env.text? name = none := by rw [Environment.text?, hvalue, Option.bind_some, hnone]
  exact ⟨Config.layered_of_unset htext, EnvFile.expand_of_unset htext,
    Config.isLeftToFile_of_unset htext⟩

/-- A file that mentions a variable before and after the line that binds it. -/
def mentions : List UInt8 :=
  Text.utf8 "CPP_EXAMPLE_LOG_LEVEL=$X\nX=debug\nCPP_EXAMPLE_LOG=$X\n".toList

/-- A variable holds bytes that are no text. -/
def unreadable : Environment :=
  Environment.empty.set "X" [0xc3, 0x28]

/-- That variable is set when the session begins, and the filter is set later on. -/
theorem run_readable_unreadable :
    let s : State := ⟨⟨unreadable, some ⟨"/srv", .file mentions⟩⟩, none⟩
    let loaded : Reply := .config ⟨"warn", some "debug"⟩
    unreadable.value? "X" = some [0xc3, 0x28] ∧ Text.ofUtf8? [0xc3, 0x28] = none ∧
    run s [.setVariables [("A", [0x62]), (Config.logFilterKey, [0xff])], .query .loadedConfig] =
      .ok [(.done, ""), (loaded, "")] ∧
    run s.readable [.setVariables [("A", [0x62])], .unsetVariable Config.logFilterKey,
        .query .loadedConfig] = .ok [(.done, ""), (.done, ""), (loaded, "")] ∧
    Config.load unreadable ⟨"/srv", .file mentions⟩ =
      Config.load (unreadable.unset "X") ⟨"/srv", .file mentions⟩ := by
  intro s loaded
  have hname : Text.ofUtf8? [0xc3, 0x28] = none := by decide +kernel
  have hrun : run s [.setVariables [("A", [0x62]), (Config.logFilterKey, [0xff])],
      .query .loadedConfig] = .ok [(.done, ""), (loaded, "")] := by rfl
  obtain ⟨hreadable, hvariables⟩ := run_readable s
    [.setVariables [("A", [0x62]), (Config.logFilterKey, [0xff])], .query .loadedConfig]
  rw [hrun] at hreadable
  obtain ⟨-, -, hfile⟩ := hvariables unreadable "X" [0xc3, 0x28] rfl hname
  exact ⟨rfl, hname, hrun, hreadable, hfile.load_unset _⟩

end Session
end LinkReport
