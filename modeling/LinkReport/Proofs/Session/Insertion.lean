import LinkReport.Proofs.Session.Process
import LinkReport.Proofs.Text.Encoding
import Mathlib.Data.List.Forall2

/-!
# Queries among the steps of a session

A query leaves no trace that shows. Put between the steps of a session, wherever and how often
one likes, queries are answered from the state that the steps before them lead to, and the other
steps have the answers and the logs that they have without them. So it is in a process as well,
though a startup may leave a logger behind there.

* `State.after_queries` the state after queries
* `run_insert_queries` the answers of a session with queries put into it
* `Process.shown_insert_queries` the same in a process
-/

namespace LinkReport.Session

variable {s t : State} {before later : List Step} {qs : List Query}

/-- No query changes the variables, the environment file or the filter. -/
theorem State.after_queries (h : ∀ q ∈ qs, ∃ x, q.answer s.surroundings = .ok x) :
    s.after (qs.map .query) = .ok s := by
  induction qs with
  | nil => rfl
  | cons q qs ih =>
    obtain ⟨x, hx⟩ := h q List.mem_cons_self
    rw [List.map_cons]
    exact after_cons_eq_ok_iff.2 ⟨s, _, _, take_query_eq_ok_iff.2 ⟨_, hx, rfl, rfl⟩,
      ih fun q' hq' => h q' (List.mem_cons_of_mem q hq')⟩

/-- The queries have these answers in the state, each with the log of the events on the way. -/
def AnsweredIn (s : State) (qs : List Query) (answers : List (Reply × String)) : Prop :=
  List.Forall₂ (fun q answer => ∃ events,
    q.answer s.surroundings = .ok (answer.1, events) ∧ answer.2 = s.log events) qs answers

theorem Tells.answeredIn {told : List (Reply × List Event)} (h : Tells s.surroundings qs told) :
    AnsweredIn s qs (told.map fun x => (x.1, s.log x.2)) :=
  List.forall₂_map_right_iff.2 (List.Forall₂.imp (fun _ x hx => ⟨x.2, hx, rfl⟩) h)

/-- A startup among queries answers the configuration of the surroundings and records their
startup. -/
theorem AnsweredIn.startup {answers : List (Reply × String)} {i : Nat}
    (h : AnsweredIn s qs answers) (hi : qs[i]? = some .startup) :
    answers[i]? =
      some (.config s.surroundings.config, s.log s.surroundings.startupEvents) := by
  induction h generalizing i with
  | nil => cases hi
  | @cons q answer qs answers hq _ ih =>
    cases i with
    | succ i => exact ih hi
    | zero =>
      obtain rfl : q = .startup := by simpa using hi
      obtain ⟨events, hanswer, hlog⟩ := hq
      rcases s.surroundings.start_cases with ⟨-, hcrash⟩ | ⟨-, f, -, hstart⟩
      · rw [Query.answer, hcrash] at hanswer
        cases hanswer
      · rw [Query.answer, hstart] at hanswer
        obtain ⟨reply, log⟩ := answer
        cases hanswer
        exact congrArg (fun text => some (_, text)) hlog

/-- Queries put into a session at any place, of which none breaks off there, leave the state as
it is, and the answers and logs of all other steps. They themselves are answered from the state
at that place. -/
theorem run_insert_queries
    (hends : ∀ t, s.after before = .ok t → ∀ q ∈ qs, ∃ x, q.answer t.surroundings = .ok x) :
    ∃ inserted : List (Reply × String),
      run s (before ++ qs.map .query ++ later) =
        (run s (before ++ later)).map (fun answers =>
          answers.take before.length ++ inserted ++ answers.drop before.length) ∧
      ∀ t, s.after before = .ok t →
        s.after (before ++ qs.map .query) = .ok t ∧ AnsweredIn t qs inserted := by
  cases hbefore : s.after before with
  | error crash =>
    -- the session ends before the place is reached
    refine ⟨[], ?_, fun t ht => by cases ht⟩
    rw [List.append_assoc, run_append_of_crash hbefore, run_append_of_crash hbefore]
    rfl
  | ok t =>
    obtain ⟨first, hlength, hrun⟩ := exists_run_append hbefore
    obtain ⟨told, htold⟩ := exists_tells (hends t hbefore)
    refine ⟨told.map fun x => (x.1, t.log x.2), ?_, fun t' ht' => ?_⟩
    · rw [List.append_assoc, hrun, run_queries_append htold, hrun]
      cases run t later with
      | error crash => rfl
      | ok rest =>
        have htake : (first ++ rest).take before.length = first := by
          rw [← hlength, List.take_left]
        have hdrop : (first ++ rest).drop before.length = rest := by
          rw [← hlength, List.drop_left]
        simp only [Except.map, htake, hdrop, List.append_assoc]
    · cases ht'
      exact ⟨State.after_append_eq_ok_iff.2
        ⟨t, hbefore, State.after_queries (hends t hbefore)⟩, htold.answeredIn⟩

/-- The same in a process. A startup put into the session may install a logger there, and one
that was installed before stays, but nothing of this shows. Every startup answers the
configuration and records the events that its surroundings determine, however often it is
repeated. -/
theorem Process.shown_insert_queries (reason : String) (p : Process)
    (hends : ∀ u, p.after reason before = .ok u →
      ∀ q ∈ qs, ∃ x, q.answer u.state.surroundings = .ok x) :
    ∃ inserted : List (Reply × String),
      p.shown reason (before ++ qs.map .query ++ later) =
        (p.shown reason (before ++ later)).map (fun answers =>
          answers.take before.length ++ inserted ++ answers.drop before.length) ∧
      ∀ u, p.after reason before = .ok u →
        (∃ v, p.after reason (before ++ qs.map .query) = .ok v ∧ v.state = u.state ∧
          ∀ f, u.logger = some f → v.logger = some f) ∧
        AnsweredIn u.state qs inserted ∧
        ∀ i : Nat, qs[i]? = some .startup →
          inserted[i]? = some (.config u.state.surroundings.config,
            u.state.log u.state.surroundings.startupEvents) := by
  have hendsAlone : ∀ t, p.state.after before = .ok t →
      ∀ q ∈ qs, ∃ x, q.answer t.surroundings = .ok x := by
    intro t ht
    obtain ⟨u, hu, rfl⟩ := exists_after_iff.2 ht
    exact hends u hu
  obtain ⟨inserted, hrun, hstate⟩ := @run_insert_queries _ _ later _ hendsAlone
  refine ⟨inserted, ?_, fun u hu => ?_⟩
  · rw [shown_eq_run, shown_eq_run, hrun]
  · obtain ⟨hafter, hanswered⟩ := hstate u.state (exists_after_iff.1 ⟨u, hu, rfl⟩)
    obtain ⟨v, hv, hsame⟩ := exists_after_iff.2 hafter
    have hrest : u.after reason (qs.map .query) = .ok v := (after_append hu _).symm.trans hv
    exact ⟨⟨v, hv, hsame, fun f => logger_of_after hrest⟩, hanswered, fun i => hanswered.startup⟩

/-- A process in a directory whose environment file binds the level before a line at fault. -/
def malformed : Process where
  state :=
    { surroundings :=
        ⟨.empty, some ⟨"/srv", .file (Text.utf8 "CPP_EXAMPLE_LOG_LEVEL=off\nA".toList)⟩⟩
      filter := none }
  logger := none

/-- Why a second logger is refused. -/
def alreadySet : String := "a global default trace dispatcher has already been set"

/-- A load that fails and two startups leave nothing of the binding behind, and the second
startup records what the first one does, though the logger is installed by then. -/
theorem Process.shown_insert_startups :
    ∃ inserted : List (Reply × String),
      malformed.shown alreadySet ([.logWith ⟨"warn", none⟩] ++
          [.loadedConfig, .startup, .startup].map .query ++ [.query .environmentConfig]) =
        (malformed.shown alreadySet ([.logWith ⟨"warn", none⟩] ++ [.query .environmentConfig])).map
          (fun answers => answers.take 1 ++ inserted ++ answers.drop 1) ∧
      inserted[1]? = inserted[2]? ∧
      inserted[2]? = some (.config .default,
        " WARN cpp_example: Failed to parse /srv/.env: Error parsing line: 'A', " ++
          "error at line index: 1; using defaults\n") := by
  have hends : ∀ u, malformed.after alreadySet [.logWith ⟨"warn", none⟩] = .ok u →
      ∀ q ∈ [Query.loadedConfig, .startup, .startup],
        ∃ x, q.answer u.state.surroundings = .ok x := by
    intro u hu q hq
    cases hu
    simp only [List.mem_cons, List.not_mem_nil, or_false, or_self] at hq
    rcases hq with rfl | rfl <;> exact ⟨_, rfl⟩
  obtain ⟨inserted, hrun, hstate⟩ :=
    @Process.shown_insert_queries _ [.query .environmentConfig] _ alreadySet malformed hends
  obtain ⟨-, -, hstartup⟩ := hstate _ rfl
  have hlog : State.log ⟨malformed.state.surroundings, some .default⟩
      malformed.state.surroundings.startupEvents =
        " WARN cpp_example: Failed to parse /srv/.env: Error parsing line: 'A', " ++
          "error at line index: 1; using defaults\n" := by
    decide +kernel
  refine ⟨inserted, hrun, (hstartup 1 rfl).trans (hstartup 2 rfl).symm, ?_⟩
  rw [← hlog]
  exact hstartup 2 rfl

end LinkReport.Session
