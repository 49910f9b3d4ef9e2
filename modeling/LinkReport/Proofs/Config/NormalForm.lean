import LinkReport.Proofs.Session
import LinkReport.Proofs.Text.Ascii
import LinkReport.Proofs.Text.Trimming

/-!
# Configurations in normal form

However the program comes to a configuration, in the end it trims the values of two variables.
So the level and the filter of the configuration are trimmed texts, and writing them back into
the variables gives the same configuration again.

* `Config.nonBlank?_eq_iff` when two values say the same
* `Config.Made` the ways in which the program comes to a configuration
* `Config.made_iff_isNormal` what it can come to, and which variables lead to the same
-/

namespace LinkReport

/-- The configuration that a reply carries, if it does. -/
def Session.Reply.config? : Reply → Option Config
  | .config c | .settings c _ => some c
  | _ => none

namespace Config

variable {value value' : Option (List Char)} {c : Config}

/-! ## Values of variables -/

/-- The variable is not set, or blank. -/
def SaysNothing (value : Option (List Char)) : Prop :=
  ∀ cs ∈ value, ∀ c ∈ cs, Text.isBlank c = true

/-- The values are the same after trimming, where a missing one is like a blank one. -/
def SameText (value value' : Option (List Char)) : Prop :=
  (∃ cs ∈ value, ∃ cs' ∈ value', Text.trim cs = Text.trim cs') ∨
    (SaysNothing value ∧ SaysNothing value')

/-- The level stays the default. -/
def SaysDefault (value : Option (List Char)) : Prop :=
  SaysNothing value ∨ ∃ cs ∈ value, Text.trim cs = defaultLogLevel.toList

/-- The values are the same after trimming, where a missing and a blank one are like the
default. -/
def SameLevel (value value' : Option (List Char)) : Prop :=
  SameText value value' ∨ (SaysDefault value ∧ SaysDefault value')

theorem nonBlank?_eq_none_iff : nonBlank? value = none ↔ SaysNothing value := by
  cases value with
  | none => simp [nonBlank?, SaysNothing]
  | some cs => simp [nonBlank?, SaysNothing, Text.trim_eq_nil_iff]

theorem nonBlank?_eq_some_iff {s : String} :
    nonBlank? value = some s ↔ ∃ cs ∈ value, Text.trim cs = s.toList ∧ s.toList ≠ [] := by
  cases value with
  | none => simp [nonBlank?]
  | some cs =>
    rw [nonBlank?, Option.map_some, Option.bind_some]
    by_cases h : Text.trim cs = []
    · rw [if_pos h]
      constructor
      · exact nofun
      · rintro ⟨cs', hcs', htrim, hne⟩
        cases hcs'
        exact absurd (htrim.symm.trans h) hne
    · have hinj : String.ofList (Text.trim cs) = s ↔ Text.trim cs = s.toList := by
        rw [← String.toList_inj, String.toList_ofList]
      simp only [if_neg h, Option.some.injEq, hinj, Option.mem_def, exists_eq_left']
      exact ⟨fun htrim => ⟨htrim, htrim ▸ h⟩, And.left⟩

/-- A blank value is trimmed to the same as any other blank one, and to nothing else. -/
theorem nonBlank?_eq_iff : nonBlank? value = nonBlank? value' ↔ SameText value value' := by
  cases hvalue : nonBlank? value with
  | none =>
    have hnothing := nonBlank?_eq_none_iff.1 hvalue
    rw [eq_comm, nonBlank?_eq_none_iff]
    constructor
    · exact fun h => .inr ⟨hnothing, h⟩
    · rintro (⟨cs, hcs, cs', hcs', htrim⟩ | ⟨-, h⟩)
      · rw [Text.trim_eq_nil_iff.2 (hnothing cs hcs), eq_comm, Text.trim_eq_nil_iff] at htrim
        intro cs'' hcs''
        rwa [Option.mem_unique hcs'' hcs']
      · exact h
  | some s =>
    obtain ⟨cs, hcs, htrim, hne⟩ := nonBlank?_eq_some_iff.1 hvalue
    rw [eq_comm, nonBlank?_eq_some_iff]
    constructor
    · rintro ⟨cs', hcs', htrim', -⟩
      exact .inl ⟨cs, hcs, cs', hcs', htrim.trans htrim'.symm⟩
    · rintro (⟨cs₁, hcs₁, cs', hcs', htrim'⟩ | ⟨hnothing, -⟩)
      · obtain rfl := Option.mem_unique hcs hcs₁
        exact ⟨cs', hcs', htrim'.symm.trans htrim, hne⟩
      · rw [Text.trim_eq_nil_iff.2 (hnothing cs hcs)] at htrim
        exact absurd htrim.symm hne

theorem getD_nonBlank?_eq_default_iff :
    (nonBlank? value).getD defaultLogLevel = defaultLogLevel ↔ SaysDefault value := by
  cases hvalue : nonBlank? value with
  | none => exact iff_of_true rfl (.inl (nonBlank?_eq_none_iff.1 hvalue))
  | some s =>
    obtain ⟨cs, hcs, htrim, hne⟩ := nonBlank?_eq_some_iff.1 hvalue
    rw [Option.getD_some, ← String.toList_inj, ← htrim]
    constructor
    · exact fun h => .inr ⟨cs, hcs, h⟩
    · rintro (hnothing | ⟨cs', hcs', h⟩)
      · rw [nonBlank?_eq_none_iff.2 hnothing] at hvalue
        cases hvalue
      · rwa [Option.mem_unique hcs hcs']

theorem eq_some_of_getD_ne {α : Type} {o : Option α} {d : α} (h : o.getD d ≠ d) :
    o = some (o.getD d) := by
  cases o with
  | none => exact absurd rfl h
  | some a => rfl

/-- A level that is not the default is that of its variable. -/
theorem getD_nonBlank?_eq_iff :
    (nonBlank? value).getD defaultLogLevel = (nonBlank? value').getD defaultLogLevel ↔
      SameLevel value value' := by
  constructor
  · intro h
    by_cases hdefault : SaysDefault value
    · refine .inr ⟨hdefault, getD_nonBlank?_eq_default_iff.1 ?_⟩
      rw [← h, getD_nonBlank?_eq_default_iff.2 hdefault]
    · have hother : (nonBlank? value).getD defaultLogLevel ≠ defaultLogLevel :=
        mt getD_nonBlank?_eq_default_iff.1 hdefault
      have hvalue := eq_some_of_getD_ne hother
      have hvalue' := eq_some_of_getD_ne (h ▸ hother)
      exact .inl (nonBlank?_eq_iff.1 (by rw [hvalue, hvalue', h]))
  · rintro (hsame | ⟨hdefault, hdefault'⟩)
    · rw [nonBlank?_eq_iff.2 hsame]
    · rw [getD_nonBlank?_eq_default_iff.2 hdefault, getD_nonBlank?_eq_default_iff.2 hdefault']

/-! ## Normal forms -/

/-- The level is a trimmed text, and so is the filter if there is one. -/
structure IsNormal (c : Config) : Prop where
  level : Text.IsTrimmed c.logLevel.toList
  filter : ∀ filter ∈ c.logFilter, Text.IsTrimmed filter.toList

theorem isTrimmed_of_nonBlank? {s : String} (h : nonBlank? value = some s) :
    Text.IsTrimmed s.toList := by
  obtain ⟨cs, -, htrim, hne⟩ := nonBlank?_eq_some_iff.1 h
  rw [← htrim] at hne ⊢
  exact Text.isTrimmed_trim hne

theorem nonBlank?_of_isTrimmed {s : String} (h : Text.IsTrimmed s.toList) :
    nonBlank? (some s.toList) = some s :=
  nonBlank?_eq_some_iff.2 ⟨s.toList, rfl, Text.trim_of_isTrimmed h, h.ne_nil⟩

theorem isTrimmed_defaultLogLevel : Text.IsTrimmed defaultLogLevel.toList :=
  Text.isTrimmed_of_not_blank (by decide) fun _ hc =>
    Text.isBlank_eq_false_of_isAlphanum (List.all_eq_true.1 (by decide) _ hc)

theorem isNormal_ofVariables (value? : String → Option (List Char)) :
    (ofVariables value?).IsNormal where
  level := by
    rw [ofVariables]
    cases hvalue : nonBlank? (value? logLevelKey) with
    | none => exact isTrimmed_defaultLogLevel
    | some s => exact isTrimmed_of_nonBlank? hvalue
  filter _ hfilter := isTrimmed_of_nonBlank? hfilter

/-- The variables that hold a configuration, and no others. -/
def toVariables (c : Config) (key : String) : Option (List Char) :=
  if key = logLevelKey then some c.logLevel.toList
  else if key = logFilterKey then c.logFilter.map String.toList
  else none

theorem toVariables_logLevelKey (c : Config) :
    c.toVariables logLevelKey = some c.logLevel.toList := if_pos rfl

theorem toVariables_logFilterKey (c : Config) :
    c.toVariables logFilterKey = c.logFilter.map String.toList := by
  rw [toVariables, if_neg (by decide), if_pos rfl]

/-- Variables that hold a configuration in normal form, whatever the others are, make it. -/
theorem IsNormal.ofVariables_eq (h : c.IsNormal) {value? : String → Option (List Char)}
    (hlevel : value? logLevelKey = some c.logLevel.toList)
    (hfilter : value? logFilterKey = c.logFilter.map String.toList) : ofVariables value? = c := by
  obtain ⟨level, filter⟩ := c
  rw [ofVariables, hlevel, hfilter, nonBlank?_of_isTrimmed h.level]
  cases filter with
  | none => rfl
  | some filter =>
    rw [Option.map_some, nonBlank?_of_isTrimmed (h.filter filter rfl)]
    rfl

theorem ofVariables_eq_iff {value? value'? : String → Option (List Char)} :
    ofVariables value? = ofVariables value'? ↔
      SameLevel (value? logLevelKey) (value'? logLevelKey) ∧
        SameText (value? logFilterKey) (value'? logFilterKey) := by
  rw [ofVariables, ofVariables, Config.mk.injEq, getD_nonBlank?_eq_iff, nonBlank?_eq_iff]

/-! ## Where configurations come from -/

/-- The program comes to the configuration: from variables, from an environment, by loading, by
a startup, or as what a step of a session answers. -/
inductive Made : Config → Prop where
  | ofVariables (value? : String → Option (List Char)) : Made (ofVariables value?)
  | ofEnvironment (env : Environment) : Made (ofEnvironment env)
  | loaded {env : Environment} {dir : Directory} {c : Config} (h : load env dir = .ok c) : Made c
  | started {s : Surroundings} {startup : Startup} (h : s.start = .ok startup) :
    Made startup.config
  | answered {s t : Session.State} {step : Session.Step} {reply : Session.Reply} {log : String}
    {c : Config} (h : step.take s = .ok (t, reply, log)) (hc : reply.config? = some c) : Made c

theorem exists_variables_of_load {env : Environment} {dir : Directory}
    (h : load env dir = .ok c) : ∃ value?, Config.ofVariables value? = c := by
  rw [load] at h
  cases hbindings : dir.bindings env with
  | error e =>
    rw [hbindings] at h
    cases h
  | ok bindings =>
    rw [hbindings] at h
    exact ⟨_, Except.ok.inj h⟩

theorem exists_variables_of_load_surroundings {s : Surroundings} (h : s.load = .ok c) :
    ∃ value?, Config.ofVariables value? = c := by
  rw [Surroundings.load] at h
  cases hdirectory : s.directory with
  | none =>
    rw [hdirectory] at h
    cases h
  | some dir =>
    rw [hdirectory] at h
    exact exists_variables_of_load h

theorem exists_variables_of_surroundings (s : Surroundings) :
    ∃ value?, Config.ofVariables value? = s.config := by
  rw [Surroundings.config]
  cases hload : s.load with
  | ok c => exact exists_variables_of_load_surroundings hload
  | error e => exact ⟨_, rfl⟩

theorem exists_variables_of_start {s : Surroundings} {startup : Startup}
    (h : s.start = .ok startup) : ∃ value?, Config.ofVariables value? = startup.config := by
  rw [(Surroundings.of_start_eq_ok h).2.1]
  exact exists_variables_of_surroundings s

theorem exists_variables_of_answer {q : Session.Query} {s : Surroundings}
    {reply : Session.Reply} {events : List Event} (h : q.answer s = .ok (reply, events))
    (hc : reply.config? = some c) : ∃ value?, Config.ofVariables value? = c := by
  cases q with
  | answers | report | selfTest | evaluate | verdict => cases h; cases hc
  | configOf vars =>
    obtain ⟨f, -, hreply⟩ := of_bind_eq_ok h
    cases hreply
    cases hc
    exact ⟨_, rfl⟩
  | environmentConfig =>
    cases h
    cases hc
    exact ⟨_, rfl⟩
  | loadedConfig =>
    rw [Session.Query.answer] at h
    split at h
    · next hload =>
      cases h
      cases hc
      exact exists_variables_of_load_surroundings hload
    · cases h
      cases hc
  | filterOf c' =>
    obtain ⟨f, -, hreply⟩ := of_bind_eq_ok h
    cases hreply
    cases hc
  | line v =>
    rw [Session.Query.answer] at h
    split at h <;> cases h <;> cases hc
  | startup =>
    obtain ⟨startup, hstart, hreply⟩ := of_bind_eq_ok h
    cases hreply
    cases hc
    exact exists_variables_of_start hstart

theorem exists_variables_of_take {s t : Session.State} {step : Session.Step}
    {reply : Session.Reply} {log : String} (h : step.take s = .ok (t, reply, log))
    (hc : reply.config? = some c) : ∃ value?, Config.ofVariables value? = c := by
  cases step with
  | setVariables | unsetVariable | replaceEnvFile => cases h; cases hc
  | logWith c' =>
    obtain ⟨f, -, hreply⟩ := of_bind_eq_ok h
    cases hreply
    cases hc
  | logLoaded =>
    obtain ⟨f, -, hreply⟩ := of_bind_eq_ok h
    cases hreply
    cases hc
    exact exists_variables_of_surroundings s.surroundings
  | query q =>
    obtain ⟨events, hanswer, -, -⟩ := Session.take_query_eq_ok_iff.1 h
    exact exists_variables_of_answer hanswer hc

/-- Whatever the way, in the end the values of two variables are trimmed. -/
theorem Made.exists_variables (h : c.Made) : ∃ value?, Config.ofVariables value? = c := by
  cases h with
  | ofVariables value? => exact ⟨value?, rfl⟩
  | ofEnvironment env => exact ⟨_, rfl⟩
  | loaded h => exact exists_variables_of_load h
  | started h => exact exists_variables_of_start h
  | answered h hc => exact exists_variables_of_take h hc

/-- What the program comes to are exactly the configurations in normal form. These are the ones
that variables make which hold them, whatever other variables there are. Two sets of variables
make the same configuration exactly if their values for both keys are the same after trimming,
where a missing value is like a blank one, and both are like the default for the level. -/
theorem made_iff_isNormal :
    (∀ c : Config, c.Made ↔ c.IsNormal) ∧
    (∀ c : Config, c.IsNormal ↔ ∀ value? : String → Option (List Char),
      value? logLevelKey = some c.logLevel.toList →
      value? logFilterKey = c.logFilter.map String.toList → ofVariables value? = c) ∧
    ∀ value? value'? : String → Option (List Char),
      ofVariables value? = ofVariables value'? ↔
        SameLevel (value? logLevelKey) (value'? logLevelKey) ∧
          SameText (value? logFilterKey) (value'? logFilterKey) := by
  refine ⟨fun c => ⟨fun hmade => ?_, fun hnormal => ?_⟩,
    fun c => ⟨fun hnormal value? => hnormal.ofVariables_eq, fun hfixed => ?_⟩,
    fun value? value'? => ofVariables_eq_iff⟩
  · obtain ⟨value?, rfl⟩ := hmade.exists_variables
    exact isNormal_ofVariables value?
  · rw [← hnormal.ofVariables_eq c.toVariables_logLevelKey c.toVariables_logFilterKey]
    exact .ofVariables c.toVariables
  · rw [← hfixed c.toVariables c.toVariables_logLevelKey c.toVariables_logFilterKey]
    exact isNormal_ofVariables c.toVariables

end Config
end LinkReport
