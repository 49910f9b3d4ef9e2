import LinkReport.Config
import LinkReport.Proofs.EnvFile.Templates
import LinkReport.Proofs.Text.Encoding
import Mathlib.Data.List.Infix

/-!
# The variables that a configuration depends on

An environment file is read in the same way in every environment, up to the values that
names in it stand for. Whether it loads, with which error it fails, and which keys it binds
is settled by the file alone. The configuration depends on the two variables that configure
and on those that the values for them mention.

* `EnvFile.dependencies` the names that a value depends on
* `Config.load_outcome_eq` two environments and one file
* `Config.load_determined_by_variables` the variables that make a difference, and no others
-/

namespace LinkReport

/-- A text without blanks loses nothing to the trimming of what holds it. -/
theorem Text.length_le_length_trim {text cs : List Char} (h : text <:+: cs)
    (hblank : ∀ c ∈ text, isBlank c = false) : text.length ≤ (trim cs).length := by
  obtain ⟨before, after, hcs, hbefore, hafter⟩ := exists_append_trim cs
  have hzero : ∀ {xs : List Char}, (∀ c ∈ xs, isBlank c = true) →
      xs.countP (fun c => !isBlank c) = 0 := by
    intro xs hxs
    exact List.countP_eq_zero.2 fun c hc => by simp [hxs c hc]
  calc text.length = text.countP fun c => !isBlank c :=
        (List.countP_eq_length.2 fun c hc => by simp [hblank c hc]).symm
    _ ≤ cs.countP fun c => !isBlank c := h.sublist.countP_le
    _ = (before ++ (trim cs ++ after)).countP fun c => !isBlank c := by rw [← hcs]
    _ = (trim cs).countP fun c => !isBlank c := by
        rw [List.countP_append, List.countP_append, hzero hbefore, hzero hafter]
        omega
    _ ≤ (trim cs).length := List.countP_le_length

/-! ## Environments of processes -/

namespace Environment

/-- A process can have a variable of this name. -/
def IsName (name : String) : Prop :=
  name ≠ "" ∧ '=' ∉ name.toList ∧ '\x00' ∉ name.toList

instance (name : String) : Decidable (IsName name) :=
  inferInstanceAs (Decidable (_ ∧ _ ∧ _))

/-- A process can have this environment: each variable has such a name, and its value holds no
zero byte. -/
def IsOfProcess (env : Environment) : Prop :=
  ∀ name value, env.value? name = some value → IsName name ∧ 0 ∉ value

variable {env : Environment} {name : String} {value : List UInt8}

theorem isOfProcess_empty : empty.IsOfProcess := by
  intro name value h
  cases h

theorem isOfProcess_set (h : env.IsOfProcess) (hname : IsName name) (hvalue : 0 ∉ value) :
    (env.set name value).IsOfProcess := by
  intro other value' hother
  by_cases hsame : other = name
  · rw [hsame, value?_set_self] at hother
    rw [hsame, ← Option.some.inj hother]
    exact ⟨hname, hvalue⟩
  · rw [value?_set_of_ne hsame] at hother
    exact h other value' hother

/-- What cannot be the name of a variable is not set. -/
theorem text?_eq_none (h : env.IsOfProcess) (hname : ¬IsName name) : env.text? name = none := by
  rw [text?]
  cases hvalue : env.value? name with
  | none => rfl
  | some value => exact absurd (h name value hvalue).1 hname

end Environment

namespace EnvFile

/-! ## Names that a value depends on -/

/-- The names on which the value of a name depends after some entries, of which the latest
stands first: the name itself, and what the names in its latest entry depend on before that. -/
def dependencies : List Entry → List Char → List (List Char)
  | [], name => [name]
  | entry :: earlier, name =>
    if name = entry.key then name :: entry.template.names.flatMap (dependencies earlier)
    else dependencies earlier name

variable {env env' : Environment} {latest : List Entry} {name other value : List Char}

theorem mem_dependencies_self (latest : List Entry) (name : List Char) :
    name ∈ dependencies latest name := by
  induction latest with
  | nil => exact List.mem_singleton.2 rfl
  | cons entry earlier ih =>
    rw [dependencies]
    split
    · exact List.mem_cons_self
    · exact ih

/-- The latest entry for a name decides what it stands for where the variable is not set. -/
theorem expand_append_singleton (env : Environment) (bs : List Binding) (b : Binding)
    (name : List Char) :
    expand env (bs ++ [b]) name =
      if name = b.1 then (env.text? (String.ofList name)).getD b.2 else expand env bs name := by
  rw [expand, lastValue?_append_singleton]
  split
  · cases env.text? (String.ofList name) <;> rfl
  · rfl

theorem bindEntries_append_singleton (env : Environment) (entries : List Entry) (entry : Entry) :
    bindEntries env [] (entries ++ [entry]) =
      bindEntries env [] entries ++ [entry.binding (expand env (bindEntries env [] entries))] := by
  rw [bindEntries, List.foldl_append]
  rfl

/-- What a name stands for after entries, of which the latest stands first. -/
theorem expand_bindEntries_cons (env : Environment) (entry : Entry) (earlier : List Entry)
    (name : List Char) :
    expand env (bindEntries env [] (entry :: earlier).reverse) name =
      if name = entry.key then
        (env.text? (String.ofList name)).getD
          (entry.template.fill (expand env (bindEntries env [] earlier.reverse)))
      else expand env (bindEntries env [] earlier.reverse) name := by
  rw [List.reverse_cons, bindEntries_append_singleton, expand_append_singleton]
  rfl

/-- A name stands for the same in two environments that agree on what it depends on. -/
theorem expand_congr
    (h : ∀ n ∈ dependencies latest name,
      env.text? (String.ofList n) = env'.text? (String.ofList n)) :
    expand env (bindEntries env [] latest.reverse) name
      = expand env' (bindEntries env' [] latest.reverse) name := by
  induction latest generalizing name with
  | nil =>
    have hname := h name (mem_dependencies_self [] name)
    simp only [List.reverse_nil, bindEntries, List.foldl_nil, expand, hname]
  | cons entry earlier ih =>
    have hname := h name (mem_dependencies_self _ name)
    rw [expand_bindEntries_cons, expand_bindEntries_cons, hname]
    rw [dependencies] at h
    split
    · next hkey =>
      rw [if_pos hkey] at h
      congr 1
      refine Template.fill_congr fun n hn => ih fun m hm => h m (List.mem_cons_of_mem _ ?_)
      exact List.mem_flatMap.2 ⟨n, hn, hm⟩
    · next hkey =>
      rw [if_neg hkey] at h
      exact ih h

/-- Where only one variable is set, its value is found in what every name stands for that
depends on it. -/
theorem infix_expand (hother : other ∈ dependencies latest name)
    (hset : env.text? (String.ofList other) = some value)
    (hunset : ∀ n, n ≠ other → env.text? (String.ofList n) = none) :
    value <:+: expand env (bindEntries env [] latest.reverse) name := by
  have hself : ∀ bs, expand env bs other = value := by
    intro bs
    rw [expand, hset]
    rfl
  by_cases hname : name = other
  · rw [hname, hself]
  induction latest generalizing name with
  | nil => exact absurd (List.mem_singleton.1 hother).symm hname
  | cons entry earlier ih =>
    rw [expand_bindEntries_cons, hunset name hname]
    rw [dependencies] at hother
    split
    · next hkey =>
      rw [if_pos hkey] at hother
      -- the variable comes in through one of the names in the latest entry
      obtain hself' | hlater := List.mem_cons.1 hother
      · exact absurd hself'.symm hname
      obtain ⟨n, hn, hmem⟩ := List.mem_flatMap.1 hlater
      refine List.IsInfix.trans ?_ (Template.infix_fill hn)
      by_cases heq : n = other
      · rw [heq, hself]
      · exact ih hmem heq
    · next hkey =>
      rw [if_neg hkey] at hother
      exact ih hother hname

end EnvFile

namespace Config

/-! ## Loading -/

/-- The entries of the environment file in a directory; none if there is no such file. -/
def Directory.entries (dir : Directory) : Except LoadError (List EnvFile.Entry) :=
  match dir.envFile with
  | .file content =>
    (EnvFile.lineEntries (EnvFile.logicalLines content)).mapError
      (LoadError.badFile dir.envFilePath)
  | .absent | .directory => .ok []

theorem Directory.bindings_eq_map_bindEntries (dir : Directory) (env : Environment) :
    dir.bindings env = dir.entries.map (EnvFile.bindEntries env []) := by
  obtain ⟨path, envFile⟩ := dir
  cases envFile with
  | absent => rfl
  | directory => rfl
  | file content =>
    rw [bindings, entries]
    simp only [EnvFile.bindings, EnvFile.bindLines_eq_map_bindEntries]
    cases EnvFile.lineEntries (EnvFile.logicalLines content) <;> rfl

theorem load_eq_map_entries (env : Environment) (dir : Directory) :
    load env dir = dir.entries.map fun entries =>
      ofVariables (layered env (EnvFile.bindEntries env [] entries)) := by
  rw [load, dir.bindings_eq_map_bindEntries]
  cases dir.entries <;> rfl

/-! ## Whether loading succeeds -/

/-- In every environment the same file loads, or fails with the same error, and binds the
same keys in the same order. The keys are the same up to every line, so also before the line
at fault. -/
theorem load_outcome_eq (env env' : Environment) (dir : Directory) :
    ((∃ c c', load env dir = .ok c ∧ load env' dir = .ok c') ∨
      ∃ e, load env dir = .error e ∧ load env' dir = .error e) ∧
    (dir.bindings env).map (List.map Prod.fst) = (dir.bindings env').map (List.map Prod.fst) ∧
    ∀ content n,
      (EnvFile.bindLines env [] ((EnvFile.logicalLines content).take n)).map (List.map Prod.fst) =
        (EnvFile.bindLines env' [] ((EnvFile.logicalLines content).take n)).map
          (List.map Prod.fst) := by
  refine ⟨?_, ?_, fun content n => ?_⟩
  · rw [load_eq_map_entries, load_eq_map_entries]
    cases dir.entries with
    | ok entries => exact .inl ⟨_, _, rfl, rfl⟩
    | error e => exact .inr ⟨e, rfl, rfl⟩
  · rw [dir.bindings_eq_map_bindEntries, dir.bindings_eq_map_bindEntries]
    cases dir.entries with
    | ok entries =>
      simp only [Except.map, EnvFile.map_fst_bindEntries]
    | error e => rfl
  · rw [EnvFile.bindLines_eq_map_bindEntries, EnvFile.bindLines_eq_map_bindEntries]
    cases EnvFile.lineEntries ((EnvFile.logicalLines content).take n) with
    | ok entries => simp only [Except.map, EnvFile.map_fst_bindEntries]
    | error e => rfl

/-! ## What loading depends on -/

/-- The variables that loading from a directory depends on: the two that configure, and those
that the values of the file for them mention, directly or through earlier entries. A file
that cannot be read is refused whatever the variables are. -/
def Directory.variables (dir : Directory) : List String :=
  match dir.entries with
  | .ok entries =>
    let names := [logLevelKey, logFilterKey].flatMap fun key =>
      (EnvFile.dependencies entries.reverse key.toList).map String.ofList
    names.filter Environment.IsName
  | .error _ => []

theorem Directory.mem_variables_iff {dir : Directory} {entries : List EnvFile.Entry}
    (h : dir.entries = .ok entries) {name : String} :
    name ∈ dir.variables ↔ Environment.IsName name ∧ ∃ key ∈ [logLevelKey, logFilterKey],
      name.toList ∈ EnvFile.dependencies entries.reverse key.toList := by
  simp only [Directory.variables, h, List.mem_filter, List.mem_flatMap, List.mem_map,
    decide_eq_true_eq]
  refine and_comm.trans (and_congr_right fun _ => exists_congr fun key =>
    and_congr_right fun _ => ⟨?_, fun hname => ?_⟩)
  · rintro ⟨n, hn, rfl⟩
    rwa [String.toList_ofList]
  · exact ⟨name.toList, hname, String.ofList_toList⟩

theorem getD_layered (env : Environment) (bs : List EnvFile.Binding) (key : String) :
    (layered env bs key).getD [] = EnvFile.expand env bs key.toList := by
  rw [layered, EnvFile.expand, String.ofList_toList]

/-- A missing value counts like an empty one. -/
theorem nonBlank?_getD (value : Option (List Char)) :
    nonBlank? (some (value.getD [])) = nonBlank? value := by
  cases value <;> rfl

/-- Environments that agree on these variables load the same. -/
theorem load_congr {env env' : Environment} {dir : Directory} (henv : env.IsOfProcess)
    (henv' : env'.IsOfProcess) (h : ∀ name ∈ dir.variables, env.text? name = env'.text? name) :
    load env dir = load env' dir := by
  rw [load_eq_map_entries, load_eq_map_entries]
  cases hentries : dir.entries with
  | error e => rfl
  | ok entries =>
    have hkey : ∀ key ∈ [logLevelKey, logFilterKey],
        nonBlank? (layered env (EnvFile.bindEntries env [] entries) key) =
          nonBlank? (layered env' (EnvFile.bindEntries env' [] entries) key) := by
      intro key hkey
      have hexpand : EnvFile.expand env (EnvFile.bindEntries env [] entries) key.toList =
          EnvFile.expand env' (EnvFile.bindEntries env' [] entries) key.toList := by
        rw [← List.reverse_reverse entries]
        refine EnvFile.expand_congr fun n hn => ?_
        by_cases hname : Environment.IsName (String.ofList n)
        · refine h _ ((Directory.mem_variables_iff hentries).2 ⟨hname, key, hkey, ?_⟩)
          rwa [String.toList_ofList]
        · rw [Environment.text?_eq_none henv hname, Environment.text?_eq_none henv' hname]
      rw [← nonBlank?_getD, getD_layered, hexpand, ← getD_layered, nonBlank?_getD]
    have hlevel := hkey logLevelKey List.mem_cons_self
    have hfilter := hkey logFilterKey (List.mem_cons_of_mem _ List.mem_cons_self)
    simp only [Except.map, ofVariables, hlevel, hfilter]

/-- A value that holds a text without blanks is not blank, and as long as the text. -/
theorem exists_nonBlank?_eq_some {value : Option (List Char)} {text : List Char}
    (htext : text ≠ []) (hblank : ∀ c ∈ text, Text.isBlank c = false)
    (h : text <:+: value.getD []) :
    ∃ s, nonBlank? value = some s ∧ text.length ≤ s.length := by
  have hlength := Text.length_le_length_trim h hblank
  have hne : Text.trim (value.getD []) ≠ [] := by
    intro hnil
    rw [hnil, List.length_nil, Nat.le_zero] at hlength
    exact htext (List.length_eq_zero_iff.1 hlength)
  refine ⟨String.ofList (Text.trim (value.getD [])), ?_, ?_⟩
  · rw [← nonBlank?_getD, nonBlank?, Option.map_some, Option.bind_some, if_neg hne]
  · rwa [String.length_ofList]

/-- Each of these variables makes a difference. -/
theorem exists_load_ne {dir : Directory} {name : String} (h : name ∈ dir.variables) :
    ∃ value, (Environment.empty.set name value).IsOfProcess ∧
      load (Environment.empty.set name value) dir ≠ load .empty dir := by
  cases hentries : dir.entries with
  | error e =>
    rw [Directory.variables, hentries] at h
    cases h
  | ok entries =>
    obtain ⟨hname, key, hkey, hmem⟩ := (Directory.mem_variables_iff hentries).1 h
    have hload : ∀ env, load env dir =
        .ok (ofVariables (layered env (EnvFile.bindEntries env [] entries))) := by
      intro env
      rw [load_eq_map_entries, hentries]
      rfl
    -- a value longer than both fields of the configuration without it
    let c := ofVariables (layered .empty (EnvFile.bindEntries .empty [] entries))
    let text := List.replicate (c.logLevel.length + (c.logFilter.getD "").length + 1) 'x'
    have hzero : 0 ∉ Text.utf8 text := by
      intro h
      obtain ⟨c, hc, hbyte⟩ := List.mem_flatMap.1 h
      rw [List.eq_of_mem_replicate hc] at hbyte
      revert hbyte
      decide
    refine ⟨Text.utf8 text,
      Environment.isOfProcess_set Environment.isOfProcess_empty hname hzero, fun hsame => ?_⟩
    let env := Environment.empty.set name (Text.utf8 text)
    have hset : env.text? (String.ofList name.toList) = some text := by
      rw [String.ofList_toList, Environment.text?, Environment.value?_set_self]
      exact Text.ofUtf8?_utf8 text
    have hunset : ∀ n, n ≠ name.toList → env.text? (String.ofList n) = none := by
      intro n hn
      have hne : String.ofList n ≠ name := fun heq => hn (by rw [← heq, String.toList_ofList])
      rw [Environment.text?, Environment.value?_set_of_ne hne]
      rfl
    have hinfix := EnvFile.infix_expand hmem hset hunset
    rw [List.reverse_reverse, ← getD_layered] at hinfix
    have hblank : ∀ c ∈ text, Text.isBlank c = false := by
      intro c hc
      rw [List.eq_of_mem_replicate hc]
      decide
    obtain ⟨s, hs, hlength⟩ := exists_nonBlank?_eq_some (by simp [text]) hblank hinfix
    have hconfig : ofVariables (layered env (EnvFile.bindEntries env [] entries)) = c := by
      have hok := (hload env).symm.trans (hsame.trans (hload .empty))
      exact Except.ok.inj hok
    rw [List.length_replicate] at hlength
    rcases List.mem_cons.1 hkey with rfl | hkey
    · have hlevel : c.logLevel = s := by
        rw [← hconfig, ofVariables, hs]
        rfl
      rw [hlevel] at hlength
      omega
    · rw [List.mem_singleton.1 hkey] at hs
      have hfilter : c.logFilter = some s := by
        rw [← hconfig, ofVariables, hs]
      rw [hfilter, Option.getD_some] at hlength
      omega

/-- Loading depends on these variables, and on each of them. So it depends on
the two keys alone exactly if the values of the file for them mention no other variable. -/
theorem load_determined_by_variables (dir : Directory) :
    (∀ env env' : Environment, env.IsOfProcess → env'.IsOfProcess →
      (∀ name ∈ dir.variables, env.text? name = env'.text? name) →
        load env dir = load env' dir) ∧
    (∀ name ∈ dir.variables, ∃ value, (Environment.empty.set name value).IsOfProcess ∧
      load (Environment.empty.set name value) dir ≠ load .empty dir) ∧
    ((∀ env env' : Environment, env.IsOfProcess → env'.IsOfProcess →
        (∀ key ∈ [logLevelKey, logFilterKey], env.text? key = env'.text? key) →
          load env dir = load env' dir) ↔
      ∀ name ∈ dir.variables, name ∈ [logLevelKey, logFilterKey]) := by
  refine ⟨fun env env' => load_congr, fun name => exists_load_ne, ?_, ?_⟩
  · intro hkeys name hname
    obtain ⟨value, hset, hne⟩ := exists_load_ne hname
    -- setting another variable than the two keys leaves an environment that agrees on them
    by_cases hkey : name ∈ [logLevelKey, logFilterKey]
    · exact hkey
    · refine absurd (hkeys _ _ hset Environment.isOfProcess_empty fun key hmem => ?_) hne
      have hother : key ≠ name := fun heq => hkey (heq ▸ hmem)
      rw [Environment.text?, Environment.value?_set_of_ne hother]
      rfl
  · intro hvariables env env' henv henv' hagree
    exact load_congr henv henv' fun name hname => hagree name (hvariables name hname)

/-- A dollar sign in a value lets another variable in. -/
theorem not_load_eq_of_keys :
    ¬∀ (dir : Directory) (env env' : Environment), env.IsOfProcess → env'.IsOfProcess →
      (∀ key ∈ [logLevelKey, logFilterKey], env.text? key = env'.text? key) →
        load env dir = load env' dir := by
  intro h
  let dir : Directory := ⟨"/srv", .file (Text.utf8 "CPP_EXAMPLE_LOG=$X\n".toList)⟩
  have hprocess : (Environment.empty.set "X" (Text.utf8 "debug".toList)).IsOfProcess :=
    Environment.isOfProcess_set Environment.isOfProcess_empty (by decide) (by decide)
  have hsame := h dir _ .empty hprocess Environment.isOfProcess_empty (by decide)
  have hset : load (Environment.empty.set "X" (Text.utf8 "debug".toList)) dir
      = .ok ⟨"warn", some "debug"⟩ := rfl
  have hunset : load .empty dir = .ok ⟨"warn", none⟩ := rfl
  rw [hset, hunset] at hsame
  cases hsame

end Config
end LinkReport
