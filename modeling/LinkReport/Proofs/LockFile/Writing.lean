import LinkReport.Proofs.LockFile.Telling
import LinkReport.Proofs.Toml.Writing

/-!
# Writing lock files

The second side of the reader: a lock file as the build tool writes it, from a list of
packages. Two comments and the version of the format stand first, then a table for each
package, with empty lines between them.

* `readsAs_write` says which statements a written file holds, by induction on the packages;
* `foldlM_step_statements` carries them out;
* `version?_write` looks a package up in the document that results.
-/

namespace LinkReport.LockFile

open Toml (BareKey Draft Item Plain ReadsAs Remark Statement Table Value Written)

/-- A package as a lock file lists it. -/
structure Package where
  name : Plain
  version : Plain
  source : Option Plain
  checksum : Option Plain
  dependencies : List Plain

/-! ## The text of a lock file -/

def packageKey : BareKey := ⟨"package".toList, by decide, List.all_eq_true.1 rfl⟩
def nameKey : BareKey := ⟨"name".toList, by decide, List.all_eq_true.1 rfl⟩
def versionKey : BareKey := ⟨"version".toList, by decide, List.all_eq_true.1 rfl⟩
def sourceKey : BareKey := ⟨"source".toList, by decide, List.all_eq_true.1 rfl⟩
def checksumKey : BareKey := ⟨"checksum".toList, by decide, List.all_eq_true.1 rfl⟩
def dependenciesKey : BareKey := ⟨"dependencies".toList, by decide, List.all_eq_true.1 rfl⟩

namespace Package

/-- What is written after the name and the version, as far as there is anything to write. -/
def details (p : Package) : List (BareKey × Written) :=
  (p.source.map fun t => (sourceKey, .text t)).toList ++
    (p.checksum.map fun t => (checksumKey, .text t)).toList ++
    (if p.dependencies = [] then [] else [(dependenciesKey, .texts p.dependencies)])

/-- The keys of a package with their values. -/
def pairs (p : Package) : List (BareKey × Written) :=
  (nameKey, .text p.name) :: (versionKey, .text p.version) :: p.details

/-- The lines of a package. -/
def text (p : Package) : List Char :=
  Toml.tablesLine packageKey ++ p.pairs.flatMap fun pair => Toml.pairLine pair.1 pair.2

/-- The statements of a package. -/
def statements (p : Package) : List Statement :=
  .tables ["package"] :: p.pairs.map fun pair => .pair [pair.1.toString] pair.2.value

/-- The table of a package. -/
def table (p : Package) : Table :=
  .mk .header (p.pairs.map fun pair => (pair.1.toString, .value pair.2.value))

end Package

/-- The text of a lock file with two comments at its start. -/
def write (first second : Remark) (packages : List Package) : List Char :=
  '#' :: (first.text ++ '\n' :: '#' :: (second.text ++ '\n' ::
    ("version = 4\n".toList ++ '\n' :: ['\n'].intercalate (packages.map Package.text))))

/-! ## The statements of a lock file -/

variable {p : Package} {packages : List Package}

/-- A package is read up to the end of its last line. -/
theorem readsAs_text (p : Package) {rest : List Char} {statements : List Statement}
    (h : ReadsAs rest statements) : ReadsAs (p.text ++ rest) (p.statements ++ statements) := by
  unfold Package.text Package.statements
  rw [List.append_assoc]
  exact (h.pairLines p.pairs).tablesLine packageKey

theorem readsAs_texts (packages : List Package) :
    ReadsAs (['\n'].intercalate (packages.map Package.text))
      (packages.flatMap Package.statements) := by
  induction packages with
  | nil => exact Toml.readsAs_nil
  | cons p packages ih =>
    rw [List.flatMap_cons]
    cases packages with
    | nil =>
      have hlast := readsAs_text p Toml.readsAs_nil
      rw [List.append_nil] at hlast
      rw [List.map_singleton, List.intercalate_singleton]
      exact hlast
    | cons q packages =>
      have hrest := readsAs_text p ih.emptyLine
      rw [List.map_cons, List.map_cons, List.intercalate_cons_cons, List.append_assoc]
      exact hrest

/-- The version of the format is a number, and no text as that of a package is. -/
theorem readsAs_format {rest : List Char} {statements : List Statement}
    (h : ReadsAs rest statements) :
    ReadsAs ("version = 4\n".toList ++ rest) (.pair ["version"] (.integer 4) :: statements) := by
  have hlength : rest.length ≤ ("ersion = 4\n".toList ++ rest).length := by
    rw [List.length_append]
    omega
  exact h.statement (.inl (by decide)) rfl hlength

theorem readsAs_write (first second : Remark) (packages : List Package) :
    ReadsAs (write first second packages)
      (.pair ["version"] (.integer 4) :: packages.flatMap Package.statements) :=
  ((readsAs_format (readsAs_texts packages).emptyLine).comment second).comment first

/-! ## The document of a lock file -/

/-- A document that lists tables as packages. -/
def listing (tables : List Table) : Table :=
  .mk .header [("version", .value (.integer 4)), ("package", .tables tables)]

/-- The document of a lock file. Without packages it does not have a list of them. -/
def document : List Package → Table
  | [] => .mk .header [("version", .value (.integer 4))]
  | p :: packages => listing ((p :: packages).map Package.table)

theorem putEntry_of_lookup_eq_none {key : String} {item : Item} {entries : List (String × Item)}
    (h : entries.lookup key = none) :
    Table.putEntry key item entries = entries ++ [(key, item)] := by
  induction entries with
  | nil => rfl
  | cons e entries ih =>
    have hne : ¬e.1 = key := by
      rintro rfl
      rw [List.lookup_cons_self] at h
      cases h
    have hrest : entries.lookup key = none := by
      rwa [List.lookup_cons, beq_eq_false_iff_ne.2 (Ne.symm hne)] at h
    unfold Table.putEntry
    rw [if_neg hne, ih hrest]
    rfl

/-- A change to what the packages lead to is one to the last of them. -/
theorem change_listing (f : Table → Option Table) (tables : List Table) (t : Table) :
    Table.change .implied f ["package"] (listing (tables ++ [t])) =
      (f t).map fun u => listing (tables ++ [u]) := by
  have hlast : (tables ++ [t]).getLast? = some t := by simp
  have hfront : (tables ++ [t]).dropLast = tables := by simp
  have hpackages : (listing (tables ++ [t])).get? "package" = some (.tables (tables ++ [t])) := rfl
  rw [Table.change, hpackages]
  simp only [hlast, hfront]
  rfl

/-- A key that a table does not have yet goes to its end. -/
theorem define_new {key : String} {entries : List (String × Item)}
    (h : entries.lookup key = none) (v : Value) :
    (Table.mk .header entries).define [key] v =
      some (.mk .header (entries ++ [(key, .value v)])) := by
  have hnone : (Table.mk .header entries).get? key = none := h
  have hput := @putEntry_of_lookup_eq_none key (.value v) entries h
  simp [Table.define, Table.change, hnone, Table.put, Table.origin, Table.entries, hput]

/-- Pairs with keys of their own become the entries of the last package. -/
theorem foldlM_step_pairs (tables : List Table) (pairs : List (BareKey × Written))
    (entries : List (String × Item))
    (hkeys : (entries.map Prod.fst ++ pairs.map fun pair => pair.1.toString).Nodup) :
    (pairs.map fun pair => Statement.pair [pair.1.toString] pair.2.value).foldlM Draft.step
        ⟨listing (tables ++ [.mk .header entries]), ["package"]⟩ =
      some ⟨listing (tables ++ [.mk .header
        (entries ++ pairs.map fun pair => (pair.1.toString, .value pair.2.value))]),
        ["package"]⟩ := by
  induction pairs generalizing entries with
  | nil =>
    rw [List.map_nil, List.map_nil, List.append_nil]
    rfl
  | cons pair pairs ih =>
    have hnew : entries.lookup pair.1.toString = none := by
      rw [List.lookup_eq_none_iff]
      intro e he
      have hne := (List.nodup_append.1 hkeys).2.2 e.1 (List.mem_map_of_mem he) pair.1.toString
        (by simp)
      exact bne_iff_ne.2 (Ne.symm hne)
    have hstep : Draft.step ⟨listing (tables ++ [.mk .header entries]), ["package"]⟩
        (.pair [pair.1.toString] pair.2.value) = some ⟨listing (tables ++ [.mk .header
          (entries ++ [(pair.1.toString, .value pair.2.value)])]), ["package"]⟩ := by
      show (Table.change .implied _ ["package"]
        (listing (tables ++ [.mk .header entries]))).map _ = _
      rw [change_listing, define_new hnew]
      rfl
    rw [List.map_cons, List.foldlM_cons, hstep]
    show List.foldlM Draft.step _ _ = _
    rw [ih]
    · simp
    · simpa using hkeys

theorem nodup_keys (p : Package) : (p.pairs.map fun pair => pair.1.toString).Nodup := by
  obtain ⟨name, version, source, checksum, dependencies⟩ := p
  unfold Package.pairs Package.details
  cases source <;> cases checksum <;> by_cases h : dependencies = [] <;>
    simp [h] <;> decide

/-- The statements of a package add its table to the list. -/
theorem foldlM_step_statements (tables : List Table) (place : List String) (p : Package) :
    p.statements.foldlM Draft.step ⟨listing tables, place⟩ =
      some ⟨listing (tables ++ [p.table]), ["package"]⟩ := by
  have hpairs := foldlM_step_pairs tables p.pairs [] (nodup_keys p)
  unfold Package.statements
  rw [List.foldlM_cons]
  exact hpairs

theorem foldlM_step_packages (tables : List Table) (place : List String)
    (packages : List Package) :
    ((packages.flatMap Package.statements).foldlM Draft.step ⟨listing tables, place⟩).map
        Draft.root =
      some (listing (tables ++ packages.map Package.table)) := by
  induction packages generalizing tables place with
  | nil =>
    rw [List.map_nil, List.append_nil]
    rfl
  | cons p packages ih =>
    rw [List.flatMap_cons, List.foldlM_append, foldlM_step_statements]
    show (List.foldlM Draft.step _ _).map _ = _
    rw [ih, List.append_assoc]
    rfl

theorem ofStatements?_packages (packages : List Package) :
    Table.ofStatements? (.pair ["version"] (.integer 4) :: packages.flatMap Package.statements) =
      some (document packages) := by
  cases packages with
  | nil => rfl
  | cons p packages =>
    -- the first header makes the list, as it would add to an empty one
    have hfirst : Table.ofStatements? (.pair ["version"] (.integer 4) ::
          (p :: packages).flatMap Package.statements) =
        (((p :: packages).flatMap Package.statements).foldlM Draft.step
          ⟨listing [], []⟩).map Draft.root := rfl
    rw [hfirst, foldlM_step_packages]
    rfl

/-- A written lock file is read as the document of its packages. -/
theorem read?_write (first second : Remark) (packages : List Package) :
    Table.read? (write first second packages) = some (document packages) := by
  have hstatements := readsAs_write first second packages
    ((write first second packages).length + 1) (Nat.lt_succ_self _)
  show (Toml.readStatements ((write first second packages).length + 1)
    (write first second packages)).bind Table.ofStatements? = _
  rw [hstatements]
  exact ofStatements?_packages packages

/-! ## Looking a package up -/

theorem text?_name (p : Package) : text? "name" p.table = some p.name.toString := rfl

theorem text?_version (p : Package) : text? "version" p.table = some p.version.toString := rfl

theorem versionIn?_document (package : String) (packages : List Package) :
    versionIn? package (document packages) =
      (packages.find? fun p => p.name.toString == package).map fun p => p.version.toString := by
  cases packages with
  | nil => rfl
  | cons p packages =>
    have hentries : packages? (document (p :: packages)) =
        some ((p :: packages).map Package.table) := rfl
    rw [versionIn?_of_packages? hentries, List.find?_map]
    have hname : (fun e => text? "name" e == some package) ∘ Package.table =
        fun q => q.name.toString == package := by
      funext q
      show (text? "name" q.table == some package) = _
      rw [text?_name]
      rfl
    rw [hname]
    cases (p :: packages).find? fun q => q.name.toString == package with
    | none => rfl
    | some q => exact text?_version q

/-- A written lock file tells the version of the first package that has the name. -/
theorem version?_write (package : String) (first second : Remark) (packages : List Package) :
    version? package (Text.utf8 (write first second packages)) =
      (packages.find? fun p => p.name.toString == package).map fun p => p.version.toString := by
  rw [version?_utf8, read?_write]
  exact versionIn?_document package packages

end LinkReport.LockFile
