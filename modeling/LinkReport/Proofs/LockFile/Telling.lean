import LinkReport.LockFile
import LinkReport.Proofs.Text.Encoding

/-!
# What a lock file tells

When the contents of a lock file tell the version of a package, and the five ways in which
they can keep silent: they are no text, the text is no document, the document lists no
packages, none of the listed tables has the name, or the first that has it gives no version.
-/

namespace LinkReport.LockFile

/-- The contents give a package a version: it is that of the first listed table that has the
name. -/
inductive Tells (package : String) : List UInt8 → String → Prop where
  | intro {text : List Char} {document entry : Toml.Table} {before after : List Toml.Table}
      {version : String} (hread : Toml.Table.read? text = some document)
      (hentries : packages? document = some (before ++ entry :: after))
      (hbefore : ∀ e ∈ before, text? "name" e ≠ some package)
      (hname : text? "name" entry = some package)
      (hversion : text? "version" entry = some version) :
      Tells package (Text.utf8 text) version

/-- The contents give a package no version. -/
inductive IsSilent (package : String) : List UInt8 → Prop where
  | notText {content : List UInt8} (h : ∀ text, content ≠ Text.utf8 text) :
      IsSilent package content
  | notDocument {text : List Char} (hread : Toml.Table.read? text = none) :
      IsSilent package (Text.utf8 text)
  | noPackages {text : List Char} {document : Toml.Table}
      (hread : Toml.Table.read? text = some document) (hentries : packages? document = none) :
      IsSilent package (Text.utf8 text)
  | notListed {text : List Char} {document : Toml.Table} {entries : List Toml.Table}
      (hread : Toml.Table.read? text = some document)
      (hentries : packages? document = some entries)
      (hnames : ∀ e ∈ entries, text? "name" e ≠ some package) :
      IsSilent package (Text.utf8 text)
  | noVersion {text : List Char} {document entry : Toml.Table} {before after : List Toml.Table}
      (hread : Toml.Table.read? text = some document)
      (hentries : packages? document = some (before ++ entry :: after))
      (hbefore : ∀ e ∈ before, text? "name" e ≠ some package)
      (hname : text? "name" entry = some package) (hversion : text? "version" entry = none) :
      IsSilent package (Text.utf8 text)

variable {package : String} {content : List UInt8}

/-- A text is looked up in the document that it writes. -/
theorem version?_utf8 (package : String) (text : List Char) :
    version? package (Text.utf8 text) =
      (Toml.Table.read? text).bind (versionIn? package) := by
  unfold version?
  rw [Text.ofUtf8?_utf8]
  rfl

/-- Where a document lists packages, the first one with the name is asked for its version. -/
theorem versionIn?_of_packages? {document : Toml.Table} {entries : List Toml.Table}
    (hentries : packages? document = some entries) :
    versionIn? package document =
      (entries.find? fun e => text? "name" e == some package).bind (text? "version") := by
  unfold versionIn?
  rw [hentries]
  rfl

theorem find?_name_eq_some {before after : List Toml.Table} {entry : Toml.Table}
    (hbefore : ∀ e ∈ before, text? "name" e ≠ some package)
    (hname : text? "name" entry = some package) :
    ((before ++ entry :: after).find? fun e => text? "name" e == some package) = some entry := by
  rw [List.find?_append, List.find?_eq_none.2 (by simpa using hbefore), List.find?_cons]
  simp [hname]

theorem version?_of_tells {version : String} (h : Tells package content version) :
    version? package content = some version := by
  obtain ⟨hread, hentries, hbefore, hname, hversion⟩ := h
  rw [version?_utf8, hread, Option.bind_some, versionIn?_of_packages? hentries,
    find?_name_eq_some hbefore hname]
  exact hversion

theorem version?_of_isSilent (h : IsSilent package content) : version? package content = none := by
  cases h with
  | notText h =>
    have hnone : Text.ofUtf8? content = none := by
      rw [Option.eq_none_iff_forall_not_mem]
      intro text htext
      exact h text (Text.ofUtf8?_eq_some_iff.1 htext)
    unfold version?
    rw [hnone]
    rfl
  | notDocument hread =>
    rw [version?_utf8, hread]
    rfl
  | noPackages hread hentries =>
    rw [version?_utf8, hread, Option.bind_some]
    unfold versionIn?
    rw [hentries]
    rfl
  | notListed hread hentries hnames =>
    rw [version?_utf8, hread, Option.bind_some, versionIn?_of_packages? hentries,
      List.find?_eq_none.2 (by simpa using hnames)]
    rfl
  | noVersion hread hentries hbefore hname hversion =>
    rw [version?_utf8, hread, Option.bind_some, versionIn?_of_packages? hentries,
      find?_name_eq_some hbefore hname]
    exact hversion

/-- Contents tell one version or keep silent. -/
theorem tells_or_isSilent (package : String) (content : List UInt8) :
    (∃ version, Tells package content version) ∨ IsSilent package content := by
  by_cases htext : ∃ text, content = Text.utf8 text
  · obtain ⟨text, rfl⟩ := htext
    cases hread : Toml.Table.read? text with
    | none => exact .inr (.notDocument hread)
    | some document =>
      cases hentries : packages? document with
      | none => exact .inr (.noPackages hread hentries)
      | some entries =>
        cases hfind : entries.find? fun e => text? "name" e == some package with
        | none =>
          refine .inr (.notListed hread hentries ?_)
          simpa using List.find?_eq_none.1 hfind
        | some entry =>
          obtain ⟨hname, before, after, rfl, hbefore⟩ := List.find?_eq_some_iff_append.1 hfind
          have hbefore : ∀ e ∈ before, text? "name" e ≠ some package := by simpa using hbefore
          cases hversion : text? "version" entry with
          | none => exact .inr (.noVersion hread hentries hbefore (by simpa using hname) hversion)
          | some version =>
            exact .inl ⟨version, hread, hentries, hbefore, by simpa using hname, hversion⟩
  · exact .inr (.notText fun text heq => htext ⟨text, heq⟩)

theorem tells_iff {version : String} :
    Tells package content version ↔ version? package content = some version := by
  constructor
  · exact version?_of_tells
  · intro h
    rcases tells_or_isSilent package content with ⟨told, htells⟩ | hsilent
    · rw [version?_of_tells htells] at h
      rwa [← Option.some.inj h]
    · rw [version?_of_isSilent hsilent] at h
      cases h

theorem isSilent_iff :
    IsSilent package content ↔ ¬∃ version, Tells package content version := by
  constructor
  · rintro hsilent ⟨version, htells⟩
    have hnone := version?_of_isSilent hsilent
    rw [version?_of_tells htells] at hnone
    cases hnone
  · intro hnot
    exact (tells_or_isSilent package content).resolve_left hnot

end LinkReport.LockFile
