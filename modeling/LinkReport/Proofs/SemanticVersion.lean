import LinkReport.Proofs.Text.Joining

/-!
# Semantic versions

Three numbers, then perhaps the identifiers of a prerelease and of a build. Versions are
compared by their numbers; a prerelease comes before its release, and the build does not
count.
-/

namespace LinkReport

namespace SemanticVersion

/-- A character of an identifier. -/
def isIdentifierChar (c : Char) : Bool :=
  c.isAlphanum || c == '-'

/-- An identifier of a prerelease: a number, or a word that is not of digits alone. -/
inductive Identifier where
  | number (n : Nat)
  | word (cs : List Char) (h : cs.all isIdentifierChar = true ∧ cs.all Char.isDigit = false)
deriving DecidableEq

/-- The identifier as it is written, a number without leading zeros. -/
def Identifier.text : Identifier → List Char
  | number n => Nat.toDigits 10 n
  | word cs _ => cs

/-- Numbers are compared as such and come before words, which are compared by their
characters. -/
def Identifier.compare : Identifier → Identifier → Ordering
  | number n, number m => Ord.compare n m
  | number _, word .. => .lt
  | word .., number _ => .gt
  | word cs _, word ds _ => Ord.compare (String.ofList cs) (String.ofList ds)

end SemanticVersion

/-- A version as the rules of semantic versioning write it. -/
structure SemanticVersion where
  major : Nat
  minor : Nat
  patch : Nat
  prerelease : List SemanticVersion.Identifier
  build : List (List Char)
  isIdentifier_of_mem_build :
    ∀ part ∈ build, part ≠ [] ∧ part.all SemanticVersion.isIdentifierChar = true
deriving DecidableEq

namespace SemanticVersion

/-- The version as it is written. -/
def text (v : SemanticVersion) : List Char :=
  ['.'].intercalate ([v.major, v.minor, v.patch].map (Nat.toDigits 10)) ++
    (if v.prerelease = [] then []
      else '-' :: ['.'].intercalate (v.prerelease.map Identifier.text)) ++
    (if v.build = [] then [] else '+' :: ['.'].intercalate v.build)

/-- The text is that of a version. -/
def IsText (cs : List Char) : Prop :=
  ∃ v : SemanticVersion, v.text = cs

/-- Of two prereleases that begin alike the shorter one comes first, but none at all comes
last. -/
def comparePrereleases (xs ys : List Identifier) : Ordering :=
  if xs = [] ∧ ys ≠ [] then .gt
  else if xs ≠ [] ∧ ys = [] then .lt
  else List.compareLex Identifier.compare xs ys

/-- The order of precedence. -/
def compare (v w : SemanticVersion) : Ordering :=
  (Ord.compare v.major w.major).then <| (Ord.compare v.minor w.minor).then <|
    (Ord.compare v.patch w.patch).then (comparePrereleases v.prerelease w.prerelease)

/-- The chain of prereleases of one version that the rules give as their example. -/
example :
    let version ids : SemanticVersion := ⟨1, 0, 0, ids, [], by decide⟩
    let alpha := Identifier.word "alpha".toList (by decide)
    let beta := Identifier.word "beta".toList (by decide)
    [version [alpha], version [alpha, .number 1], version [alpha, beta], version [beta],
      version [beta, .number 2], version [beta, .number 11], version []].Pairwise
        (fun v w => compare v w = .lt) := by
  decide

/-! ## The characters of a version -/

theorem isIdentifierChar_of_mem_toDigits {n : Nat} {c : Char} (hc : c ∈ Nat.toDigits 10 n) :
    isIdentifierChar c = true := by
  have hdigit : c.isDigit = true := Nat.isDigit_of_mem_toDigits (by decide) (by decide) hc
  simp [isIdentifierChar, Char.isAlphanum, hdigit]

theorem Identifier.isIdentifierChar_of_mem_text {i : Identifier} {c : Char} (hc : c ∈ i.text) :
    isIdentifierChar c = true := by
  cases i with
  | number n => exact isIdentifierChar_of_mem_toDigits hc
  | word cs h => exact List.all_eq_true.1 h.1 c hc

/-- A version is written with the characters of identifiers, with points and with plus signs. -/
theorem of_mem_text {v : SemanticVersion} {c : Char} (hc : c ∈ v.text) :
    isIdentifierChar c = true ∨ c = '.' ∨ c = '+' := by
  -- each of the three parts is a join of identifiers with points
  have hjoin : ∀ parts : List (List Char), (∀ part ∈ parts, part.all isIdentifierChar = true) →
      c ∈ ['.'].intercalate parts → isIdentifierChar c = true ∨ c = '.' := by
    intro parts hparts hmem
    rcases Text.mem_intercalate_iff.1 hmem with ⟨part, hpart, hc⟩ | ⟨hpoint, -⟩
    · exact .inl (List.all_eq_true.1 (hparts part hpart) c hc)
    · exact .inr (List.mem_singleton.1 hpoint)
  have hnumbers : ∀ part ∈ [v.major, v.minor, v.patch].map (Nat.toDigits 10),
      part.all isIdentifierChar = true := by
    intro part hpart
    obtain ⟨n, -, rfl⟩ := List.mem_map.1 hpart
    exact List.all_eq_true.2 fun c => isIdentifierChar_of_mem_toDigits
  have hprerelease : ∀ part ∈ v.prerelease.map Identifier.text,
      part.all isIdentifierChar = true := by
    intro part hpart
    obtain ⟨i, -, rfl⟩ := List.mem_map.1 hpart
    exact List.all_eq_true.2 fun c => Identifier.isIdentifierChar_of_mem_text
  have hbuild : ∀ part ∈ v.build, part.all isIdentifierChar = true :=
    fun part hpart => (v.isIdentifier_of_mem_build part hpart).2
  rw [text, List.mem_append, List.mem_append] at hc
  rcases hc with (hc | hc) | hc
  · exact (hjoin _ hnumbers hc).imp_right .inl
  · split at hc
    · cases hc
    · rcases List.mem_cons.1 hc with rfl | hc
      · exact .inl rfl
      · exact (hjoin _ hprerelease hc).imp_right .inl
  · split at hc
    · cases hc
    · rcases List.mem_cons.1 hc with rfl | hc
      · exact .inr (.inr rfl)
      · exact (hjoin _ hbuild hc).imp_right .inl

theorem newline_notMem_text (v : SemanticVersion) : '\n' ∉ v.text := by
  intro hmem
  rcases of_mem_text hmem with h | h | h
  · exact absurd h (by decide)
  · exact absurd h (by decide)
  · exact absurd h (by decide)

theorem text_ne_nil (v : SemanticVersion) : v.text ≠ [] := by
  simp [text, Nat.toDigits_ne_nil]

end SemanticVersion
end LinkReport
