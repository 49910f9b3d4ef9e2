import LinkReport.Text.Blank
import LinkReport.EnvFile.Value

/-!
# Entries

A logical line is empty, a comment, or an entry: a key, `=` and a value, with blanks
around each of them, and the word `export` before the key if one likes. A line whose only
key is `export` binds that name.
-/

namespace LinkReport.EnvFile

/-- A key may start with this character. -/
def isKeyStart (c : Char) : Bool :=
  c.isAlpha || c == '_'

/-- A key may go on with this character. -/
def isKeyChar (c : Char) : Bool :=
  c.isAlphanum || c == '_' || c == '.'

/-- A key and the text after it; on failure, the text where a key should have started. -/
def readKey (cs : List Char) : Except (List Char) (List Char × List Char) :=
  match cs with
  | c :: _ =>
    if isKeyStart c then .ok (cs.takeWhile isKeyChar, cs.dropWhile isKeyChar) else .error cs
  | [] => .error cs

/-- The text after an equals sign; on failure, the text where it should have stood. -/
def readEquals : List Char → Except (List Char) (List Char)
  | '=' :: rest => .ok rest
  | cs => .error cs

/-- The key of an entry and the text after the equals sign; on failure, the text that could
not be read. -/
def readHead (cs : List Char) : Except (List Char) (List Char × List Char) := do
  let (key, rest) ← readKey cs
  let rest := Text.trimStart rest
  if key = "export".toList ∧ rest.head? ≠ some '=' then
    let (key, rest) ← readKey rest
    let rest ← readEquals (Text.trimStart rest)
    .ok (key, rest)
  else
    let rest ← readEquals rest
    .ok (key, rest)

/-- The text holds no entry or value: it is empty or a comment. -/
def isVacant (cs : List Char) : Bool :=
  cs.isEmpty || cs.head? == some '#'

/-- The binding that a logical line makes, if it makes one. A fault before the value is
reported with the whole line, at a place in bytes. -/
def readLine (lookup : List Char → List Char) (line : List Char) :
    Except Error (Option (List Char × List Char)) :=
  let stripped := Text.trimEnd line
  let start := Text.trimStart stripped
  if isVacant start then .ok none
  else match readHead start with
    | .error rest =>
      .error (.unreadable line (Text.byteLength stripped - Text.byteLength rest))
    | .ok (key, rest) =>
      let value := Text.trimStart rest
      if isVacant value then .ok (some (key, []))
      else (readValue lookup value).map fun v => some (key, v)

end LinkReport.EnvFile
