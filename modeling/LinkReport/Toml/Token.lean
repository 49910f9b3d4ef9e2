import LinkReport.Text.Hex

/-!
# TOML blanks, comments, strings and keys

The smallest parts of a document. A reader takes the rest of the document and gives what
it has read with the rest after it, or nothing if the part does not start here.
-/

namespace LinkReport.Toml

/-- A reader of a part of a document. -/
abbrev Reader (α : Type) := List Char → Option (α × List Char)

/-- A blank inside a line. -/
def isBlank (c : Char) : Bool :=
  c == ' ' || c == '\t'

/-- The text after the blanks at its start. -/
def skipBlanks (cs : List Char) : List Char :=
  cs.dropWhile isBlank

/-- A character that may stand in a comment: a tab, or any other than a control. -/
def isCommentChar (c : Char) : Bool :=
  c == '\t' || (0x20 ≤ c.toNat && c != '\x7f')

/-- The text after the end of a line, which may be the end of the document. -/
def skipLineEnd? : List Char → Option (List Char)
  | [] => some []
  | '\n' :: rest => some rest
  | '\r' :: '\n' :: rest => some rest
  | _ => none

/-- The text after a comment, if there is one. -/
def skipComment : List Char → List Char
  | '#' :: rest => rest.dropWhile isCommentChar
  | cs => cs

/-- The text after blanks, a comment and the end of the line; none if there is more on the
line. -/
def skipRestOfLine? (cs : List Char) : Option (List Char) :=
  skipLineEnd? (skipComment (skipBlanks cs))

/-- The text after blanks, line ends and comments. -/
def skipFiller : (inComment : Bool) → List Char → List Char
  | _, [] => []
  | _, '\n' :: rest => skipFiller false rest
  | _, '\r' :: '\n' :: rest => skipFiller false rest
  | true, c :: rest => if isCommentChar c then skipFiller true rest else c :: rest
  | false, c :: rest =>
    if isBlank c then skipFiller false rest
    else if c = '#' then skipFiller true rest
    else c :: rest

/-! ## Strings -/

/-- A character that stands for itself between double quotes. -/
def isBasicChar (c : Char) : Bool :=
  isCommentChar c && c != '"' && c != '\\'

/-- A character that stands for itself between single quotes. -/
def isLiteralChar (c : Char) : Bool :=
  isCommentChar c && c != '\''

/-- The character that a letter after a backslash stands for. -/
def shortEscape? : Char → Option Char
  | 'b' => some '\x08'
  | 't' => some '\t'
  | 'n' => some '\n'
  | 'f' => some '\x0c'
  | 'r' => some '\r'
  | '"' => some '"'
  | '\\' => some '\\'
  | _ => none

/-- The character whose code point hexadecimal digits write; none if there is no such
character. -/
def hexChar? (cs : List Char) : Option Char :=
  (Text.hexValue? cs).bind fun n => if n.isValidChar then some (Char.ofNat n) else none

/-- The result of a reader with one more character in front. -/
def withChar (c : Char) (read : Option (List Char × List Char)) :
    Option (List Char × List Char) :=
  read.map fun (cs, rest) => (c :: cs, rest)

/-- A string on one line, after its opening double quote. -/
def readBasic : Reader (List Char)
  | '"' :: rest => some ([], rest)
  | '\\' :: 'u' :: a :: b :: c :: d :: rest =>
    (hexChar? [a, b, c, d]).bind fun x => withChar x (readBasic rest)
  | '\\' :: 'U' :: a :: b :: c :: d :: e :: f :: g :: h :: rest =>
    (hexChar? [a, b, c, d, e, f, g, h]).bind fun x => withChar x (readBasic rest)
  | '\\' :: e :: rest => (shortEscape? e).bind fun x => withChar x (readBasic rest)
  | c :: rest => if isBasicChar c then withChar c (readBasic rest) else none
  | [] => none

/-- A string on one line, after its opening single quote. -/
def readLiteral : Reader (List Char)
  | '\'' :: rest => some ([], rest)
  | c :: rest => if isLiteralChar c then withChar c (readLiteral rest) else none
  | [] => none

/-- The quotes that stand before the three that close a string, at most two of them. -/
def closingQuotes (quote : Char) (cs : List Char) : List Char × List Char :=
  match cs with
  | a :: b :: rest =>
    if a = quote ∧ b = quote then ([quote, quote], rest)
    else if a = quote then ([quote], b :: rest)
    else ([], cs)
  | [a] => if a = quote then ([quote], []) else ([], cs)
  | [] => ([], [])

/-- A line end stands after blanks. -/
def startsLineEnd (cs : List Char) : Bool :=
  match skipBlanks cs with
  | '\n' :: _ => true
  | '\r' :: '\n' :: _ => true
  | _ => false

/-- A string on several lines, after the three double quotes that open it. While
`skipping`, blanks and line ends are left out, as they are after a backslash at the end of
a line. -/
def readBasicLines : (skipping : Bool) → Reader (List Char)
  | true, '\n' :: rest => readBasicLines true rest
  | true, '\r' :: '\n' :: rest => readBasicLines true rest
  | true, ' ' :: rest => readBasicLines true rest
  | true, '\t' :: rest => readBasicLines true rest
  | _, '"' :: '"' :: '"' :: rest => some (closingQuotes '"' rest)
  | _, '"' :: rest => withChar '"' (readBasicLines false rest)
  | _, '\n' :: rest => withChar '\n' (readBasicLines false rest)
  | _, '\r' :: '\n' :: rest => withChar '\n' (readBasicLines false rest)
  | _, '\\' :: 'u' :: a :: b :: c :: d :: rest =>
    (hexChar? [a, b, c, d]).bind fun x => withChar x (readBasicLines false rest)
  | _, '\\' :: 'U' :: a :: b :: c :: d :: e :: f :: g :: h :: rest =>
    (hexChar? [a, b, c, d, e, f, g, h]).bind fun x => withChar x (readBasicLines false rest)
  | _, '\\' :: e :: rest =>
    if startsLineEnd (e :: rest) then readBasicLines true rest
    else (shortEscape? e).bind fun x => withChar x (readBasicLines false rest)
  | _, c :: rest => if isBasicChar c then withChar c (readBasicLines false rest) else none
  | _, [] => none

/-- A string on several lines, after the three single quotes that open it. -/
def readLiteralLines : Reader (List Char)
  | '\'' :: '\'' :: '\'' :: rest => some (closingQuotes '\'' rest)
  | '\'' :: rest => withChar '\'' (readLiteralLines rest)
  | '\n' :: rest => withChar '\n' (readLiteralLines rest)
  | '\r' :: '\n' :: rest => withChar '\n' (readLiteralLines rest)
  | c :: rest => if isLiteralChar c then withChar c (readLiteralLines rest) else none
  | [] => none

/-- The text without a line end at its start. -/
def skipFirstLineEnd : List Char → List Char
  | '\n' :: rest => rest
  | '\r' :: '\n' :: rest => rest
  | cs => cs

/-- A string of any of the four kinds. -/
def readString : Reader (List Char)
  | '"' :: '"' :: '"' :: rest => readBasicLines false (skipFirstLineEnd rest)
  | '"' :: rest => readBasic rest
  | '\'' :: '\'' :: '\'' :: rest => readLiteralLines (skipFirstLineEnd rest)
  | '\'' :: rest => readLiteral rest
  | _ => none

/-! ## Keys -/

/-- A character of a key without quotes. -/
def isBareKeyChar (c : Char) : Bool :=
  c.isAlphanum || c == '-' || c == '_'

/-- A key between two points. -/
def readSimpleKey : Reader (List Char)
  | '"' :: rest => readBasic rest
  | '\'' :: rest => readLiteral rest
  | cs =>
    if cs.takeWhile isBareKeyChar = [] then none
    else some (cs.takeWhile isBareKeyChar, cs.dropWhile isBareKeyChar)

/-- Keys with points and perhaps blanks between them, and the text after the blanks that
follow them. Every key but the last uses up a character, so the length of the text is fuel
enough. -/
def readKeys : Nat → Reader (List String)
  | 0, _ => none
  | fuel + 1, cs => do
    let (key, rest) ← readSimpleKey (skipBlanks cs)
    match skipBlanks rest with
    | '.' :: rest => do
      let (keys, rest) ← readKeys fuel rest
      some (String.ofList key :: keys, rest)
    | rest => some ([String.ofList key], rest)

/-- Deeper nesting than this is refused. -/
def nestingLimit : Nat := 80

/-- A dotted key, with the blanks around it. -/
def readKey (cs : List Char) : Option (List String × List Char) := do
  let (keys, rest) ← readKeys (cs.length + 1) cs
  if keys.length < nestingLimit then some (keys, rest) else none

end LinkReport.Toml
