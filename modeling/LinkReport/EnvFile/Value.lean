import LinkReport.EnvFile.Error
import LinkReport.Text.Alphanumeric
import LinkReport.Text.Bytes

/-!
# Values

The value of an entry is read character by character. Single quotes keep everything,
double quotes keep blanks and `#`, a backslash keeps one of a few characters, and `$name`
and `${name}` stand for the value of a variable. A blank outside quotes ends the value,
and only blanks and a comment may follow it.
-/

namespace LinkReport.EnvFile

/-- The state of the reading between two characters of a value. `quoted` tells whether the
place is between double quotes. -/
inductive Mode where
  /-- Where a character stands for itself. -/
  | plain (quoted : Bool)
  /-- After a backslash. -/
  | escape (quoted : Bool)
  /-- Between single quotes. -/
  | single
  /-- After `$` and a part of a name. -/
  | name (quoted : Bool) (part : List Char)
  /-- After an opening brace and a part of a name. -/
  | braced (quoted : Bool) (part : List Char)
  /-- After the end of the value. -/
  | ended
deriving DecidableEq, Repr

/-- What one character does: it ends the reading, it is a fault, or it adds a text to the
value and leads to a mode. -/
inductive Move where
  | stop
  | fault
  | go (mode : Mode) (added : List Char)

/-- What a backslash keeps. -/
def unescape? : Char → Option Char
  | 'n' => some '\n'
  | c => if c = '\\' ∨ c = '\'' ∨ c = '"' ∨ c = '$' ∨ c = ' ' then some c else none

/-- What a character does in a mode, when `lookup` gives the values of variables. -/
def Mode.step (lookup : List Char → List Char) (mode : Mode) (c : Char) : Move :=
  match mode with
  | .ended => if c = ' ' ∨ c = '\t' then .go .ended [] else if c = '#' then .stop else .fault
  | .escape quoted =>
    match unescape? c with
    | some kept => .go (.plain quoted) [kept]
    | none => .fault
  | .single => if c = '\'' then .go (.plain false) [] else .go .single [c]
  | .name quoted part =>
    if Text.isAlphanumeric c then .go (.name quoted (part ++ [c])) []
    else if c = '\x7b' ∧ part = [] then .go (.braced quoted []) []
    else if c = '$' then .go (.name quoted []) (lookup part)
    -- the character that ends a name stands for itself, even a quote or a backslash
    else .go (.plain quoted) (lookup part ++ [c])
  | .braced quoted part =>
    if c = '\x7d' then .go (.plain quoted) (lookup part)
    else .go (.braced quoted (part ++ [c])) []
  | .plain quoted =>
    if c = '$' then .go (.name quoted []) []
    else if quoted then
      if c = '"' then .go (.plain false) []
      else if c = '\\' then .go (.escape true) []
      else .go (.plain true) [c]
    else if c = '\'' then .go .single []
    else if c = '"' then .go (.plain true) []
    else if c = '\\' then .go (.escape false) []
    else if c = ' ' ∨ c = '\t' then .go .ended []
    else .go (.plain false) [c]

/-- Why a value cannot be read. -/
inductive ValueFault where
  /-- The character at this place cannot stand there. -/
  | character (index : Nat)
  /-- A quote or a brace is still open at the end. -/
  | unclosed
deriving DecidableEq, Repr

/-- What the end of the text adds in a mode. An escape left open outside quotes adds
nothing. -/
def Mode.finish (lookup : List Char → List Char) : Mode → Except ValueFault (List Char)
  | .ended | .plain false | .escape false => .ok []
  | .name false part => .ok (lookup part)
  | .plain true | .escape true | .single | .name true _ | .braced _ _ => .error .unclosed

/-- The value that a text has from a mode on, where `index` characters have been read. -/
def Mode.read (lookup : List Char → List Char) (mode : Mode) (index : Nat) :
    List Char → Except ValueFault (List Char)
  | [] => mode.finish lookup
  | c :: cs =>
    match mode.step lookup c with
    | .stop => .ok []
    | .fault => .error (.character index)
    | .go mode added => (mode.read lookup (index + 1) cs).map (added ++ ·)

/-- The value that `text` writes. A fault is reported with the whole text, at a place in
characters, or in bytes before its end. -/
def readValue (lookup : List Char → List Char) (text : List Char) :
    Except Error (List Char) :=
  match (Mode.plain false).read lookup 0 text with
  | .ok value => .ok value
  | .error (.character index) => .error (.unreadable text index)
  | .error .unclosed => .error (.unreadable text (Text.byteLength text - 1))

end LinkReport.EnvFile
