import LinkReport.Text.Hex
import LinkReport.Text.Printable

/-!
# Quoted text

A text between double quotes, written so that it stays on one line and every character
can be told apart: five control and quoting characters have a short form with a
backslash, other characters that do not show by themselves are written as their code
point, and all others stand as they are.
-/

namespace LinkReport.Text

/-- A character between double quotes. -/
def quoteChar (c : Char) : List Char :=
  match c with
  | '\x00' => ['\\', '0']
  | '\t' => ['\\', 't']
  | '\r' => ['\\', 'r']
  | '\n' => ['\\', 'n']
  | '"' => ['\\', '"']
  | '\\' => ['\\', '\\']
  | _ => if isPrintable c then [c] else ['\\', 'u', '\x7b'] ++ hexDigits c.toNat ++ ['\x7d']

/-- A text in double quotes. -/
def quote (cs : List Char) : List Char :=
  '"' :: cs.flatMap quoteChar ++ ['"']

/-- A string in double quotes. -/
def quoted (s : String) : String :=
  String.ofList (quote s.toList)

end LinkReport.Text
