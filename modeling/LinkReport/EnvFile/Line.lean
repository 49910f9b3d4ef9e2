import LinkReport.EnvFile.Error
import LinkReport.Text.Blank
import LinkReport.Text.Bytes

/-!
# Logical lines

An environment file is read line by line. A physical line ends after a line feed. Quotes,
a backslash and a blank at its end keep a logical line open over the next physical line,
and a `#` after a blank cuts it short. Which of these holds is decided by a `Scan` over
the characters, the line feeds included. A physical line that is not UTF-8 and a file that
ends inside a logical line are faults, and nothing is read after a fault.
-/

namespace LinkReport.EnvFile

/-- The state of a scan between two characters of a logical line. -/
inductive Scan where
  /-- Outside quotes, where the line may end. -/
  | complete
  /-- After a blank outside quotes. -/
  | blank
  /-- After a backslash outside quotes. -/
  | escape
  /-- Between double quotes. -/
  | weak
  /-- After a backslash between double quotes. -/
  | weakEscape
  /-- Between single quotes. -/
  | strong
  /-- After a backslash between single quotes. -/
  | strongEscape
deriving DecidableEq, Repr

/-- The state after a quote or a backslash outside quotes, if `c` is one of them. -/
def Scan.opening? : Char → Option Scan
  | '\\' => some .escape
  | '"' => some .weak
  | '\'' => some .strong
  | _ => none

/-- The state after a character that does not start a comment. -/
def Scan.next : Scan → Char → Scan
  | .complete, c =>
    (opening? c).getD (if Text.isBlank c ∧ c ≠ '\n' ∧ c ≠ '\r' then .blank else .complete)
  | .blank, c => (opening? c).getD .complete
  | .escape, _ => .complete
  | .weak, c => if c = '\\' then .weakEscape else if c = '"' then .complete else .weak
  | .weakEscape, _ => .weak
  | .strong, c => if c = '\\' then .strongEscape else if c = '\'' then .complete else .strong
  | .strongEscape, _ => .strong

/-- How a scan over a physical line ends. -/
inductive ScanEnd where
  /-- At the end of the line, in this state. -/
  | reached (state : Scan)
  /-- Before a comment, after this part of the line. -/
  | comment (kept : List Char)
deriving DecidableEq, Repr

/-- The result with `c` in front of what is kept. -/
def ScanEnd.cons (c : Char) : ScanEnd → ScanEnd
  | .reached state => .reached state
  | .comment kept => .comment (c :: kept)

/-- Scans a physical line. A comment starts at a `#` after a blank outside quotes. -/
def Scan.run : Scan → List Char → ScanEnd
  | state, [] => .reached state
  | state, c :: cs =>
    if state = .blank ∧ c = '#' then .comment []
    else (run (state.next c) cs).cons c

/-- The physical lines of a file, each with the line feed that ends it. -/
def physicalLines : List UInt8 → List (List UInt8)
  | [] => []
  | b :: bs =>
    if b = 10 then [b] :: physicalLines bs
    else match physicalLines bs with
      | [] => [[b]]
      | line :: lines => (b :: line) :: lines

/-- The physical lines hold the bytes of the file, in order. -/
theorem flatten_physicalLines (bs : List UInt8) : (physicalLines bs).flatten = bs := by
  induction bs with
  | nil => rfl
  | cons b bs ih =>
    rw [physicalLines]
    split
    · simp [ih]
    · split
      · next h => rw [h] at ih; simp_all
      · next h => rw [h] at ih; simp_all

/-- The line without the line feed at its end and without one carriage return before it. -/
def chomp (line : List Char) : List Char :=
  match line.reverse with
  | '\n' :: '\r' :: rest => rest.reverse
  | '\n' :: rest => rest.reverse
  | _ => line

/-- The text holds nothing but a comment so far. -/
def startsComment (cs : List Char) : Bool :=
  (Text.trimStart cs).head? == some '#'

/-- The logical lines that follow when `pending` has been read of the current one and the
scan stands in `state`. A fault is the last element. -/
def logicalLinesFrom (pending : List Char) (state : Scan) :
    List (List UInt8) → List (Except Error (List Char))
  | [] =>
    if state = .complete then []
    else [.error (.unreadable pending (Text.byteLength pending))]
  | bytes :: rest =>
    match Text.ofUtf8? bytes with
    | none => [.error .notUtf8]
    | some line =>
      let text := pending ++ line
      -- a comment is known by its first character, whatever the scan would make of the rest
      if startsComment text then .ok [] :: logicalLinesFrom [] .complete rest
      else match state.run line with
        | .comment kept => .ok (pending ++ kept) :: logicalLinesFrom [] .complete rest
        | .reached .complete => .ok (chomp text) :: logicalLinesFrom [] .complete rest
        | .reached state => logicalLinesFrom text state rest

/-- The logical lines of a file, up to the first fault. -/
def logicalLines (content : List UInt8) : List (Except Error (List Char)) :=
  logicalLinesFrom [] .complete (physicalLines content)

end LinkReport.EnvFile
