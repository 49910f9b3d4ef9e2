import LinkReport.Json.Printer

/-!
# The report

The library answers with a magic string and with the version of the JSON library that it
is linked with. A report holds both, to be shown as two lines or as one JSON object.
-/

namespace LinkReport

/-- The string that every build of the library returns. -/
def magicString : String := "cpp-example-lib Magic: 123456789"

/-- The version of the linked JSON library: the one that the build of this library has found in
its lock file and stamped, as a `BuildSite` does. -/
def linkedJsonVersion : String := "1.0.154"

/-- What the library answers. -/
structure Report where
  string : String
  jsonVersion : String
deriving DecidableEq, Repr

namespace Report

/-- The answers of this build. -/
def current : Report where
  string := magicString
  jsonVersion := linkedJsonVersion

/-- What stands before the string. -/
def stringLead : String := "C++ example linking "

/-- What stands before the version. -/
def versionLead : String := "Linking json-c version "

/-- The report as two lines. -/
def lines (r : Report) : List String :=
  [stringLead ++ r.string, versionLead ++ r.jsonVersion]

/-- The report as a JSON object, the string first. -/
def toValue (r : Report) : Json.Value :=
  .map [(.text "string", .text r.string), (.text "json_c_version", .text r.jsonVersion)]

/-- The report as one line of JSON. -/
def toLine (r : Report) : String :=
  String.ofList <|
    '\x7b' :: Json.writeString "string".toList ++ ':' :: Json.writeString r.string.toList ++
      ',' :: Json.writeString "json_c_version".toList ++ ':' ::
        Json.writeString r.jsonVersion.toList ++ ['\x7d']

/-- The line is the JSON text of the report's value. -/
theorem toLine_toValue (r : Report) : r.toValue.toLine = .ok r.toLine := by
  simp [toValue, Json.Value.toLine, Json.Value.write, Json.Value.writeEntries,
    Json.Value.keyText, toLine, bind, Except.bind, Except.map]

end Report
end LinkReport
