import LinkReport.Text.Bytes
import LinkReport.Toml.Document

/-!
# Lock files

A lock file is a TOML document that lists packages with their versions. The version of a
package is that of its first entry, and it is known only if the whole file is valid.
-/

namespace LinkReport.LockFile

/-- The text that a table has under a key. -/
def text? (key : String) (t : Toml.Table) : Option String :=
  (t.get? key).bind Toml.Item.text?

/-- The tables that a document lists as packages. -/
def packages? (document : Toml.Table) : Option (List Toml.Table) :=
  (document.get? "package").bind Toml.Item.tables?

/-- The version of the first entry of a package in a document. -/
def versionIn? (package : String) (document : Toml.Table) : Option String := do
  let entries ← packages? document
  let entry ← entries.find? fun entry => text? "name" entry == some package
  text? "version" entry

/-- The version of a package in the lock file with these bytes. -/
def version? (package : String) (content : List UInt8) : Option String := do
  let text ← Text.ofUtf8? content
  let document ← Toml.Table.read? text
  versionIn? package document

end LinkReport.LockFile
