import Schemata.Url

/-!
# Where a connection URL leads

What stands behind the scheme of a `sqlite` URL names a database, and its query says how to open it. A
database is held in memory when its name or the query says so, and one without a name is held in a file
that goes with the connection. Any other name is the name of a file. No such file is there, so opening
it needs leave to create it.
-/

namespace Schemata.Sqlite

/-- How a database is to be opened. -/
structure OpenMode where
  isInMemory : Bool
  isReadOnly : Bool
  mayCreate : Bool
  /-- Whether something is asked of the file that its name has to carry. -/
  isQualified : Bool
deriving Repr, DecidableEq

namespace OpenMode

def standard : OpenMode :=
  ⟨false, false, false, false⟩

/-- The file systems that the engine knows. -/
def fileSystems : List String :=
  ["unix", "unix-none", "unix-dotfile", "unix-excl", "memdb"]

/-- The effect of one name-value pair of a query; most pairs are refused. -/
def set? (m : OpenMode) (name value : List Char) : Option OpenMode :=
  match String.ofList name, String.ofList value with
  | "mode", "ro" => some { m with isReadOnly := true }
  | "mode", "rw" => some m
  | "mode", "rwc" => some { m with mayCreate := true }
  | "mode", "memory" => some { m with isInMemory := true }
  | "cache", "private" => some m
  | "cache", "shared" => some m
  | "immutable", "true" => some { m with isQualified := true }
  | "immutable", "1" => some { m with isQualified := true }
  | "immutable", "false" => some m
  | "immutable", "0" => some m
  | "vfs", system =>
    if fileSystems.contains system then
      some { m with isQualified := true, isInMemory := m.isInMemory || system == "memdb" }
    else none
  | _, _ => none

/-- The mode that a query asks for. -/
def ofQuery? (query : List Char) : Option OpenMode := do
  (← Url.formPairs? query).foldlM (fun m pair => m.set? pair.1 pair.2) standard

end OpenMode

/-- The name of the database that is held in memory. -/
def memoryName : List Char :=
  ":memory:".toList

/-- A text without the occurrences of a mark that it begins with; each of them takes at least one
character, so a `bound` of the length of the text is enough. -/
def withoutLeading (mark : List Char) : Nat → List Char → List Char
  | 0, cs => cs
  | bound + 1, cs =>
    if mark.isPrefixOf cs then withoutLeading mark bound (cs.drop mark.length) else cs

/-- The path of a file name that is itself a URL of a file. It may name this host alone. -/
def pathOfFileUrl? (cs : List Char) : Option (List Char) :=
  let beforeQuery := (cs.takeWhile fun c => !(c == '?' || c == '#'))
  let path? :=
    if ['/', '/'].isPrefixOf beforeQuery then
      let host := (beforeQuery.drop 2).takeWhile (· ≠ '/')
      if host.isEmpty ∨ host = "localhost".toList then some (beforeQuery.drop (2 + host.length))
      else none
    else some beforeQuery
  path?.bind Url.percentDecodedText?

/-- The name under which the engine looks for a database. -/
def fileName? (mode : OpenMode) (name : List Char) : Option (List Char) :=
  if name.contains '\x00' then none
  else if "file:".toList.isPrefixOf name ∧ mode.isQualified = false then
    pathOfFileUrl? (name.drop 5)
  else some name

inductive Location where
  | memory
  /-- A file without a name, which goes with the connection. -/
  | temporary
  | file (name : List Char) (mayCreate : Bool)
deriving Repr, DecidableEq

namespace Location

/-- Where a name leads under a mode. -/
def ofName? (mode : OpenMode) (name : List Char) : Option Location :=
  (fileName? mode name).map fun file =>
    if mode.isInMemory ∨ file = memoryName then memory
    else if file = [] then temporary
    else .file file (mode.mayCreate && !mode.isReadOnly)

/-- Where a URL leads, unless its query asks for something unknown. -/
def ofUrl? (u : Url) : Option Location := do
  let behind := u.behindScheme
  let (written, query) := Url.splitAt '?' (withoutLeading "sqlite:".toList behind.length behind)
  let mode ← OpenMode.ofQuery? (query.getD [])
  if written = memoryName then return memory
  ofName? mode (← Url.percentDecodedText? written)

/-- Whether a database can be opened there. -/
def opens : Location → Bool
  | file _ mayCreate => mayCreate
  | _ => true

end Location

end Schemata.Sqlite
