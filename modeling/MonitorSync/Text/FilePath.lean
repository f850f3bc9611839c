import MonitorSync.Text.Replace
set_option autoImplicit false

/-!
# The parts of a file path

A path is a row of names between slashes. Empty names count for nothing, and neither does a single
dot, unless the path starts with it.

## Main definitions

* `FilePath` — the names in a path
* `FilePath.fileName?`, `FilePath.extension?`, `FilePath.parent?` — what a path says of a file
-/

namespace MonitorSync

/-- A path: whether it starts at the root, and the names after that in reverse. -/
structure FilePath where
  isAbsolute : Bool
  names : List (List Char)

namespace FilePath

/-- Drops the last names as long as they count for nothing. -/
def dropIdle (isAbsolute : Bool) : List (List Char) → List (List Char)
  | [] => []
  | name :: rest =>
    if name.isEmpty || (name = ['.'] && (isAbsolute || !rest.isEmpty)) then
      dropIdle isAbsolute rest
    else name :: rest

/-- The path that a text writes. -/
def ofText (s : String) : FilePath :=
  let names := splitAtPattern ['/'] s.toList
  let isAbsolute := s.toList.head? = some '/'
  ⟨isAbsolute, dropIdle isAbsolute (if isAbsolute then names.drop 1 else names).reverse⟩

/-- The written form of a path. -/
def toText (p : FilePath) : String :=
  String.ofList ((if p.isAbsolute then ['/'] else []) ++ List.intercalate ['/'] p.names.reverse)

/-- The name of the file, unless the path ends with a dot or leads back. -/
def fileName? (p : FilePath) : Option (List Char) :=
  p.names.head?.filter fun name => name ≠ ['.'] && name ≠ ['.', '.']

/-- What stands in the name of the file behind its last dot, unless it starts with that. -/
def extension? (p : FilePath) : Option (List Char) := do
  let name ← p.fileName?
  let ending := (name.reverse.takeWhile (· ≠ '.')).reverse
  if ending.length + 1 < name.length then some ending else none

/-- The path without its last name. -/
def parent? (p : FilePath) : Option FilePath :=
  match p.names with
  | [] => none
  | _ :: rest => some { p with names := dropIdle p.isAbsolute rest }

end FilePath

/-- Repeated slashes and single dots between names count for nothing. -/
example :
    let p := FilePath.ofText "/etc//ssl/./ca.pem/"
    p.fileName? = some "ca.pem".toList ∧ p.extension? = some "pem".toList ∧
      p.parent?.map FilePath.toText = some "/etc//ssl" := by
  decide +kernel

end MonitorSync
