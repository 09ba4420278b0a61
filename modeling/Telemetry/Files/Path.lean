/-!
Contract: the text of file paths.

Owns: the names a path is made of, joining paths, the file extension, and paths
beside a path.

Does not own: what a path leads to; see `Files.Tree`.
-/

namespace Telemetry.Path

/-- A leading slash makes a path absolute. -/
def isAbsolute (path : String) : Bool :=
  path.toList.head? = some '/'

/-- What stands between slashes, and before the first and after the last. -/
def pieces : List Char → List (List Char)
  | [] => [[]]
  | character :: rest =>
      if character = '/' then [] :: pieces rest
      else
        match pieces rest with
        | [] => [[character]]
        | piece :: others => (character :: piece) :: others

/-- The names a path is made of. Slashes at the ends and doubled ones add none. -/
def names (path : String) : List String :=
  ((pieces path.toList).filter fun piece => !piece.isEmpty).map String.ofList

/-- A slash at the end asks for a directory. -/
def asksForDirectory (path : String) : Bool :=
  path.toList.getLast? = some '/'

/-- A path below a directory; one that is absolute already stands for itself. -/
def join (directory path : String) : String :=
  if isAbsolute path || directory = "" then path
  else if asksForDirectory directory then directory ++ path
  else directory ++ "/" ++ path

/-- The names with which a path is resolved further: a name for the same directory counts
only at the start. -/
def significantNames (path : String) : List String :=
  match names path with
  | [] => []
  | first :: rest => first :: rest.filter (· ≠ ".")

/-- The names of the directory that holds the last name. -/
def parentNames (path : String) : List String :=
  (significantNames path).dropLast

/-- The last name, unless it only refers to a directory. -/
def fileName? (path : String) : Option String :=
  match (significantNames path).getLast? with
  | some name => if name = ".." ∨ name = "." then none else some name
  | none => none

/-- What follows the last point of a name, if something stands before the point. -/
def extension? (path : String) : Option String := do
  let name ← fileName? path
  let reversed := name.toList.reverse
  match reversed.dropWhile (· ≠ '.') with
  | '.' :: _ :: _ => some (String.ofList (reversed.takeWhile (· ≠ '.')).reverse)
  | _ => none

/-- A path of the same directory whose name has one extension more. -/
def withExtension? (path extension : String) : Option String := do
  let name ← fileName? path
  let start := if isAbsolute path then "/" else ""
  some (start ++ "/".intercalate (parentNames path ++ [name ++ "." ++ extension]))

end Telemetry.Path
