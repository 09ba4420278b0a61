import Telemetry.Files.Path

/-!
Contract: a tree of files and directories.

Owns:
- following a path from the current directory, with the reasons why it leads
  nowhere;
- reading files, making directories and appending to files.

Places are lists of names from the root. Every directory above the current one
is part of the tree.
-/

namespace Telemetry

inductive FileError where
  | notFound
  | alreadyExists
  | notDirectory
  | isDirectory
  | notText
deriving DecidableEq, Repr

def FileError.message : FileError → String
  | .notFound => "No such file or directory (os error 2)"
  | .alreadyExists => "File exists (os error 17)"
  | .notDirectory => "Not a directory (os error 20)"
  | .isDirectory => "Is a directory (os error 21)"
  | .notText => "stream did not contain valid UTF-8"

inductive FileNode where
  | directory
  | file (text : String)
deriving DecidableEq, Repr

structure FileTree where
  /-- The place of the current directory. -/
  current : List String := []
  nodes : List (List String × FileNode) := [([], .directory)]

namespace FileTree

def node? (tree : FileTree) (place : List String) : Option FileNode :=
  tree.nodes.lookup place

/-- Put a node at a place, instead of what was there. -/
def put (tree : FileTree) (place : List String) (node : FileNode) : FileTree :=
  { tree with nodes := (place, node) :: tree.nodes.filter fun entry => entry.1 ≠ place }

/-- Put directories at a place and above it where there is nothing. -/
def putDirectories (tree : FileTree) (place : List String) : FileTree :=
  (List.range (place.length + 1)).foldl
    (fun tree depth =>
      match tree.node? (place.take depth) with
      | some _ => tree
      | none => tree.put (place.take depth) .directory)
    tree

/-- A tree that holds the current directory and those above it. -/
def startingIn (current : List String) : FileTree :=
  putDirectories { current } current

/-- Where one name leads from a directory. -/
def follow (place : List String) (name : String) : List String :=
  if name = "." then place
  else if name = ".." then place.dropLast
  else place ++ [name]

/-- Where names lead from a place. All but the last of them must lead to directories. -/
def walk (tree : FileTree) (place : List String) : List String → Except FileError (List String)
  | [] => .ok place
  | name :: names =>
      match tree.node? place with
      | some .directory => tree.walk (follow place name) names
      | some (.file _) => .error .notDirectory
      | none => .error .notFound

/-- Where paths start. -/
def origin (tree : FileTree) (path : String) : List String :=
  if Path.isAbsolute path then [] else tree.current

/-- The place a path denotes, whether or not something is there. -/
def place (tree : FileTree) (path : String) : Except FileError (List String) :=
  if path = "" then .error .notFound
  else tree.walk (tree.origin path) (Path.names path)

/-- What a path leads to. -/
def find (tree : FileTree) (path : String) : Except FileError FileNode :=
  match tree.place path with
  | .error error => .error error
  | .ok place =>
      match tree.node? place with
      | none => .error .notFound
      | some (.file content) =>
          if Path.asksForDirectory path then .error .notDirectory else .ok (.file content)
      | some .directory => .ok .directory

def contains (tree : FileTree) (path : String) : Bool :=
  (tree.find path).isOk

/-- The text of a file; directories have none. -/
def text? (tree : FileTree) (path : String) : Option String :=
  match tree.find path with
  | .ok (.file content) => some content
  | _ => none

/-- Go down from a place name by name, making the directories that are missing. -/
def makeBelow (tree : FileTree) (place : List String) :
    List String → Except FileError Unit × FileTree
  | [] => (.ok (), tree)
  | name :: names =>
      let next := follow place name
      match tree.node? next with
      | some .directory => tree.makeBelow next names
      | some (.file _) =>
          (.error (if names.isEmpty then .alreadyExists else .notDirectory), tree)
      | none => (tree.put next .directory).makeBelow next names

/-- Make the directories above the file that a path names. -/
def makeParents (tree : FileTree) (path : String) : Except FileError Unit × FileTree :=
  tree.makeBelow (tree.origin path) (Path.parentNames path)

/-- Append to a file, which is made if it is missing. -/
def append (tree : FileTree) (path addition : String) : Except FileError Unit × FileTree :=
  match tree.place path with
  | .error error => (.error error, tree)
  | .ok place =>
      match tree.node? place with
      | some .directory => (.error .isDirectory, tree)
      | some (.file content) =>
          if Path.asksForDirectory path then (.error .isDirectory, tree)
          else (.ok (), tree.put place (.file (content ++ addition)))
      | none =>
          if Path.asksForDirectory path then (.error .isDirectory, tree)
          else
            match tree.node? place.dropLast with
            | some .directory => (.ok (), tree.put place (.file addition))
            | some (.file _) => (.error .notDirectory, tree)
            | none => (.error .notFound, tree)

end FileTree

end Telemetry
