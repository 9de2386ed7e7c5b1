import Compositor.Host.Path
import Compositor.Host.ReadError

namespace Compositor.Host

inductive FileTree where
  | file (content : ByteArray)
  | directory (entries : List (String × FileTree))

namespace FileTree

def empty : FileTree := directory []

def child? (name : String) : FileTree → Option FileTree
  | file _ => none
  | directory entries => entries.lookup name

def get? : List String → FileTree → Option FileTree
  | [], tree => some tree
  | name :: names, tree => tree.child? name >>= get? names

def putEntry (name : String) (tree : FileTree) :
    List (String × FileTree) → List (String × FileTree)
  | [] => [(name, tree)]
  | (key, old) :: rest =>
    if key = name then (name, tree) :: rest else (key, old) :: putEntry name tree rest

/-- Puts a tree at a list of names; directories that are missing on the way are made. -/
def put : FileTree → List String → FileTree → FileTree
  | _, [], new => new
  | tree, name :: names, new =>
    let entries := match tree with
      | file _ => []
      | directory entries => entries
    directory (putEntry name (put ((entries.lookup name).getD empty) names new) entries)

/-- Limits on the bytes of a name and of a whole path. -/
def maxNameSize : Nat := 255
def maxPathSize : Nat := 4095

/--
Follows parts from the place `here`, a list of names. Only a directory has parts, its own and its
parent's among them; the root is its own parent.
-/
def walk (root : FileTree) : List String → List String → Except ReadError (List String)
  | here, [] => .ok here
  | here, part :: rest =>
    match root.get? here with
    | none => .error .notFound
    | some (file _) => .error .notDirectory
    | some (directory entries) =>
      if Path.isHere part then walk root here rest
      else if part = ".." then walk root here.dropLast rest
      else if maxNameSize < part.utf8ByteSize then .error .nameTooLong
      else if (entries.lookup part).isSome then walk root (here ++ [part]) rest
      else .error .notFound

/-- The place that a path names, seen from a working directory. -/
def locate (root : FileTree) (workingDirectory : List String) (path : String) :
    Except ReadError (List String) :=
  if path = "" then .error .notFound
  else if path.toList.contains '\x00' then .error .nullInPath
  else if maxPathSize < path.utf8ByteSize then .error .nameTooLong
  else walk root (if Path.isAbsolute path then [] else workingDirectory) (Path.parts path)

def read (root : FileTree) (workingDirectory : List String) (path : String) :
    Except ReadError ByteArray := do
  match root.get? (← root.locate workingDirectory path) with
  | none => .error .notFound
  | some (directory _) => .error .isDirectory
  | some (file content) => return content

/-- Writes a file into a directory that exists; a file of that name is replaced. -/
def write? (root : FileTree) (workingDirectory : List String) (path : String)
    (content : ByteArray) : Option FileTree :=
  let name := (Path.parts path).getLast?.getD ""
  if Path.isHere name ∨ name = ".." ∨ maxNameSize < name.utf8ByteSize ∨
      path.toList.contains '\x00' ∨ maxPathSize < path.utf8ByteSize then none
  else
    let start := if Path.isAbsolute path then [] else workingDirectory
    match root.walk start (Path.parts path).dropLast with
    | .error _ => none
    | .ok parent =>
      match root.get? parent with
      | some (directory entries) =>
        match entries.lookup name with
        | some (directory _) => none
        | _ => some (root.put (parent ++ [name]) (file content))
      | _ => none

end FileTree
end Compositor.Host
