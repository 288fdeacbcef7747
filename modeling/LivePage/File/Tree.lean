import LivePage.Dictionary
import LivePage.File.Basic
import LivePage.File.Path
/-!
# File trees

A directory with all that is in it, as a value.
-/
namespace LivePage

/-- A file with its bytes, or a directory with its entries. -/
inductive FileTree where
  | file (bytes : ByteArray)
  | directory (entries : List (String × FileTree))

namespace FileTree

def empty : FileTree := directory []

def children : FileTree → Dictionary FileTree
  | file _ => []
  | directory entries => entries

/-- Changes what is at a path of names; directories on the way are made. -/
def alter (f : Option FileTree → FileTree) : List String → Option FileTree → FileTree
  | [], tree => f tree
  | name :: names, tree =>
    let entries := (tree.getD empty).children
    directory (Dictionary.insert name (alter f names (entries.lookup name)) entries)

/-- Makes the directories of a path and stores a file there. A double dot leads back out of a directory, which is
made all the same. -/
def store (tree : FileTree) (path : String) (bytes : ByteArray) : FileTree :=
  let step (state : FileTree × List String) (name : String) : FileTree × List String :=
    let (tree, place) := state
    let tree := alter (·.getD empty) place (some tree)
    (tree, if name = ".." then place.dropLast else place ++ [name])
  let (tree, place) := (Path.components path).foldl step (tree, [])
  alter (fun _ => file bytes) place (some tree)

/-- The directory that holds the given files. -/
def ofFiles (files : List (String × ByteArray)) : FileTree :=
  files.foldl (fun tree (path, bytes) => tree.store path bytes) empty

/-- What a path leads to from a node whose surrounding directories are given, innermost first. Around the outermost
one nothing is known. -/
def walk : List FileTree → FileTree → List String → Except FileFault FileTree
  | _, tree, [] => .ok tree
  | _, file _, _ :: _ => .error .notDirectory
  | around, directory entries, name :: names =>
    if name = "" ∨ name = "." then walk around (directory entries) names
    else if name = ".." then
      match around with
      | [] => walk [] empty names
      | outer :: around => walk around outer names
    else
      match entries.lookup name with
      | none => .error .missing
      | some tree => walk (directory entries :: around) tree names

/-- What a path leads to, for a tree that is placed at `root`. -/
def find (tree : FileTree) (root path : String) : Except FileFault FileTree :=
  let names (path : String) := (Text.splitOn '/' path.toList).map String.ofList
  if path.isEmpty then .error .missing
  else if Path.isAbsolute path then
    match (Path.components root).isPrefixOf (Path.components path), Path.components path with
    | true, _ => walk [] tree ((names path).drop (Path.components root).length.succ)
    | false, [] => .ok empty
    | false, _ => .error .missing
  else walk [] tree (names path)

/-- Access to the files of a tree that is placed at `root`. -/
def files (tree : FileTree) (root : String) : Files Id where
  workingDirectory := root
  read path :=
    match tree.find root path with
    | .error fault => .error fault
    | .ok (directory _) => .error .isDirectory
    | .ok (file bytes) =>
      match String.fromUTF8? bytes with
      | some text => .ok text
      | none => .error .invalidText
  isFile path := match tree.find root path with
    | .ok (file _) => true
    | _ => false
  isDirectory path := match tree.find root path with
    | .ok (directory _) => true
    | _ => false
  entries path := match tree.find root path with
    | .ok (directory entries) => entries.map (·.1)
    | _ => []

end FileTree

end LivePage
