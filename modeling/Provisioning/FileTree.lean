import Provisioning.FilePath

/-!
The directories and files that paths lead to. Places are lists of names from the root down, without
dots.
-/

namespace Provisioning

inductive FileEntry where
  | directory
  | file (text : String)
  deriving DecidableEq, Repr

structure FileTree where
  entries : List (List String × FileEntry) := []
  deriving Repr

namespace FileTree

def file? (tree : FileTree) (place : List String) : Option String :=
  tree.entries.findSome? fun (entry, content) =>
    match content with
    | .file text => if entry = place then some text else none
    | .directory => none

/-- The root is a directory, and so is everything that holds an entry. -/
def isDirectory (tree : FileTree) (place : List String) : Bool :=
  place.isEmpty || tree.entries.any fun (entry, content) =>
    place.isPrefixOf entry && (entry != place || content == .directory)

def holds (tree : FileTree) (place : List String) : Bool :=
  tree.isDirectory place || (tree.file? place).isSome

def insert (tree : FileTree) (place : List String) (content : FileEntry) : FileTree where
  entries := (place, content) :: tree.entries.filter fun entry => entry.1 != place

def append (tree : FileTree) (place : List String) (text : String) : FileTree :=
  tree.insert place (.file ((tree.file? place).getD "" ++ text))

def step? (tree : FileTree) (place : List String) (component : String) : Option (List String) :=
  if tree.isDirectory place then
    if component = "." then some place
    else if component = ".." then some place.dropLast
    else some (place ++ [component])
  else
    none

/-- Where a path leads from `start`, whether or not anything is there; `none` where it passes
through something that is no directory. -/
def place? (tree : FileTree) (start : List String) (path : String) : Option (List String) :=
  let start := if FilePath.isAbsolute path then [] else start
  (FilePath.components path).foldlM tree.step? start

def enter? (tree : FileTree) (place : List String) (component : String) :
    Option (FileTree × List String) :=
  match tree.step? place component with
  | none => none
  | some next =>
      if tree.isDirectory next then some (tree, next)
      else if (tree.file? next).isSome then none
      else some (tree.insert next .directory, next)

def makeDirectories? (tree : FileTree) (start : List String) :
    List String → Option (FileTree × List String)
  | [] => some (tree, start)
  | component :: rest => do
      let (tree, place) ← tree.enter? start component
      tree.makeDirectories? place rest

end FileTree

end Provisioning
