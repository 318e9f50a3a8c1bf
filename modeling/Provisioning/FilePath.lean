import Provisioning.Text.Blank

/-!
File paths as text. Two paths are the same when their components are: repeated and trailing slashes
and single dots after the start make no difference.
-/

namespace Provisioning.FilePath

def pieces (path : String) : List String :=
  (Text.stretches (· == '/') path.toList).map String.ofList

def isAbsolute (path : String) : Bool :=
  path.toList.head? == some '/'

/-- The components of a path without its root. A single dot counts at the start only. -/
def components (path : String) : List String :=
  match pieces path with
  | [] => []
  | first :: rest =>
      let kept := rest.filter fun piece => piece != "" && piece != "."
      if first = "" then kept else first :: kept

def same (left right : String) : Bool :=
  isAbsolute left == isAbsolute right && components left == components right

def join (base path : String) : String :=
  if isAbsolute path then
    path
  else if base = "" ∨ base.toList.getLast? = some '/' then
    base ++ path
  else
    base ++ "/" ++ path

def parentComponents? (path : String) : Option (List String) :=
  match components path with
  | [] => none
  | parts => some parts.dropLast

def normalize (path : String) : List String :=
  (components path).foldl (fun walked component =>
    if component = "." then walked
    else if component = ".." then walked.dropLast
    else walked ++ [component]) []

end Provisioning.FilePath
