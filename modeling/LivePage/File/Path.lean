import LivePage.Text.Basic
/-!
# Paths

Paths are texts whose components are separated by slashes. A single dot stands for the directory that it is in, and
a double dot for the one around it.
-/
namespace LivePage.Path

open Text

/-- The components of a path that lead somewhere. -/
def components (path : String) : List String :=
  (splitOn '/' path.toList).filterMap fun c => if c.isEmpty || c == ['.'] then none else some (String.ofList c)

/-- The path of an entry of a directory. -/
def join (directory entry : String) : String :=
  if directory.isEmpty || directory.endsWith "/" then directory ++ entry else s!"{directory}/{entry}"

def isAbsolute (path : String) : Bool := path.startsWith "/"

/-- The path from the root for a path that starts in `directory`. Dots that lead nowhere are dropped, double dots and
a slash at the end are kept, and so is a pair of slashes at the start. -/
def absolute (directory path : String) : String :=
  let names := components path
  let root := if path.startsWith "//" && !path.startsWith "///" then "//" else "/"
  let start := if isAbsolute path then root else directory
  let whole := names.foldl join start
  if path.endsWith "/" then join whole "" else whole

/-- The last component of a path without its extension, which starts with the last dot that does not open it. -/
def stem? (path : String) : Option String := do
  let name ← (components path).getLast?
  if name = ".." then none else
  match splitFirst? '.' name.toList.reverse with
  | some (_, rest@(_ :: _)) => some (String.ofList rest.reverse)
  | _ => some name

end LivePage.Path
