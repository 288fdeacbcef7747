/-!
# Files

What a program asks of the files around it. The answers may come from a disk or from a value, so what is done with
them does not depend on where they come from.
-/
namespace LivePage

/-- Why a file cannot be read as text. -/
inductive FileFault where
  | missing
  | isDirectory
  | notDirectory
  | invalidText
  | other (message : String)
deriving DecidableEq, Repr

def FileFault.message : FileFault → String
  | missing => "No such file or directory (os error 2)"
  | isDirectory => "Is a directory (os error 21)"
  | notDirectory => "Not a directory (os error 20)"
  | invalidText => "stream did not contain valid UTF-8"
  | other message => message

/-- Access to files, by path. -/
structure Files (m : Type → Type) where
  workingDirectory : String
  read : String → m (Except FileFault String)
  isFile : String → m Bool
  isDirectory : String → m Bool
  /-- The names in a directory, in any order; nothing for what is no directory. -/
  entries : String → m (List String)

end LivePage
