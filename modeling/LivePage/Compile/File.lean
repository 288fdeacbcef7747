import LivePage.Compile
import LivePage.File.Basic
import LivePage.File.Path
import LivePage.Frontmatter.Decode
/-!
# Compiling files

A page is known by its path from the root, wherever the path that was given starts.
-/
namespace LivePage

/-- Compiles a document (`compile_with`). -/
def compile (source file : String) (options : CompileOptions) : Except CompileFailure Compiled :=
  compileWith Header.decode source file options

def FileFault.toError (f : FileFault) (file : String) : CompileError :=
  { kind := .structural, file, line := 1, message := s!"failed to read file: {f.message}" }

/-- Compiles the document in a file (`compile_file_with`). -/
def compileFile {m : Type → Type} [Monad m] (files : Files m) (path : String) (options : CompileOptions) :
    m (Except CompileFailure Compiled) := do
  let file := Path.absolute files.workingDirectory path
  match ← files.read path with
  | .ok source => return compile source file options
  | .error fault => return .error (.error (fault.toError file))

end LivePage
