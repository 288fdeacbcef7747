import LivePage.Source
import LivePage.Task.Section
/-!
# Synthesis

Replaces the items of every task section by one fenced block of live interface, bound to a source that names the
section in the page's own file. All other lines stay as they are, and every line of the new body remembers the line
that it came from.
-/
namespace LivePage

open Text

/-- A body after synthesis (`Synthesis`). -/
structure Synthesis where
  body : String
  sources : Dictionary SourceConfig := []
  /-- For each line of the body, the line that it came from; none when nothing was replaced. -/
  origins : Option (List Nat) := none

/-- A line of the new body with the line that it came from. -/
structure OriginLine where
  text : String
  origin : Nat
deriving DecidableEq, Repr

namespace TaskSection

def sourceName (s : TaskSection) : String := "_auto_" ++ s.anchor

/-- The template of a block that shows the items of a source and takes new ones (`task_template`). -/
def template (source : String) : List String :=
  let bound := "lvt-source=\"" ++ source ++ "\""
  [ "<div class=\"livedoc-tasks\" " ++ bound ++ ">",
    "\x7b\x7brange .Data\x7d\x7d",
    "<label class=\"livedoc-task\">",
    "  <input type=\"checkbox\" " ++ bound ++
      " lvt-click=\"Toggle\" lvt-data-id=\"\x7b\x7b.Id\x7d\x7d\" \x7b\x7bif .Done\x7d\x7dchecked\x7b\x7bend\x7d\x7d>",
    "  <span \x7b\x7bif .Done\x7d\x7dclass=\"livedoc-task-done\"\x7b\x7bend\x7d\x7d>\x7b\x7b.Text\x7d\x7d</span>",
    "</label>",
    "\x7b\x7bend\x7d\x7d",
    "<form " ++ bound ++ " lvt-submit=\"Add\" lvt-reset-on:success>",
    "  <input type=\"text\" name=\"text\" placeholder=\"Add a task\" required>",
    "  <button type=\"submit\">Add</button>",
    "</form>",
    "</div>" ]

/-- The lines that replace a section's lines below its heading. -/
def generated (s : TaskSection) (blankAtEnd : Bool) : List OriginLine :=
  let block := "```lvt" :: template s.sourceName ++ ["```"]
  ⟨"", s.headingLine⟩ :: block.map (⟨·, s.firstItem⟩) ++ (if blankAtEnd then [⟨"", s.endLine - 1⟩] else [])

/-- Keeps the sections with an anchor that none before them has, given the anchors that are taken. -/
def withOwnAnchor : List String → List TaskSection → List TaskSection
  | _, [] => []
  | taken, s :: rest =>
    if s.anchor.isEmpty || taken.contains s.anchor then withOwnAnchor taken rest
    else s :: withOwnAnchor (s.anchor :: taken) rest

end TaskSection

namespace Synthesis

/-- The lines of a body from one number up to another, each its own origin. -/
def kept (lines : List String) (first last : Nat) : List OriginLine :=
  (((lines.zipIdx).take last).drop first).map fun (text, i) => ⟨text, i⟩

/-- The new lines from a line of the body on, with sections still to be replaced (`synthesize`). -/
def spliced (lines : List String) : Nat → List TaskSection → List OriginLine
  | next, [] => kept lines next lines.length
  | next, s :: rest =>
    let blankAtEnd := s.endLine < lines.length || lines.getLast?.any (·.isEmpty)
    kept lines next (s.headingLine + 1) ++ s.generated blankAtEnd ++ spliced lines s.endLine rest

/-- The sections of a body that are replaced. -/
def replaced (body : String) : List TaskSection := TaskSection.withOwnAnchor [] (TaskSection.detect body)

end Synthesis

/-- Replaces the task sections of a body whose file has a path (`synthesize`). -/
def synthesize (body file : String) : Synthesis :=
  match Synthesis.replaced body with
  | [] => { body }
  | s :: rest =>
    let lines := Synthesis.spliced ((splitOn '\n' body.toList).map String.ofList) 0 (s :: rest)
    { body := "\n".intercalate (lines.map (·.text))
      sources := (s :: rest).foldl (fun d s => d.insert s.sourceName (.markdownSection file s.anchor)) []
      origins := some (lines.map (·.origin)) }

end LivePage
