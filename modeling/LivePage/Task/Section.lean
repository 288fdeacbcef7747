import LivePage.Task.Line
/-!
# Task sections

A section runs from a heading to the next heading of any level. It is a task section when it holds nothing but
task items and blank lines, and at least one item.
-/
namespace LivePage

open Text

/-- A heading whose section is nothing but task items (`TaskSection`). Lines are counted from zero. -/
structure TaskSection where
  heading : String
  anchor : String
  level : Nat
  headingLine : Nat
  firstItem : Nat
  /-- Line after the section. -/
  endLine : Nat
deriving DecidableEq, Repr

namespace TaskSection

/-- The task sections among lines of which the first has a number. -/
def inLines : Nat → List LineKind → List TaskSection
  | _, [] => []
  | i, kind :: rest =>
    let later := inLines (i + 1) rest
    match kind with
    | .heading level heading anchor _ =>
      let content := rest.takeWhile (!·.isHeading)
      if content.all (fun k => k == .task || k == .blank) && content.contains .task then
        { heading, anchor, level, headingLine := i, firstItem := i + 1 + content.idxOf .task,
          endLine := i + 1 + content.length } :: later
      else later
    | _ => later

/-- Whether a text holds a task mark in brackets anywhere. -/
def mayHoldTask (text : String) : Bool :=
  ["[ ]", "[x]", "[X]"].any fun mark => occursIn mark.toList text.toList

/-- The task sections of a body (`detect`); a body without any mark in brackets has none. -/
def detect (body : String) : List TaskSection :=
  if mayHoldTask body then inLines 0 (lineKinds body) else []

end TaskSection

end LivePage
