import LivePage.Yaml.Cursor
/-!
# Tokens

The tokens of a YAML text. Indentation shows as tokens of its own: a collection that is made by indentation opens
with one and closes with another.
-/
namespace LivePage.Yaml

inductive ScalarStyle where
  | plain
  | singleQuoted
  | doubleQuoted
  | literal
  | folded
deriving DecidableEq, Repr

inductive TokenKind where
  | streamStart
  | streamEnd
  | versionDirective (major minor : Nat)
  | tagDirective (handle lead : String)
  | documentStart
  | documentEnd
  | blockSequenceStart
  | blockMappingStart
  | blockEnd
  | flowSequenceStart
  | flowSequenceEnd
  | flowMappingStart
  | flowMappingEnd
  | blockEntry
  | flowEntry
  | key
  | value
  | alias_ (name : String)
  | anchor (name : String)
  | tag (handle suffix : String)
  | scalar (text : String) (style : ScalarStyle)
deriving DecidableEq, Repr

structure Token where
  kind : TokenKind
  start : Mark
  stop : Mark
deriving DecidableEq, Repr

/-- What is read from a text, or a fault. What is read comes with the cursor after it. -/
abbrev Reading := Except SyntaxFault

/-- A fault at a cursor, met while something was read that started at a mark. -/
def Cursor.fault {α : Type} (c : Cursor) (context : String) (start : Mark) (problem : String) :
    Except SyntaxFault α :=
  .error { problem, mark := c.mark, context := some context, contextMark := start }

def Cursor.bareFault {α : Type} (c : Cursor) (problem : String) : Except SyntaxFault α :=
  .error { problem, mark := c.mark }

end LivePage.Yaml
