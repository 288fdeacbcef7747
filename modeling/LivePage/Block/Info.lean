import LivePage.Block.Basic
import LivePage.Text.Basic
/-!
# Info strings

The first line of a fence: a language, then words in any order. A word is a kind of block, a flag, or a pair
`key=value`; other words have no effect. The pair `type=name` is the explicit way to choose a kind and the only
way to ask for one that does not exist.
-/
namespace LivePage

open Text

/-- What the first line of a fence says. -/
structure InfoString where
  language : String := ""
  type : Option BlockType := none
  flags : List Flag := []
  metadata : Metadata := []
deriving DecidableEq, Repr

/-- A kind of block was asked for that does not exist. -/
structure UnknownBlockType where
  name : String
deriving DecidableEq, Repr

def UnknownBlockType.message (u : UnknownBlockType) : String := s!"unknown block type `{u.name}`"

/-- What one word after the language says. -/
inductive InfoWord where
  | type (t : BlockType)
  | flag (f : Flag)
  | pair (key value : String)
  | ignored
deriving DecidableEq, Repr

/-- Whether a character is a quotation mark, which does not belong to a value at its ends. -/
def isQuote (c : Char) : Bool := c == '"' || c == '\''

def InfoWord.read (word : List Char) : Except UnknownBlockType InfoWord :=
  match splitFirst? '=' word with
  | some ([], _) => .ok .ignored
  | some (key, rest) =>
    let value := String.ofList (trimWhile isQuote rest)
    if key = "type".toList then
      match BlockType.ofName? value with
      | some t => .ok (.type t)
      | none => .error ⟨value⟩
    else .ok (.pair (String.ofList key) value)
  | none =>
    let name := String.ofList word
    match BlockType.ofName? name, Flag.ofName? name with
    | some t, _ => .ok (.type t)
    | none, some f => .ok (.flag f)
    | none, none => .ok .ignored

namespace InfoString

/-- Takes in one word: a later kind or value replaces an earlier one, a flag counts once. -/
def add (info : InfoString) : InfoWord → InfoString
  | .type t => { info with type := some t }
  | .flag f => if info.flags.contains f then info else { info with flags := info.flags ++ [f] }
  | .pair key value => { info with metadata := info.metadata.insert key value }
  | .ignored => info

def addAll (info : InfoString) : List (List Char) → Except UnknownBlockType InfoString
  | [] => .ok info
  | w :: ws =>
    match InfoWord.read w with
    | .ok x => addAll (info.add x) ws
    | .error e => .error e

/-- Reads the first line of a fence (`parse`). -/
def parse (text : String) : Except UnknownBlockType InfoString :=
  match words text.toList with
  | [] => .ok {}
  | language :: rest =>
    let name := String.ofList language
    addAll { language := name, type := if name = "lvt" then some .lvt else none } rest

end InfoString

end LivePage
