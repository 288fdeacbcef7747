/-!
# JSON values

Values with their fields in the order in which they are written, and their text over several lines: two blanks for
each level, one element or field on a line.
-/
namespace LivePage

/-- A JSON value; the numbers are whole. -/
inductive JsonValue where
  | null
  | bool (b : Bool)
  | number (n : Int)
  | string (s : String)
  | array (items : List JsonValue)
  | object (fields : List (String × JsonValue))

namespace JsonValue

def count (n : Nat) : JsonValue := number n

def optional {α : Type} (f : α → JsonValue) : Option α → JsonValue
  | some a => f a
  | none => null

def list {α : Type} (f : α → JsonValue) (items : List α) : JsonValue := array (items.map f)

/-- A field that is left out when it has no value. -/
def field? {α : Type} (name : String) (f : α → JsonValue) : Option α → List (String × JsonValue)
  | some a => [(name, f a)]
  | none => []

/-! ## Text -/

/-- One character between quotes. Quotes, backslashes and control characters are escaped. -/
def escapeChar (c : Char) : List Char :=
  match c with
  | '"' => ['\\', '"']
  | '\\' => ['\\', '\\']
  | '\n' => ['\\', 'n']
  | '\r' => ['\\', 'r']
  | '\t' => ['\\', 't']
  | '\x08' => ['\\', 'b']
  | '\x0c' => ['\\', 'f']
  | c =>
    if c.toNat < 32 then
      ['\\', 'u', '0', '0'] ++ (if c.toNat < 16 then ['0'] else ['1']) ++ Nat.toDigits 16 (c.toNat % 16)
    else [c]

def quote (s : String) : String := String.ofList ('"' :: s.toList.flatMap escapeChar ++ ['"'])

def lineStart (level : Nat) : String := "\n" ++ String.ofList (List.replicate (2 * level) ' ')

/-- Lines between brackets; brackets around nothing touch. -/
def bracketed (level : Nat) (opening closing : String) (lines : List String) : String :=
  if lines.isEmpty then opening ++ closing
  else opening ++ ",".intercalate (lines.map (lineStart (level + 1) ++ ·)) ++ lineStart level ++ closing

mutual

/-- The text of a value that starts at a level. -/
def prettyAt (level : Nat) : JsonValue → String
  | null => "null"
  | bool b => toString b
  | number n => toString n
  | string s => quote s
  | array items => bracketed level "[" "]" (itemsAt level items)
  | object fields => bracketed level "\x7b" "\x7d" (fieldsAt level fields)

def itemsAt (level : Nat) : List JsonValue → List String
  | [] => []
  | v :: vs => prettyAt (level + 1) v :: itemsAt level vs

def fieldsAt (level : Nat) : List (String × JsonValue) → List String
  | [] => []
  | (name, v) :: vs => (quote name ++ ": " ++ prettyAt (level + 1) v) :: fieldsAt level vs

end

/-- The text of a value over several lines. -/
def pretty (v : JsonValue) : String := prettyAt 0 v

end JsonValue

end LivePage
