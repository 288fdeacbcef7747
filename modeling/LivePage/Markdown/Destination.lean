import LivePage.Markdown.Entity
/-!
# Destinations

Where a link leads, as it is written: between angle brackets, or up to white space with its parentheses in
balance. An autolink is an address or a mail address between angle brackets.
-/
namespace LivePage.Markdown

namespace Buffer

/-- A destination between angle brackets, from after the opening one: its end and the position after it. -/
def bracketed? (b : Buffer) : Nat → Nat → Option (Nat × Nat)
  | 0, _ => none
  | fuel + 1, i =>
    match b.get? i with
    | none => none
    | some x =>
      if isOneOf "\n\r<" x then none
      else if x == '>'.toUInt8 then some (i, i + 1)
      else if x == '\\'.toUInt8 && b.holdsAt isPunct (i + 1) then bracketed? b fuel (i + 2)
      else bracketed? b fuel (i + 1)

/-- The end of a bare destination in which parentheses are open; at most `most` may be open before one more. -/
def bareEnd? (b : Buffer) (most : Nat) : Nat → Nat → Nat → Option Nat
  | 0, opened, i => if opened = 0 then some i else none
  | fuel + 1, opened, i =>
    let done := if opened = 0 then some i else none
    match b.get? i with
    | none => done
    | some x =>
      if x ≤ 32 then done
      else if x == '('.toUInt8 then if most < opened then none else bareEnd? b most fuel (opened + 1) (i + 1)
      else if x == ')'.toUInt8 then if opened = 0 then done else bareEnd? b most fuel (opened - 1) (i + 1)
      else if x == '\\'.toUInt8 && b.holdsAt isPunct (i + 1) then bareEnd? b most fuel opened (i + 2)
      else bareEnd? b most fuel opened (i + 1)

/-- The destination at a position: where its text starts and ends, and the position after it. -/
def destination? (b : Buffer) (most i : Nat) : Option (Nat × Nat × Nat) :=
  if b.isAt i '<' then (b.bracketed? (b.stop - i) (i + 1)).map fun (stop, next) => (i + 1, stop, next)
  else (b.bareEnd? most (b.stop - i) 0 i).map fun stop => (i, stop, stop)

/-! ## Autolinks -/

/-- The position after an address with a scheme and a closing angle bracket. -/
def addressEnd? (b : Buffer) (i : Nat) : Option Nat :=
  if !b.holdsAt isLetter i then none else
  let colon := b.skipWhile (fun x => isLetterOrDigit x || isOneOf ".-+" x) i
  let scheme := colon - i
  if !b.isAt colon ':' || scheme < 2 || 32 < scheme then none else
  let stop := b.find (fun x => x ≤ 32 || x == '<'.toUInt8 || x == '>'.toUInt8) colon
  if b.isAt stop '>' then some (stop + 1) else none

def domainEnd? (b : Buffer) : Nat → Nat → Option Nat
  | 0, _ => none
  | fuel + 1, i =>
    let stop := b.skipWhile (fun x => isLetterOrDigit x || x == 45) i
    if stop = i || 63 < stop - i || b.isAt i '-' || b.isAt (stop - 1) '-' then none
    else if b.isAt stop '.' then domainEnd? b fuel (stop + 1)
    else some stop

def mailEnd? (b : Buffer) (i : Nat) : Option Nat := do
  let sign := b.skipWhile (fun x => isLetterOrDigit x || isOneOf ".!#$%&'*+/=?^_`\x7b|\x7d~-" x) i
  if sign = i || !b.isAt sign '@' then none else
  let stop ← b.domainEnd? (b.stop - i) (sign + 1)
  if b.isAt stop '>' then some (stop + 1) else none

end Buffer

end LivePage.Markdown
