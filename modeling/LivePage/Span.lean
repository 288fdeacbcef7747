/-!
# Spans

A byte range of a text: from `start` up to but not including `stop`.
-/
namespace LivePage

structure Span where
  start : Nat
  stop : Nat
deriving DecidableEq, Repr, Inhabited

namespace Span

def contains (s : Span) (i : Nat) : Bool := s.start ≤ i && i < s.stop

def length (s : Span) : Nat := s.stop - s.start

end Span

end LivePage
