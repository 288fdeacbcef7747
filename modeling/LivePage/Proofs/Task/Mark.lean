import LivePage.Proofs.Task.Line
import LivePage.Proofs.Text.LineEdit
/-!
# Texts that differ in a mark

When the mark of one item is another one, every line keeps its place and still looks like what it looked like before.
So all lines are of the kinds that they were, if the parser gives the text the structure that it had: what a task
marker says has no part in that.
-/
namespace LivePage

namespace Markdown

/-! ## The same structure -/

/-- An event without the tick of a task marker. -/
def Event.withoutTick : Event → Event
  | .taskMarker _ => .taskMarker false
  | e => e

def PlacedEvent.withoutTick (e : PlacedEvent) : PlacedEvent := { e with event := e.event.withoutTick }

/-- The parser reports the same events at the same places in two texts, but for the ticks of task markers. -/
def SameStructure (text other : String) : Prop :=
  (events text).map (·.withoutTick) = (events other).map (·.withoutTick)

instance (text other : String) : Decidable (SameStructure text other) := inferInstanceAs (Decidable (_ = _))

theorem closesHeading_withoutTick (e : PlacedEvent) : e.withoutTick.event.closesHeading = e.event.closesHeading := by
  obtain ⟨event, span⟩ := e
  cases event <;> rfl

theorem words_withoutTick (e : PlacedEvent) : e.withoutTick.event.words = e.event.words := by
  obtain ⟨event, span⟩ := e
  cases event <;> rfl

end Markdown

open Text Markdown

theorem headingText_withoutTick (events : List PlacedEvent) :
    headingText (events.map (·.withoutTick)) = headingText events := by
  rw [headingText, headingText, List.takeWhile_map, List.map_map]
  simp only [Function.comp_def, closesHeading_withoutTick, words_withoutTick]

theorem markLines_withoutTick (t : TextLines) (inside : Bool) (events : List PlacedEvent) (kinds : List LineKind) :
    markLines t inside (events.map (·.withoutTick)) kinds = markLines t inside events kinds := by
  induction events generalizing inside kinds with
  | nil => cases inside <;> rfl
  | cons e rest ih =>
    rw [List.map_cons]
    cases inside with
    | true => rw [markLines, markLines, closesHeading_withoutTick, ih]
    | false =>
      obtain ⟨event, span⟩ := e
      cases event with
      | start tag =>
        cases tag with
        | heading level attributes =>
          change markLines t true (rest.map (·.withoutTick)) (markHeading t span (headingKind level attributes
            (headingText (rest.map (·.withoutTick)))) kinds) = _
          rw [headingText_withoutTick, ih]
          rfl
        | _ => exact ih _ _
      | _ => exact ih _ _

/-! ## Lines that look alike -/

/-- Two texts whose lines start at the same bytes and look alike, each of them as a whole, as a task item, and before
any byte of it. -/
structure TextLines.Alike (t u : TextLines) : Prop where
  starts : u.starts = t.starts
  plain : u.lines.map LineKind.plain = t.lines.map LineKind.plain
  isItem : ∀ i, TaskItem.isItem (u.line i) = TaskItem.isItem (t.line i)
  before : ∀ offset, isBlankText (u.before offset) = isBlankText (t.before offset)

/-- Lines that look alike are of the same kinds by the same events. -/
theorem TextLines.Alike.markLines_eq {t u : TextLines} (h : t.Alike u) (inside : Bool) (events : List PlacedEvent)
    (kinds : List LineKind) : markLines u inside events kinds = markLines t inside events kinds := by
  have hline (offset : Nat) : u.lineOf offset = t.lineOf offset := by rw [lineOf, lineOf, h.starts]
  have hlast (s : Span) : u.lastLineOf s = t.lastLineOf s := hline _
  have hheading (span : Span) (kind : LineKind) (kinds : List LineKind) :
      markHeading u span kind kinds = markHeading t span kind kinds := by
    simp only [markHeading, h.before, hline, hlast]
  induction events generalizing inside kinds with
  | nil => cases inside <;> rfl
  | cons e rest ih =>
    cases inside with
    | true => rw [markLines, markLines, ih]
    | false =>
      rw [markLines, markLines]
      split
      · rw [ih, hline, hlast]
      · rw [ih, hheading]
      · simp only [ih, hline, h.isItem]
      · rw [ih]

/-! ## Another mark -/

section
variable {front back : List Char} {a b : Char}

theorem isSome_takeBytes?_mark (h : a.utf8Size = b.utf8Size) (front back : List Char) (n : Nat) :
    (takeBytes? (front ++ a :: back) n).isSome = (takeBytes? (front ++ b :: back) n).isSome := by
  induction front generalizing n with
  | nil =>
    cases n with
    | zero => rfl
    | succ n =>
      simp only [List.nil_append, takeBytes?, h]
      split_ifs <;> simp
  | cons c front ih =>
    cases n with
    | zero => rfl
    | succ n =>
      simp only [List.cons_append, takeBytes?]
      split_ifs
      · simp only [Option.isSome_map, ih]
      · rfl

/-- Up to any byte, a line that is not blank before its mark is blank or not whatever the mark is. -/
theorem isBlankText_takeBytes?_mark (h : a.utf8Size = b.utf8Size) (hfront : isBlankText front = false) (n : Nat) :
    isBlankText ((takeBytes? (front ++ a :: back) n).getD []) =
      isBlankText ((takeBytes? (front ++ b :: back) n).getD []) := by
  induction front generalizing n with
  | nil => cases hfront
  | cons c front ih =>
    cases n with
    | zero => rfl
    | succ n =>
      simp only [List.cons_append, takeBytes?]
      split_ifs with hle
      · have hsome := isSome_takeBytes?_mark h front back (n + 1 - c.utf8Size)
        by_cases hc : isBlank c = true
        · have hrest := ih (by simpa [isBlankText, hc] using hfront) (n + 1 - c.utf8Size)
          cases hx : takeBytes? (front ++ a :: back) (n + 1 - c.utf8Size) <;>
            cases hy : takeBytes? (front ++ b :: back) (n + 1 - c.utf8Size) <;>
            simp_all [isBlankText]
        · cases hx : takeBytes? (front ++ a :: back) (n + 1 - c.utf8Size) <;>
            cases hy : takeBytes? (front ++ b :: back) (n + 1 - c.utf8Size) <;>
            simp_all [isBlankText]
      · rfl

theorem lineStarts_go_mark (h : a.utf8Size = b.utf8Size) (ha : a ≠ '\n') (hb : b ≠ '\n') (front : List Char)
    (offset : Nat) :
    lineStarts.go offset (front ++ a :: back) = lineStarts.go offset (front ++ b :: back) := by
  induction front generalizing offset with
  | nil => simp only [List.nil_append, lineStarts.go, ha, hb, if_false, h]
  | cons c front ih => simp only [List.cons_append, lineStarts.go, ih]

end

namespace TaskItem

theorem ne_newline_of_isMark {c : Char} (h : isMark c = true) : c ≠ '\n' := by
  rintro rfl
  cases h

theorem utf8Size_of_isMark {c : Char} (h : isMark c = true) : c.utf8Size = 1 := by
  simp only [isMark, Bool.or_eq_true, beq_iff_eq] at h
  rcases h with (rfl | rfl) | rfl <;> rfl

variable {lines : List (List Char)} {front back : List Char} {a b : Char}

/-- The lines of a text in which an item starts somewhere: those before it, its own, and those after it. -/
theorem splitOn_mark (hlines : ∀ l ∈ lines, Closed l) (hno : '\n' ∉ front) (back : List Char) :
    ∃ rest later, ∀ m, isMark m = true → splitOn '\n' (lines.flatten ++ (front ++ m :: ']' :: back)) =
      lines.map List.dropLast ++ (front ++ m :: ']' :: rest) :: later := by
  obtain ⟨rest, later, hrest⟩ := exists_splitOn back
  refine ⟨rest, later, fun m hm => ?_⟩
  have hpiece : '\n' ∉ front ++ [m, ']'] := by simp [hno, (ne_newline_of_isMark hm).symm]
  have hsplit := splitOn_append hpiece back
  rw [hrest, List.modifyHead_cons] at hsplit
  rw [splitOn_flatten_append hlines, show front ++ m :: ']' :: back = front ++ [m, ']'] ++ back by simp, hsplit]
  simp

/-- Texts that differ in the mark of an item have lines that look alike. -/
theorem alike_mark (hlines : ∀ l ∈ lines, Closed l) (hfront : Opens front) (hno : '\n' ∉ front)
    (ha : isMark a = true) (hb : isMark b = true) :
    (TextLines.ofText (lines.flatten ++ (front ++ a :: ']' :: back))).Alike
      (TextLines.ofText (lines.flatten ++ (front ++ b :: ']' :: back))) := by
  obtain ⟨rest, later, hsplit⟩ := splitOn_mark hlines hno back
  have hsize : b.utf8Size = a.utf8Size := by rw [utf8Size_of_isMark ha, utf8Size_of_isMark hb]
  have hline {α : Type} (f : List Char → α) (heq : f (front ++ b :: ']' :: rest) = f (front ++ a :: ']' :: rest))
      (i : Nat) : f ((TextLines.ofText (lines.flatten ++ (front ++ b :: ']' :: back))).line i) =
        f ((TextLines.ofText (lines.flatten ++ (front ++ a :: ']' :: back))).line i) := by
    simp only [TextLines.line, TextLines.ofText, hsplit a ha, hsplit b hb, List.getD_eq_getElem?_getD]
    rw [← Option.getD_map f, ← Option.getD_map f, ← List.getElem?_map, ← List.getElem?_map, List.map_append,
      List.map_append, List.map_cons, List.map_cons, heq]
  have hstarts : (TextLines.ofText (lines.flatten ++ (front ++ b :: ']' :: back))).starts =
      (TextLines.ofText (lines.flatten ++ (front ++ a :: ']' :: back))).starts := by
    simp only [TextLines.ofText, lineStarts, ← List.append_assoc]
    rw [lineStarts_go_mark hsize (ne_newline_of_isMark hb) (ne_newline_of_isMark ha)]
  refine ⟨hstarts, ?_, hline isItem (isItem_mark hfront hb ha), fun offset => ?_⟩
  · have hplain (m : Char) : LineKind.plain (front ++ m :: ']' :: rest) = .other := by
      have := hfront.not_isBlankText
      simp only [isBlankText] at this
      simp [LineKind.plain, isBlankText, this]
    simp only [TextLines.ofText, hsplit a ha, hsplit b hb, List.map_append, List.map_cons, hplain]
  · simp only [TextLines.before, TextLines.lineOf, hstarts]
    exact hline (fun l => isBlankText ((takeBytes? l _).getD [])) (isBlankText_takeBytes?_mark hsize hfront.not_isBlankText _) _

/-- **A mark has no part in what lines are**, if it has none in the structure of the text. -/
theorem lineKinds_mark {text new : String} (hlines : ∀ l ∈ lines, Closed l) (hfront : Opens front)
    (hno : '\n' ∉ front) (ha : isMark a = true) (hb : isMark b = true)
    (htext : text.toList = lines.flatten ++ (front ++ a :: ']' :: back))
    (hnew : new.toList = lines.flatten ++ (front ++ b :: ']' :: back)) (hsame : SameStructure text new) :
    lineKinds new = lineKinds text := by
  have halike : (TextLines.ofText text.toList).Alike (TextLines.ofText new.toList) := by
    rw [htext, hnew]
    exact alike_mark hlines hfront hno ha hb
  rw [lineKinds, lineKinds, lineKindsOf, lineKindsOf, halike.plain, halike.markLines_eq,
    ← markLines_withoutTick _ _ (events new), ← hsame, markLines_withoutTick]

end TaskItem

end LivePage
