import LivePage.LineMap
import LivePage.Proofs.Text.LineEdit
import LivePage.Task.Line
import Mathlib.Order.Monotone.Basic
/-!
# Where a byte stands

The line of a byte is told by the line feeds before it, and its column by the byte at which this line starts. Both have
an answer for every offset: the first byte of a line, a line feed, a byte inside a character, and past the end of the
text. In a body that stands in the file as it is, line and column give the offset back. Where lines were replaced, the
line of the file is that of the origin, so the order of lines is kept if the origins have it.
-/
namespace LivePage

open Text

/-- Number of line feeds among the bytes of a text before an offset. Past the end these are all its bytes. -/
def feedsBefore (text : String) (offset : Nat) : Nat :=
  (text.toUTF8.data.toList.take (min offset text.utf8ByteSize)).count 0x0a

/-- Byte at which a line of a text starts: where the lines before it end. -/
def lineStart (text : String) (line : Nat) : Nat := byteLength ((linesWithEnds text.toList).take line).flatten

section
variable {text : String} {offset : Nat}

theorem feedsBefore_eq (text : String) (offset : Nat) :
    feedsBefore text offset = ((text.toList.flatMap String.utf8EncodeChar).take offset).count 0x0a := by
  have hsize : text.utf8ByteSize = (text.toList.flatMap String.utf8EncodeChar).length := by
    rw [length_flatMap_utf8EncodeChar, byteLength_toList]
  rw [feedsBefore, toList_toUTF8, hsize, ← List.take_take, List.take_length]

theorem lineIndex_eq_feedsBefore (text : String) (offset : Nat) :
    lineIndex (lineStarts text.toList) offset = feedsBefore text offset := by
  rw [feedsBefore_eq, lineIndex_eq_count]

theorem feedsBefore_le (text : String) (offset : Nat) : feedsBefore text offset ≤ text.toList.count '\n' := by
  rw [feedsBefore_eq, ← count_flatMap_utf8EncodeChar]
  exact (List.take_sublist _ _).count_le _

theorem feedsBefore_mono (text : String) : Monotone (feedsBefore text) := fun a b hab => by
  rw [feedsBefore_eq, feedsBefore_eq]
  exact (List.take_sublist_take_left hab).count_le _

/-- The line of a byte starts at that byte or before it. -/
theorem getElem?_lineStarts_feedsBefore (text : String) (offset : Nat) :
    (lineStarts text.toList)[feedsBefore text offset]? = some (lineStart text (feedsBefore text offset)) ∧
      lineStart text (feedsBefore text offset) ≤ offset := by
  have hstart : (lineStarts text.toList)[feedsBefore text offset]? = some (lineStart text (feedsBefore text offset)) :=
    getElem?_lineStarts (feedsBefore_le text offset)
  obtain ⟨start, hindex, hle⟩ := exists_lineStart_le text.toList offset
  rw [lineIndex_eq_feedsBefore, hstart] at hindex
  exact ⟨hstart, Option.some.inj hindex ▸ hle⟩

end

namespace LineMap

variable {text : String} {firstLine : Nat} {origins : List Nat}

theorem lineOf_identity (text : String) (firstLine offset : Nat) :
    (identity text firstLine).lineOf offset = firstLine + feedsBefore text offset :=
  congrArg (firstLine + ·) (lineIndex_eq_feedsBefore text offset)

theorem columnOf_identity (text : String) (firstLine offset : Nat) :
    (identity text firstLine).columnOf offset = offset - lineStart text (feedsBefore text offset) + 1 := by
  change offset - ((lineStarts text.toList)[lineIndex (lineStarts text.toList) offset]?).getD 0 + 1 = _
  rw [lineIndex_eq_feedsBefore, (getElem?_lineStarts_feedsBefore text offset).1, Option.getD_some]

/-- Two bytes of a body that stands in the file as it is differ in line or in column. -/
theorem lineOf_columnOf_injective (text : String) (firstLine : Nat) :
    Function.Injective fun offset => ((identity text firstLine).lineOf offset, (identity text firstLine).columnOf offset) := by
  intro a b hab
  obtain ⟨hline, hcolumn⟩ := Prod.mk.inj hab
  rw [lineOf_identity, lineOf_identity, Nat.add_left_cancel_iff] at hline
  rw [columnOf_identity, columnOf_identity, hline] at hcolumn
  have ha := (getElem?_lineStarts_feedsBefore text a).2
  have hb := (getElem?_lineStarts_feedsBefore text b).2
  rw [hline] at ha
  omega

theorem lineOf_remapped (firstLine : Nat) (horigins : origins.length = (splitOn '\n' text.toList).length)
    (offset : Nat) :
    ∃ h : feedsBefore text offset < origins.length,
      (remapped text firstLine origins).lineOf offset = firstLine + origins[feedsBefore text offset] := by
  have h : feedsBefore text offset < origins.length := by
    rw [horigins, length_splitOn]
    exact Nat.lt_succ_of_le (feedsBefore_le text offset)
  refine ⟨h, ?_⟩
  change firstLine + (origins[lineIndex (lineStarts text.toList) offset]?.or origins.getLast?).getD 0 = _
  rw [lineIndex_eq_feedsBefore, List.getElem?_eq_getElem h]
  rfl

theorem lineOf_remapped_mono (horigins : origins.length = (splitOn '\n' text.toList).length)
    (hsorted : origins.Pairwise (· ≤ ·)) : Monotone (remapped text firstLine origins).lineOf := fun a b hab => by
  obtain ⟨ha, hlineA⟩ := lineOf_remapped firstLine horigins a
  obtain ⟨hb, hlineB⟩ := lineOf_remapped firstLine horigins b
  rw [hlineA, hlineB]
  refine Nat.add_le_add_left ?_ firstLine
  rcases Nat.eq_or_lt_of_le (feedsBefore_mono text hab) with heq | hlt
  · exact le_of_eq (getElem_congr_idx heq)
  · exact List.pairwise_iff_getElem.1 hsorted _ _ ha hb hlt

/-- **Lines and columns.** Whatever the offset, past the end of the text too, the line of a byte comes as many lines
after the first as there are line feeds before the byte, and these are the lines that task lines are counted in. Its
column is counted from the byte at which this line starts, which is not after it. Line and column determine the offset.
With replaced lines, where every line has an origin, the line is that of its origin, and it never decreases if the
origins do not. -/
theorem lineOf_columnOf (text : String) (firstLine : Nat) :
    (∀ offset, (identity text firstLine).lineOf offset = firstLine + feedsBefore text offset ∧
      (TextLines.ofText text.toList).lineOf offset = feedsBefore text offset ∧
      (identity text firstLine).starts[feedsBefore text offset]? = some (lineStart text (feedsBefore text offset)) ∧
      lineStart text (feedsBefore text offset) ≤ offset ∧
      (identity text firstLine).columnOf offset = offset - lineStart text (feedsBefore text offset) + 1) ∧
    (Function.Injective fun offset =>
      ((identity text firstLine).lineOf offset, (identity text firstLine).columnOf offset)) ∧
    ∀ origins : List Nat, origins.length = (splitOn '\n' text.toList).length →
      (∀ offset, ∃ h : feedsBefore text offset < origins.length,
        (remapped text firstLine origins).lineOf offset = firstLine + origins[feedsBefore text offset]) ∧
      (origins.Pairwise (· ≤ ·) → Monotone (remapped text firstLine origins).lineOf) := by
  refine ⟨fun offset => ⟨lineOf_identity text firstLine offset, lineIndex_eq_feedsBefore text offset, ?_, ?_,
    columnOf_identity text firstLine offset⟩, lineOf_columnOf_injective text firstLine,
    fun _ horigins => ⟨lineOf_remapped firstLine horigins, lineOf_remapped_mono horigins⟩⟩
  · exact (getElem?_lineStarts_feedsBefore text offset).1
  · exact (getElem?_lineStarts_feedsBefore text offset).2

/-- A character of two bytes on the first line, and an empty last line. -/
def accentedText : String := "é\nb\n"

/-- An offset past the end is on the empty line, and two of the three lines have one origin. -/
theorem accentedText_lineOf_columnOf :
    (identity accentedText 7).lineOf 9 = 9 ∧ (identity accentedText 7).columnOf 9 = 5 ∧
    [0, 4, 4].length = (splitOn '\n' accentedText.toList).length ∧ [0, 4, 4].Pairwise (· ≤ ·) ∧
    (remapped accentedText 7 [0, 4, 4]).lineOf 3 = 11 ∧
    (remapped accentedText 7 [0, 4, 4]).lineOf 1 ≤ (remapped accentedText 7 [0, 4, 4]).lineOf 9 := by
  obtain ⟨hidentity, -, hremapped⟩ := lineOf_columnOf accentedText 7
  have hfeeds : feedsBefore accentedText 9 = 2 := by decide +kernel
  have hstart : lineStart accentedText 2 = 5 := by decide +kernel
  obtain ⟨hline, -, -, -, hcolumn⟩ := hidentity 9
  rw [hfeeds] at hline
  rw [hfeeds, hstart] at hcolumn
  have horigins : [0, 4, 4].length = (splitOn '\n' accentedText.toList).length := by decide +kernel
  have hsorted : [0, 4, 4].Pairwise (· ≤ ·) := by decide
  obtain ⟨hlines, hmono⟩ := hremapped [0, 4, 4] horigins
  obtain ⟨_, hthird⟩ := hlines 3
  have hfeed : feedsBefore accentedText 3 = 1 := by decide +kernel
  simp only [hfeed] at hthird
  exact ⟨hline, hcolumn, horigins, hsorted, hthird, hmono hsorted (by decide)⟩

end LineMap

end LivePage
