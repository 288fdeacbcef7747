import LivePage.Proofs.Markdown.LineStart
import LivePage.Proofs.Text.Bytes
import LivePage.Proofs.Text.LineEdit
import LivePage.Task.Line
/-!
# Positions of a source and places in its text

A byte of ASCII is a character of the text, so a position is between two characters if such a byte comes before it. What
stands before a position on its line is then a piece of the text, and marks before the position are characters in it.
-/
namespace LivePage

open Text

/-- What stands before a place on its line comes after the lines before it. -/
theorem TextLines.before_eq {lines : List (List Char)} {k : List Char} (hlines : ∀ l ∈ lines, Closed l) (hk : '\n' ∉ k)
    (after : List Char) :
    (ofText (lines.flatten ++ (k ++ after))).before (byteLength (lines.flatten ++ k)) = k := by
  have hstart : (lineStarts (lines.flatten ++ (k ++ after))).getD lines.length 0 = byteLength lines.flatten := by
    rw [List.getD_eq_getElem?_getD, lineStarts, lineStarts_flatten_append hlines, Option.getD_some, Nat.zero_add]
  have hlineOf : (ofText (lines.flatten ++ (k ++ after))).lineOf (byteLength (lines.flatten ++ k)) = lines.length := by
    rw [lineOf, ofText, ← List.append_assoc, lineIndex_lineStarts, List.count_append, count_flatten_closed hlines,
      List.count_eq_zero.2 hk, Nat.add_zero]
  obtain ⟨rest, hline⟩ : ∃ rest, (ofText (lines.flatten ++ (k ++ after))).line lines.length = k ++ rest := by
    obtain ⟨m, ms, hm⟩ := exists_splitOn after
    refine ⟨m, ?_⟩
    rw [line, ofText, splitOn_flatten_append hlines, splitOn_append hk, hm, List.modifyHead_cons]
    simp
  have hplace : byteLength (lines.flatten ++ k) - byteLength lines.flatten = byteLength k := by
    rw [byteLength_append, Nat.add_sub_cancel_left]
  rw [before, hlineOf, hline]
  dsimp only [ofText]
  rw [hstart, hplace, takeBytes?_eq_some_iff.2 ⟨rest, rfl, rfl⟩, Option.getD_some]

namespace Markdown.Buffer

variable {source : String} {i j : Nat}

theorem char_of_inLine : ∀ x, inLine x = true → (Char.ofUInt8 x).utf8Size = 1 ∧ Char.ofUInt8 x ≠ '\n' := by
  decide +kernel

theorem not_isBlank_of_isPunct : ∀ x, isPunct x = true → isBlank (Char.ofUInt8 x) = false := by decide +kernel

/-- What a buffer holds at a position is a character of its text. -/
theorem exists_char {p : UInt8 → Bool} (h : (ofString source).holdsAt p i = true) (hp : ∀ x, p x = true → inLine x = true) :
    ∃ front x after, source.toList = front ++ Char.ofUInt8 x :: after ∧ byteLength front = i ∧ p x = true := by
  unfold holdsAt at h
  cases hx : (ofString source).get? i with
  | none => simp [hx] at h
  | some x =>
    rw [hx] at h
    have hascii : x < 128 := by simpa [inLine] using (Bool.and_eq_true_iff.1 (hp x h)).1
    unfold get? ofString at hx
    split_ifs at hx
    change source.toByteArray.data[i]? = some x at hx
    rw [← String.utf8Encode_toList, List.utf8Encode, List.data_toByteArray, List.getElem?_toArray] at hx
    obtain ⟨front, after, htext, hfront⟩ := exists_char_of_byte hx hascii
    exact ⟨front, x, after, htext, hfront, h⟩

/-- What stands between two positions of one line is a piece of the text. -/
theorem SameLine.exists_piece (h : (ofString source).SameLine i j) (hlt : i < j) :
    ∃ front piece after, source.toList = front ++ (piece ++ after) ∧ byteLength front = i ∧
      byteLength (front ++ piece) = j ∧ '\n' ∉ piece := by
  obtain ⟨-, hline⟩ := h
  -- Each position up to the end is that of a character, which comes right after the piece up to there.
  induction j, hlt using Nat.le_induction with
  | base =>
    obtain ⟨front, x, after, htext, hfront, hx⟩ := exists_char (hline i le_rfl (Nat.lt_succ_self i)) fun _ => id
    obtain ⟨hsize, hne⟩ := char_of_inLine x hx
    exact ⟨front, [Char.ofUInt8 x], after, htext, hfront, by simp [hfront, hsize], by simpa using hne.symm⟩
  | succ j hj ih =>
    obtain ⟨front, piece, after, htext, hfront, hpiece, hno⟩ := ih fun k h1 h2 => hline k h1 (Nat.lt_succ_of_lt h2)
    obtain ⟨front', x, after', htext', hfront', hx⟩ := exists_char (hline j (by omega) (Nat.lt_succ_self j)) fun _ => id
    obtain ⟨hsize, hne⟩ := char_of_inLine x hx
    obtain ⟨rfl, rfl⟩ := append_inj_of_byteLength (htext'.symm.trans (htext.trans (List.append_assoc ..).symm))
      (hfront'.trans hpiece.symm)
    refine ⟨front, piece ++ [Char.ofUInt8 x], after', by simp [htext], hfront, ?_, ?_⟩
    · rw [← List.append_assoc, byteLength_append, hpiece, byteLength_cons, byteLength_nil, hsize]
    · simpa [hno] using hne.symm

/-- What stands on a line before one of its positions ends with the piece between an earlier position and that one. -/
theorem SameLine.exists_before (h : (ofString source).SameLine i j) (hlt : i < j) :
    ∃ front k piece after, source.toList = front ++ (piece ++ after) ∧ byteLength front = i ∧ piece ≠ [] ∧
      (TextLines.ofText source.toList).before j = k ++ piece := by
  obtain ⟨front, piece, after, htext, hfront, hpiece, hno⟩ := h.exists_piece hlt
  obtain ⟨lines, k, hlines, hk, rfl⟩ := exists_closed_append front
  refine ⟨_, k, piece, after, htext, hfront, ?_, ?_⟩
  · rintro rfl
    rw [List.append_nil] at hpiece
    omega
  · have hbefore := TextLines.before_eq hlines (k := k ++ piece) (by simp [hk, hno]) after
    rwa [← List.append_assoc, ← List.append_assoc, hpiece, List.append_assoc, ← htext] at hbefore

theorem Indented.before_ne_nil (h : (ofString source).Indented j) : (TextLines.ofText source.toList).before j ≠ [] := by
  obtain ⟨i, hlt, hline⟩ := h
  obtain ⟨-, k, piece, -, -, -, hne, hbefore⟩ := hline.exists_before hlt
  rw [hbefore]
  exact fun hnil => hne (List.append_eq_nil_iff.1 hnil).2

theorem Inked.not_isBlankText_before (h : (ofString source).Inked j) :
    isBlankText ((TextLines.ofText source.toList).before j) = false := by
  obtain ⟨i, hlt, hink, hline⟩ := h
  obtain ⟨front, k, piece, after, htext, hfront, hne, hbefore⟩ := hline.exists_before hlt
  obtain ⟨front', x, after', htext', hfront', hx⟩ := exists_char hink inLine_of_isPunct
  -- The piece starts with the mark.
  obtain ⟨rfl, hpiece⟩ := append_inj_of_byteLength (htext.symm.trans htext') (hfront.trans hfront'.symm)
  obtain ⟨c, piece, rfl⟩ := List.exists_cons_of_ne_nil hne
  obtain rfl := (List.cons.inj hpiece).1
  rw [hbefore]
  simp [isBlankText, not_isBlank_of_isPunct x hx]

end Markdown.Buffer

end LivePage
