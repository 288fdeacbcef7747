import LivePage.Proofs.Text.Bytes
import LivePage.Schedule.Scan
import Mathlib.Data.List.DropRight
/-!
# Where words and tokens stand

A word or token that is found in a line stands there at the byte offset that is given for it, and holds no white
space.
-/
namespace LivePage

open Text

namespace PlacedWord

/-- A piece of a text without white space, at the byte offset at which it stands there. -/
structure IsIn (offset : Nat) (cs : List Char) (w : PlacedWord) : Prop where
  stands : ∃ before after, cs = before ++ w.text ++ after ∧ offset + byteLength before = w.start
  ne_nil : w.text ≠ []
  not_blank : ∀ c ∈ w.text, isBlank c = false

variable {offset : Nat} {cs : List Char} {w : PlacedWord}

theorem IsIn.append_left (before : List Char) (h : w.IsIn (offset + byteLength before) cs) :
    w.IsIn offset (before ++ cs) := by
  obtain ⟨⟨a, b, rfl, hstart⟩, hne, hblank⟩ := h
  exact ⟨⟨before ++ a, b, by simp, by rw [byteLength_append, ← Nat.add_assoc, hstart]⟩, hne, hblank⟩

theorem IsIn.ne_nil_of_line (h : w.IsIn offset cs) : cs ≠ [] := by
  obtain ⟨⟨before, after, rfl, -⟩, hne, -⟩ := h
  simp [hne]

theorem IsIn.of_start {piece rest : List Char} (hne : piece ≠ []) (hblank : ∀ c ∈ piece, isBlank c = false)
    (h : piece ++ rest = cs) : (⟨offset, piece⟩ : PlacedWord).IsIn offset cs :=
  ⟨⟨[], rest, by simp [h], rfl⟩, hne, hblank⟩

/-! ## Words -/

theorem isIn_of_mem_list (h : w ∈ list offset cs) : w.IsIn offset cs := by
  fun_induction list offset cs with
  | case1 => simp at h
  | case2 offset cs c rest hdrop start text ih =>
    have hcs : cs = cs.takeWhile isBlank ++ (c :: rest) := by rw [← hdrop, List.takeWhile_append_dropWhile]
    have hc : isBlank c = false := by
      have := List.head?_dropWhile_not isBlank cs
      simpa [hdrop] using this
    have htext : text ++ (c :: rest).dropWhile (!isBlank ·) = c :: rest := List.takeWhile_append_dropWhile
    rw [hcs]
    apply IsIn.append_left
    change w.IsIn start (c :: rest)
    rcases List.mem_cons.1 h with rfl | h
    · refine .of_start ?_ ?_ htext
      · simp [text, hc]
      · intro d hd
        simpa using List.mem_takeWhile_imp hd
    · rw [← htext]
      exact (ih h).append_left _

/-! ## Tokens -/

theorem tokenText_prefix (cs : List Char) : tokenText cs <+: cs :=
  (List.rdropWhile_prefix isSentenceMark _).trans (List.takeWhile_prefix _)

theorem not_isBlank_of_mem_tokenText {c : Char} (h : c ∈ tokenText cs) : isBlank c = false := by
  have hmem : c ∈ cs.takeWhile (!endsToken ·) := (List.rdropWhile_prefix isSentenceMark _).mem h
  have hends := List.mem_takeWhile_imp hmem
  simp only [endsToken, Bool.not_eq_true', Bool.or_eq_false_iff] at hends
  exact hends.1.1.1.1

theorem isIn_of_mem_tokenSpans {previous : Option Char} (h : w ∈ tokenSpans previous offset cs) : w.IsIn offset cs := by
  induction cs generalizing previous offset with
  | nil => simp [tokenSpans] at h
  | cons c cs ih =>
    have hlater (h : w ∈ tokenSpans (some c) (offset + c.utf8Size) cs) : w.IsIn offset (c :: cs) :=
      IsIn.append_left [c] (ih h)
    rw [tokenSpans] at h
    split_ifs at h with htoken
    · rcases List.mem_cons.1 h with rfl | h
      · obtain ⟨rest, hrest⟩ := tokenText_prefix (c :: cs)
        exact .of_start (List.ne_nil_of_length_pos (Nat.lt_of_succ_lt htoken.2.2))
          (fun _ => not_isBlank_of_mem_tokenText) hrest
      · exact hlater h
    · exact hlater h

theorem IsIn.token (h : w.IsIn offset cs) (hs : w.schedule?.isSome) :
    (⟨w.start, tokenText w.text⟩ : PlacedWord).IsIn offset cs := by
  obtain ⟨⟨before, after, rfl, hstart⟩, -, -⟩ := h
  obtain ⟨rest, hrest⟩ := tokenText_prefix w.text
  refine ⟨⟨before, rest ++ after, ?_, hstart⟩, ?_, fun _ => not_isBlank_of_mem_tokenText⟩
  · conv_lhs => rw [← hrest]
    simp
  · intro hempty
    have hnone : w.schedule? = none := by
      change tokenText w.text = [] at hempty
      rw [schedule?, hempty]
      rfl
    rw [hnone] at hs
    cases hs

theorem IsIn.slice (h : w.IsIn 0 cs) : sliceBytes? cs w.start (byteLength w.text) = some w.text := by
  obtain ⟨before, after, hcs, hstart⟩ := h.stands
  exact sliceBytes?_eq_some_iff.2 ⟨before, after, hcs, by rw [← hstart, Nat.zero_add], rfl⟩

theorem IsIn.isBoundary_stop (h : w.IsIn 0 cs) : IsBoundary cs w.stop := by
  obtain ⟨before, after, hcs, hstart⟩ := h.stands
  exact isBoundary_iff.2 ⟨before ++ w.text, after, hcs, by rw [byteLength_append, stop, ← hstart, Nat.zero_add]⟩

end PlacedWord

/-! ## Markers -/

theorem utf8Size_of_isDigit {c : Char} (h : c.isDigit = true) : c.utf8Size = 1 := by
  have hle : c.val ≤ '9'.val := by
    simp only [Char.isDigit, Bool.and_eq_true, decide_eq_true_eq] at h
    exact h.2
  exact Char.utf8Size_eq_one_iff.2 (UInt32.le_trans hle (by decide))

/-- A marker is as long in bytes as in characters. -/
theorem byteLength_take_markerLength (cs : List Char) : byteLength (cs.take (markerLength cs)) = markerLength cs := by
  have hordinal : byteLength (cs.take (markerLength.ordinal cs)) = markerLength.ordinal cs := by
    unfold markerLength.ordinal
    dsimp only
    split
    · rename_i first digits d b rest hdigits hrest
      split_ifs with hdot
      · simp only [Bool.and_eq_true, Bool.or_eq_true, beq_iff_eq] at hdot
        have hcs : cs = cs.takeWhile Char.isDigit ++ [d] ++ b :: rest := by
          rw [List.append_assoc, List.singleton_append, ← hrest, List.takeWhile_append_dropWhile]
        have hlength : (cs.takeWhile Char.isDigit).length + 1 = (cs.takeWhile Char.isDigit ++ [d]).length := by simp
        have htake : cs.take ((cs.takeWhile Char.isDigit).length + 1) = cs.takeWhile Char.isDigit ++ [d] := by
          rw [hlength, ← List.prefix_iff_eq_take.1 ⟨b :: rest, hcs.symm⟩]
        rw [htake, hlength, byteLength_ascii]
        intro c hc
        rcases List.mem_append.1 hc with hc | hc
        · exact utf8Size_of_isDigit (List.mem_takeWhile_imp hc)
        · obtain rfl := List.mem_singleton.1 hc
          rcases hdot.1 with rfl | rfl <;> rfl
      · rfl
    · rfl
  unfold markerLength
  split
  · rfl
  · rename_i c b rest _
    split_ifs with hbullet
    · simp only [Bool.and_eq_true, Bool.or_eq_true, beq_iff_eq] at hbullet
      rcases hbullet.1 with (rfl | rfl) | rfl <;> rfl
    · exact hordinal
  · exact hordinal

/-- What is left of a line after its markers is the end of the line. -/
theorem skipMarkers_spec (offset : Nat) (cs : List Char) :
    ∃ before, cs = before ++ (skipMarkers offset cs).2 ∧ offset + byteLength before = (skipMarkers offset cs).1 := by
  fun_induction skipMarkers offset cs with
  | case1 offset cs rest start n h ih =>
    obtain ⟨before, hrest, hstart⟩ := ih
    refine ⟨cs.takeWhile isBlank ++ rest.take n ++ before, ?_, ?_⟩
    · rw [List.append_assoc, List.append_assoc, ← hrest, List.take_append_drop, List.takeWhile_append_dropWhile]
    · rw [← hstart, byteLength_append, byteLength_append, byteLength_take_markerLength]
      omega
  | case2 offset cs rest start n h => exact ⟨cs.takeWhile isBlank, List.takeWhile_append_dropWhile.symm, rfl⟩

end LivePage
