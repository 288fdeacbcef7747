import LivePage.Proofs.Text.Bytes
import LivePage.Proofs.Text.Lines
import LivePage.Schedule.Mask
/-!
# A text and its mask

The masked text goes along with the text character by character: a character stands at its place, or as many spaces
as it has bytes. So what the masked text shows between spaces stands in the text too, at the same bytes, and the lines
of the two start at the same bytes.
-/
namespace LivePage.Mask

open Text

variable {ranges : List Span}

/-- A masked text beside the text that it was made from, which starts at a byte offset. -/
inductive Masks (ranges : List Span) : Nat → List Char → List Char → Prop
  | nil (i : Nat) : Masks ranges i [] []
  | clear {i : Nat} {c : Char} {masked cs : List Char} (hc : cover ranges c i = .clear)
      (h : Masks ranges (i + c.utf8Size) masked cs) : Masks ranges i (c :: masked) (c :: cs)
  | covered {i : Nat} {c : Char} {masked cs : List Char} (hc : cover ranges c i = .covered)
      (h : Masks ranges (i + c.utf8Size) masked cs) :
      Masks ranges i (List.replicate c.utf8Size ' ' ++ masked) (c :: cs)

/-! ## Ranges on boundaries -/

theorem not_isLineEnd_of_covered {c : Char} {i : Nat} (h : cover ranges c i = .covered) : isLineEnd c = false := by
  unfold cover at h
  split_ifs at h with hc
  simpa using hc

/-- No range holds a byte of a character that is left, apart from line ends, which are always left. -/
theorem skips_eq_false_of_clear {c : Char} {i k : Nat} (h : cover ranges c i = .clear) (hline : isLineEnd c = false)
    (hk : k < c.utf8Size) : skips ranges (i + k) = false := by
  unfold cover at h
  dsimp only at h
  rw [if_neg (by simp [hline])] at h
  split_ifs at h with hall hany
  by_contra hskips
  refine hany (List.any_eq_true.2 ⟨true, List.mem_map.2 ⟨k, List.mem_range.2 hk, ?_⟩, rfl⟩)
  simpa using hskips

theorem cover_eq_clear {c : Char} {i : Nat} (h : ∀ k < c.utf8Size, skips ranges (i + k) = false) :
    cover ranges c i = .clear := by
  have hpos := c.utf8Size_pos
  have hbytes : (List.range c.utf8Size).map (fun k => skips ranges (i + k)) = List.replicate c.utf8Size false := by
    rw [List.eq_replicate_iff]
    simpa using h
  unfold cover
  dsimp only
  rw [hbytes]
  split_ifs with hline hall hany
  · rfl
  · simp [Nat.ne_of_gt hpos] at hall
  · simp at hany
  · rfl

theorem skips_eq_false_iff {i : Nat} : skips ranges i = false ↔ ∀ r ∈ ranges, r.contains i = false := by
  simp [skips]

/-- A range on boundaries of a text holds all bytes of a character or none. -/
theorem contains_congr {r : Span} {before after : List Char} {c : Char}
    (h : r.OnBoundaries (before ++ c :: after)) {k : Nat} (hk : k < c.utf8Size) :
    r.contains (byteLength before + k) = r.contains (byteLength before) := by
  have hstart := h.start.le_or_le
  have hstop := h.stop.le_or_le
  rw [byteLength_append, byteLength_cons, byteLength_nil] at hstart hstop
  rw [Bool.eq_iff_iff]
  simp only [Span.contains, Bool.and_eq_true, decide_eq_true_eq]
  omega

/-- Ranges on boundaries cut no character. -/
theorem cover_ne_cut {before after : List Char} {c : Char}
    (h : ∀ r ∈ ranges, r.OnBoundaries (before ++ c :: after)) : cover ranges c (byteLength before) ≠ .cut := by
  have hskips (k : Nat) (hk : k ∈ List.range c.utf8Size) :
      skips ranges (byteLength before + k) = skips ranges (byteLength before) := by
    unfold skips
    rw [Bool.eq_iff_iff, List.any_eq_true, List.any_eq_true]
    exact exists_congr fun r => and_congr_right fun hr => by rw [contains_congr (h r hr) (List.mem_range.1 hk)]
  unfold cover
  dsimp only
  rw [List.map_congr_left hskips]
  split_ifs with hline hall hany
  · simp
  · simp
  · simp only [List.all_map, List.any_map, List.all_eq_true, List.any_eq_true, Function.comp, id] at hall hany
    obtain ⟨k, hk, hskip⟩ := hany
    exact absurd (fun _ _ => hskip) hall
  · simp

theorem exists_blank? (before : List Char) {after : List Char} (h : ∀ r ∈ ranges, r.OnBoundaries (before ++ after)) :
    ∃ masked, blank? ranges (byteLength before) after = some masked ∧
      Masks ranges (byteLength before) masked after := by
  induction after generalizing before with
  | nil => exact ⟨[], rfl, .nil _⟩
  | cons c cs ih =>
    have hnext : byteLength (before ++ [c]) = byteLength before + c.utf8Size := by simp
    obtain ⟨rest, hrest, hmasks⟩ := ih (before ++ [c]) (by simpa using h)
    rw [hnext] at hrest hmasks
    cases hc : cover ranges c (byteLength before) with
    | clear => exact ⟨c :: rest, by rw [blank?, hc, hrest], .clear hc hmasks⟩
    | covered => exact ⟨_, by rw [blank?, hc, hrest], .covered hc hmasks⟩
    | cut => exact absurd hc (cover_ne_cut h)

theorem masks_of_blank? {i : Nat} {masked cs : List Char} (h : blank? ranges i cs = some masked) :
    Masks ranges i masked cs := by
  induction cs generalizing i masked with
  | nil =>
    obtain rfl := Option.some.inj h
    exact .nil i
  | cons c cs ih =>
    unfold blank? at h
    split at h
    · rename_i hc hrest
      obtain rfl := Option.some.inj h
      exact .clear hc (ih hrest)
    · rename_i hc hrest
      obtain rfl := Option.some.inj h
      exact .covered hc (ih hrest)
    · cases h

/-- Without ranges a text is its own mask. -/
theorem masks_self (i : Nat) (cs : List Char) : Masks [] i cs cs := by
  induction cs generalizing i with
  | nil => exact .nil i
  | cons c cs ih => exact .clear (cover_eq_clear fun _ _ => rfl) (ih _)

/-- Whatever the ranges, the masked text masks its text: with the ranges, or with none if one of them cuts a character. -/
theorem exists_masks_apply (ranges : List Span) (cs : List Char) : ∃ used ⊆ ranges, Masks used 0 (apply ranges cs) cs := by
  rw [apply]
  cases hblank : blank? ranges 0 cs with
  | none => exact ⟨[], List.nil_subset _, masks_self 0 cs⟩
  | some masked => exact ⟨ranges, fun _ => id, masks_of_blank? hblank⟩

/-- **The masked text masks its text.** -/
theorem masks_apply {cs : List Char} (h : ∀ r ∈ ranges, r.OnBoundaries cs) : Masks ranges 0 (apply ranges cs) cs := by
  obtain ⟨masked, hblank, hmasks⟩ := exists_blank? [] h
  rw [byteLength_nil] at hblank hmasks
  rw [apply, hblank]
  exact hmasks

namespace Masks

variable {i : Nat} {masked cs : List Char}

/-! ## The same bytes -/

theorem byteLength_eq (h : Masks ranges i masked cs) : byteLength masked = byteLength cs := by
  induction h with
  | nil => rfl
  | clear _ _ ih => rw [byteLength_cons, byteLength_cons, ih]
  | covered _ _ ih => rw [byteLength_append, byteLength_spaces, byteLength_cons, ih]

theorem eq_nil_iff (h : Masks ranges i masked cs) : masked = [] ↔ cs = [] := by
  cases h with
  | nil => simp
  | clear => simp
  | @covered _ c => simp [Nat.ne_of_gt c.utf8Size_pos]

/-- What is masked after a character other than a space was masked apart from what comes before it. -/
theorem split_at {x y : List Char} {c : Char} (hc : c ≠ ' ') (h : Masks ranges i (x ++ c :: y) cs) :
    ∃ before after, cs = before ++ c :: after ∧ Masks ranges i x before ∧ cover ranges c (i + byteLength x) = .clear ∧
      Masks ranges (i + byteLength (x ++ [c])) y after := by
  generalize hm : x ++ c :: y = m at h
  induction h generalizing x with
  | nil => simp at hm
  | @clear i d rest cs hd h ih =>
    cases x with
    | nil =>
      obtain ⟨rfl, rfl⟩ := List.cons.inj hm
      exact ⟨[], cs, rfl, .nil i, hd, by simpa using h⟩
    | cons e x =>
      obtain ⟨rfl, hrest⟩ := List.cons.inj hm
      obtain ⟨before, after, rfl, hx, hclear, hy⟩ := ih hrest
      refine ⟨e :: before, after, rfl, .clear hd hx, ?_, ?_⟩
      · simpa [Nat.add_assoc] using hclear
      · simpa [Nat.add_assoc] using hy
  | @covered i d rest cs hd h ih =>
    -- The cut is not inside the spaces that stand for a character, for the character at the cut is no space.
    rcases List.append_eq_append_iff.1 hm with ⟨more, hmore, hrest⟩ | ⟨x', rfl, hrest⟩
    · cases more with
      | nil =>
        rw [List.append_nil] at hmore
        obtain ⟨before, after, rfl, hx, hclear, hy⟩ := ih (x := []) hrest
        rw [hx.eq_nil_iff.1 rfl, ← hmore]
        refine ⟨[d], after, rfl, ?_, ?_, ?_⟩
        · simpa using Masks.covered hd (.nil _)
        · simpa [byteLength_spaces] using hclear
        · simpa [byteLength_spaces, Nat.add_assoc] using hy
      | cons e more =>
        obtain ⟨rfl, -⟩ := List.cons.inj hrest
        have hspace : c ∈ List.replicate d.utf8Size ' ' := by rw [hmore]; simp
        exact absurd (List.eq_of_mem_replicate hspace) hc
    · obtain ⟨before, after, rfl, hx, hclear, hy⟩ := ih hrest.symm
      refine ⟨d :: before, after, rfl, .covered hd hx, ?_, ?_⟩
      · simpa [byteLength_spaces, Nat.add_assoc] using hclear
      · simpa [byteLength_spaces, Nat.add_assoc] using hy

/-- What is left of a text stands in the masked text, where it was. -/
theorem split_clear {before after : List Char} {c : Char} (h : Masks ranges i masked (before ++ c :: after))
    (hc : cover ranges c (i + byteLength before) = .clear) :
    ∃ x y, masked = x ++ c :: y ∧ byteLength x = byteLength before := by
  induction before generalizing i masked with
  | nil =>
    cases h with
    | clear => exact ⟨[], _, rfl, rfl⟩
    | covered hcovered =>
      rw [byteLength_nil, Nat.add_zero, hcovered] at hc
      cases hc
  | cons d before ih =>
    rw [byteLength_cons, ← Nat.add_assoc] at hc
    cases h with
    | clear hd hrest =>
      obtain ⟨x, y, rfl, hlen⟩ := ih hrest hc
      exact ⟨d :: x, y, rfl, by rw [byteLength_cons, byteLength_cons, hlen]⟩
    | covered hd hrest =>
      obtain ⟨x, y, rfl, hlen⟩ := ih hrest hc
      exact ⟨List.replicate d.utf8Size ' ' ++ x, y, by rw [List.append_assoc],
        by rw [byteLength_append, byteLength_spaces, byteLength_cons, hlen]⟩

/-- No range holds a byte of what is read in the masked text between white space. -/
theorem not_skips {x w y : List Char} (hw : ∀ c ∈ w, isBlank c = false) (h : Masks ranges i (x ++ w ++ y) cs) {k : Nat}
    (hk : k < byteLength w) : skips ranges (i + byteLength x + k) = false := by
  induction w generalizing x k with
  | nil => cases hk
  | cons c w ih =>
    have hblank := hw c List.mem_cons_self
    have hspace : c ≠ ' ' := by
      rintro rfl
      exact absurd hblank (by decide)
    have hline : isLineEnd c = false := by
      by_contra hend
      rw [Bool.not_eq_false, isLineEnd, Bool.or_eq_true, beq_iff_eq, beq_iff_eq] at hend
      rcases hend with rfl | rfl <;> exact absurd hblank (by decide)
    by_cases hfirst : k < c.utf8Size
    · rw [List.append_assoc, List.cons_append] at h
      obtain ⟨-, -, -, -, hclear, -⟩ := h.split_at hspace
      exact skips_eq_false_of_clear hclear hline hfirst
    · rw [byteLength_cons] at hk
      have hrest := ih (x := x ++ [c]) (k := k - c.utf8Size) (fun d hd => hw d (List.mem_cons_of_mem _ hd))
        (by simpa using h) (by omega)
      rw [byteLength_append, byteLength_cons, byteLength_nil] at hrest
      rwa [show i + byteLength x + k = i + (byteLength x + (c.utf8Size + 0)) + (k - c.utf8Size) by omega]

/-- **What is read between spaces of the masked text stands in the text**, at the same bytes. -/
theorem split_word {x w y : List Char} (hw : w ≠ []) (hspace : ∀ c ∈ w, c ≠ ' ') (h : Masks ranges i (x ++ w ++ y) cs) :
    ∃ before after, cs = before ++ w ++ after ∧ byteLength before = byteLength x ∧
      Masks ranges (i + byteLength (x ++ w)) y after := by
  induction w generalizing i x cs with
  | nil => exact absurd rfl hw
  | cons c w ih =>
    rw [List.append_assoc, List.cons_append] at h
    obtain ⟨before, after, rfl, hx, -, hafter⟩ := h.split_at (hspace c List.mem_cons_self)
    cases w with
    | nil => exact ⟨before, after, by simp, hx.byteLength_eq.symm, hafter⟩
    | cons d w =>
      obtain ⟨gap, rest, rfl, hgap, hy⟩ :=
        ih (x := []) (by simp) (fun e he => hspace e (List.mem_cons_of_mem _ he)) hafter
      obtain rfl : gap = [] := eq_nil_of_byteLength hgap
      refine ⟨before, rest, by simp, hx.byteLength_eq.symm, ?_⟩
      simpa [Nat.add_assoc] using hy

/-- A masked space stands for a character of several bytes if the text cannot be cut after one byte. -/
theorem cut_space {tail : List Char} (h : Masks ranges i (' ' :: tail) cs) (hcut : ¬ IsBoundary cs 1) :
    ∃ c after rest, cs = c :: after ∧ 1 < c.utf8Size ∧ ' ' :: tail = List.replicate c.utf8Size ' ' ++ rest := by
  have hsize {c : Char} {after : List Char} (hc : ¬ IsBoundary (c :: after) 1) : 1 < c.utf8Size := by
    by_contra hle
    exact hc (isBoundary_iff.2 ⟨[c], after, rfl, by have := c.utf8Size_pos; simp; omega⟩)
  generalize hm : ' ' :: tail = m at h
  cases h with
  | nil => cases hm
  | @clear _ c =>
    obtain ⟨rfl, -⟩ := List.cons.inj hm
    exact absurd (hsize hcut) (by decide)
  | @covered _ c rest after => exact ⟨c, after, rest, rfl, hsize hcut, rfl⟩

/-! ## The same lines -/

/-- Lines of a masked text beside the lines that they were made from, the first of which starts at a byte offset. -/
inductive Lines (ranges : List Span) : Nat → List (List Char) → List (List Char) → Prop
  | nil (i : Nat) : Lines ranges i [] []
  | cons {i : Nat} {masked line : List Char} {maskeds lines : List (List Char)} (h : Masks ranges i masked line)
      (rest : Lines ranges (i + byteLength masked) maskeds lines) : Lines ranges i (masked :: maskeds) (line :: lines)

/-- Masking keeps line feeds, so the masked text has its lines at the same bytes. -/
theorem lines (h : Masks ranges i masked cs) : Lines ranges i (linesWithEnds masked) (linesWithEnds cs) := by
  -- A line feed is never covered, so both texts end their lines with the same step.
  induction h with
  | nil i => exact .nil i
  | @clear i c masked cs hc h ih =>
    by_cases hline : c = '\n'
    · subst hline
      exact .cons (.clear hc (.nil _)) ih
    · rw [linesWithEnds_cons hline, linesWithEnds_cons hline]
      generalize linesWithEnds masked = ms, linesWithEnds cs = ls at ih
      cases ih with
      | nil => exact .cons (.clear hc (.nil _)) (.nil _)
      | cons hl hrest => exact .cons (.clear hc hl) (by rw [byteLength_cons, ← Nat.add_assoc]; exact hrest)
  | @covered i c masked cs hc h ih =>
    have hline : c ≠ '\n' := by
      rintro rfl
      exact absurd (not_isLineEnd_of_covered hc) (by decide)
    rw [linesWithEnds_cons hline, linesWithEnds_append (by simp [Nat.ne_of_gt c.utf8Size_pos]) (by simp)]
    generalize linesWithEnds masked = ms, linesWithEnds cs = ls at ih
    cases ih with
    | nil => exact .cons (by simpa using Masks.covered hc (.nil _)) (.nil _)
    | cons hl hrest =>
      refine .cons (.covered hc hl) ?_
      rw [byteLength_append, byteLength_spaces, ← Nat.add_assoc]
      exact hrest

theorem Lines.length_eq {maskeds lines : List (List Char)} (h : Lines ranges i maskeds lines) :
    maskeds.length = lines.length := by
  induction h with
  | nil => rfl
  | cons _ _ ih => rw [List.length_cons, List.length_cons, ih]

/-- A line of the masked text stands at the bytes of the line that it masks. -/
theorem Lines.stands {maskeds lines : List (List Char)} (h : Lines ranges i maskeds lines)
    {before after : List (List Char × List Char)} {p : List Char × List Char}
    (hp : maskeds.zip lines = before ++ p :: after) :
    Masks ranges (i + byteLength (before.map (·.1)).flatten) p.1 p.2 ∧
      lines = before.map (·.2) ++ p.2 :: after.map (·.2) ∧
      byteLength (before.map (·.2)).flatten = byteLength (before.map (·.1)).flatten := by
  induction before generalizing i maskeds lines with
  | nil =>
    cases h with
    | nil => cases hp
    | cons h rest =>
      obtain ⟨rfl, rfl⟩ := List.cons.inj hp
      exact ⟨h, congrArg _ (List.map_snd_zip rest.length_eq.ge).symm, rfl⟩
  | cons q before ih =>
    cases h with
    | nil => cases hp
    | cons h rest =>
      obtain ⟨rfl, hrest⟩ := List.cons.inj hp
      obtain ⟨hmasks, rfl, hlen⟩ := ih rest hrest
      refine ⟨by simpa [Nat.add_assoc] using hmasks, rfl, ?_⟩
      simp only [List.map_cons, List.flatten_cons, byteLength_append, hlen, h.byteLength_eq]

theorem isBlank_of_mem {r : Span} (h : Masks ranges i masked cs) (hr : r ∈ ranges) (hstart : r.start ≤ i)
    (hstop : i + byteLength cs ≤ r.stop) : ∀ c ∈ masked, isBlank c = true := by
  induction h with
  | nil => simp
  | @clear i c masked cs hc h ih =>
    rw [byteLength_cons, ← Nat.add_assoc] at hstop
    refine List.forall_mem_cons.2 ⟨?_, ih (by omega) hstop⟩
    have hskips : ((List.range c.utf8Size).map fun k => skips ranges (i + k)).all id = true := by
      simp only [List.all_map, List.all_eq_true, List.mem_range, Function.comp, id, skips, List.any_eq_true, Span.contains,
        Bool.and_eq_true, decide_eq_true_eq]
      intro k hk
      exact ⟨r, hr, by omega, by omega⟩
    unfold cover at hc
    dsimp only at hc
    split_ifs at hc with hline
    · simp only [isLineEnd, Bool.or_eq_true, beq_iff_eq] at hline
      rcases hline with rfl | rfl <;> decide
  | @covered i c masked cs hc h ih =>
    rw [byteLength_cons, ← Nat.add_assoc] at hstop
    intro d hd
    rcases List.mem_append.1 hd with hd | hd
    · rw [List.eq_of_mem_replicate hd]
      decide
    · exact ih (by omega) hstop d hd

theorem dropLineEnd (h : Masks ranges i masked cs) : Masks ranges i (dropLineEnd masked) (dropLineEnd cs) := by
  unfold Text.dropLineEnd
  induction h with
  | nil i => exact .nil i
  | @clear i c masked cs hc h ih =>
    rw [dropEndWhile_cons, dropEndWhile_cons]
    simp only [ih.eq_nil_iff]
    split_ifs
    · exact .nil i
    · exact .clear hc ih
  | @covered i c masked cs hc h ih =>
    rw [dropEndWhile_cons, if_neg (by simp [not_isLineEnd_of_covered hc])]
    have hspaces (n : Nat) : dropEndWhile isLineEnd (List.replicate n ' ' ++ masked) =
        List.replicate n ' ' ++ dropEndWhile isLineEnd masked := by
      induction n with
      | zero => rfl
      | succ n ihn =>
        rw [List.replicate_succ, List.cons_append, dropEndWhile_cons, ihn, if_neg (by simp [isLineEnd]),
          List.cons_append]
    rw [hspaces]
    exact .covered hc ih

end Masks

end LivePage.Mask
