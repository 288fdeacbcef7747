import LivePage.Proofs.Text.Bytes
import LivePage.Text.Lines
import Mathlib.Data.List.DropRight
import Mathlib.Tactic.SplitIfs
/-!
# Lines with and without their ends

Two ways of listing the lines of a text agree on every line number: with line feeds, where nothing follows the last
one, and between line feeds, where one more line, an empty one, does.
-/
namespace LivePage.Text

/-! ## Dropping from the end -/

section
variable {p q : Char → Bool} {c : Char} {cs ds : List Char}

theorem dropEndWhile_append (h : p c = false) : dropEndWhile p (cs ++ c :: ds) = cs ++ c :: dropEndWhile p ds := by
  unfold dropEndWhile
  rw [List.reverse_append, List.reverse_cons, List.append_assoc, List.dropWhile_append]
  split_ifs with hall
  · rw [List.isEmpty_iff.1 hall]
    simp [h]
  · simp

/-- What is dropped from the end of a text is known from what is dropped from the end of its rest. -/
theorem dropEndWhile_cons_congr (h : dropEndWhile p cs = dropEndWhile p ds) :
    dropEndWhile p (c :: cs) = dropEndWhile p (c :: ds) := by
  unfold dropEndWhile at *
  rw [List.reverse_inj] at *
  rw [List.reverse_cons, List.reverse_cons, List.dropWhile_append, List.dropWhile_append, h]

theorem dropEndWhile_cons (c : Char) (cs : List Char) :
    dropEndWhile p (c :: cs) = if dropEndWhile p cs = [] ∧ p c = true then [] else c :: dropEndWhile p cs := by
  unfold dropEndWhile
  rw [List.reverse_cons, List.dropWhile_append]
  cases h : cs.reverse.dropWhile p with
  | nil => cases hc : p c <;> simp [hc]
  | cons d ds => simp

/-- Two classes that agree on a text drop the same from its end. -/
theorem dropEndWhile_congr (h : ∀ c ∈ cs, p c = q c) : dropEndWhile p cs = dropEndWhile q cs := by
  induction cs with
  | nil => rfl
  | cons c cs ih =>
    rw [List.forall_mem_cons] at h
    rw [dropEndWhile_cons, dropEndWhile_cons, ih h.2, h.1]

theorem dropEndWhile_prefix (p : Char → Bool) (cs : List Char) : dropEndWhile p cs <+: cs := List.rdropWhile_prefix p cs

theorem dropLineEnd_prefix (cs : List Char) : dropLineEnd cs <+: cs := dropEndWhile_prefix isLineEnd cs

/-- What holds of the first character, if there is one, holds of the first one of what the text starts with. -/
theorem all_head?_of_start (hpre : ds <+: cs) (h : cs.head?.all q = true) : ds.head?.all q = true := by
  obtain ⟨rest, rfl⟩ := hpre
  cases ds with
  | nil => rfl
  | cons d ds => exact h

theorem all_head?_dropEndWhile (h : cs.head?.all q = true) : (dropEndWhile p cs).head?.all q = true := by
  have hpre := dropEndWhile_prefix p cs
  exact all_head?_of_start hpre h

end

/-! ## The same line in both lists -/

theorem linesWithEnds_cons {c : Char} (h : c ≠ '\n') (cs : List Char) :
    linesWithEnds (c :: cs) = match linesWithEnds cs with
      | [] => [[c]]
      | l :: ls => (c :: l) :: ls :=
  linesWithEnds.eq_3 c cs h

theorem splitOn_line (cs : List Char) : splitOn '\n' ('\n' :: cs) = [] :: splitOn '\n' cs := by
  simp [splitOn, List.splitOnP_cons_eq_if_modifyHead]

theorem exists_splitOn (cs : List Char) : ∃ l ls, splitOn '\n' cs = l :: ls :=
  List.exists_cons_of_ne_nil (List.splitOnP_ne_nil (· == '\n') cs)

theorem splitOn_cons {c : Char} (h : c ≠ '\n') (cs : List Char) :
    ∃ l ls, splitOn '\n' cs = l :: ls ∧ splitOn '\n' (c :: cs) = (c :: l) :: ls := by
  obtain ⟨l, ls, hl⟩ := exists_splitOn cs
  refine ⟨l, ls, hl, ?_⟩
  rw [splitOn] at hl ⊢
  rw [List.splitOnP_cons_eq_if_modifyHead, hl]
  simp [h]

theorem length_splitOn (cs : List Char) : (splitOn '\n' cs).length = cs.count '\n' + 1 := by
  induction cs with
  | nil => rfl
  | cons c cs ih =>
    by_cases hc : c = '\n'
    · rw [hc, splitOn_line, List.length_cons, ih, List.count_cons_self]
    · obtain ⟨l, ls, hl, hcl⟩ := splitOn_cons hc cs
      rw [hl] at ih
      rw [hcl, List.count_cons_of_ne hc, ← ih]
      rfl

theorem linesWithEnds_flatten (cs : List Char) : (linesWithEnds cs).flatten = cs := by
  fun_induction linesWithEnds cs <;> simp_all

/-- Without its line end, a line is the same in both lists. -/
theorem dropLineEnd_linesWithEnds (cs : List Char) (i : Nat) :
    dropLineEnd ((linesWithEnds cs).getD i []) = dropLineEnd ((splitOn '\n' cs).getD i []) := by
  induction cs generalizing i with
  | nil => cases i <;> rfl
  | cons c cs ih =>
    by_cases hc : c = '\n'
    · subst hc
      rw [splitOn_line, linesWithEnds]
      cases i with
      | zero => rfl
      | succ i => exact ih i
    · obtain ⟨l, ls, hl, hcl⟩ := splitOn_cons hc cs
      rw [hl] at ih
      rw [hcl, linesWithEnds_cons hc]
      cases hlines : linesWithEnds cs with
      | nil =>
        rw [hlines] at ih
        cases i with
        | zero => exact dropEndWhile_cons_congr (ih 0)
        | succ i => exact ih (i + 1)
      | cons k ks =>
        rw [hlines] at ih
        cases i with
        | zero => exact dropEndWhile_cons_congr (ih 0)
        | succ i => exact ih (i + 1)

/-- Past the lines with ends there is at most an empty line. -/
theorem splitOn_past_end {cs : List Char} {i : Nat} (h : (linesWithEnds cs).length ≤ i) :
    (splitOn '\n' cs).getD i [] = [] := by
  induction cs generalizing i with
  | nil => cases i <;> rfl
  | cons c cs ih =>
    by_cases hc : c = '\n'
    · subst hc
      rw [linesWithEnds] at h
      obtain ⟨i, rfl⟩ := Nat.exists_eq_add_one_of_ne_zero (Nat.ne_of_gt (Nat.lt_of_lt_of_le (Nat.succ_pos _) h))
      rw [splitOn_line]
      exact ih (Nat.le_of_succ_le_succ h)
    · obtain ⟨l, ls, hl, hcl⟩ := splitOn_cons hc cs
      rw [hl] at ih
      rw [linesWithEnds_cons hc] at h
      rw [hcl]
      cases hlines : linesWithEnds cs with
      | nil =>
        rw [hlines] at h ih
        obtain ⟨i, rfl⟩ := Nat.exists_eq_add_one_of_ne_zero (Nat.ne_of_gt (Nat.lt_of_lt_of_le (Nat.succ_pos _) h))
        exact ih (Nat.zero_le (i + 1))
      | cons k ks =>
        rw [hlines] at h ih
        obtain ⟨i, rfl⟩ := Nat.exists_eq_add_one_of_ne_zero (Nat.ne_of_gt (Nat.lt_of_lt_of_le (Nat.succ_pos _) h))
        exact ih h

/-! ## What occurs in a line -/

theorem occursIn_iff {pat cs : List Char} : occursIn pat cs = true ↔ pat <:+: cs := by
  induction cs with
  | nil => simp [occursIn]
  | cons c cs ih => simp [occursIn, ih, List.infix_cons_iff]

/-- A line is a piece of its text, the first one at its start. -/
theorem splitOn_infix {cs l : List Char} {ls : List (List Char)} (h : splitOn '\n' cs = l :: ls) :
    l <+: cs ∧ ∀ k ∈ ls, k <:+: cs := by
  induction cs generalizing l ls with
  | nil =>
    obtain ⟨rfl, rfl⟩ := List.cons.inj h.symm
    exact ⟨List.prefix_rfl, by simp⟩
  | cons c cs ih =>
    by_cases hc : c = '\n'
    · subst hc
      rw [splitOn_line, List.cons.injEq] at h
      obtain ⟨rfl, rfl⟩ := h
      obtain ⟨k, ks, hk⟩ := exists_splitOn cs
      obtain ⟨hfirst, hrest⟩ := ih hk
      refine ⟨List.nil_prefix, fun m hm => ?_⟩
      rw [hk] at hm
      rcases List.mem_cons.1 hm with rfl | hm
      · exact hfirst.isInfix.trans (List.suffix_cons _ _).isInfix
      · exact (hrest m hm).trans (List.suffix_cons _ _).isInfix
    · obtain ⟨k, ks, hk, hck⟩ := splitOn_cons hc cs
      obtain ⟨hfirst, hrest⟩ := ih hk
      rw [hck, List.cons.injEq] at h
      obtain ⟨rfl, rfl⟩ := h
      exact ⟨List.prefix_cons_iff.2 (Or.inr ⟨k, rfl, hfirst⟩),
        fun m hm => (hrest m hm).trans (List.suffix_cons _ _).isInfix⟩

theorem infix_of_mem_splitOn {cs l : List Char} (h : l ∈ splitOn '\n' cs) : l <:+: cs := by
  obtain ⟨k, ks, hk⟩ := exists_splitOn cs
  obtain ⟨hfirst, hrest⟩ := splitOn_infix hk
  rw [hk] at h
  rcases List.mem_cons.1 h with rfl | h
  · exact hfirst.isInfix
  · exact hrest l h

/-! ## The first line and those after it -/

/-- Lines after the first one are the lines of their own text, and the first one then ends with its only line
feed. -/
theorem linesWithEnds_eq_cons {cs l : List Char} {ls : List (List Char)} (h : linesWithEnds cs = l :: ls) :
    linesWithEnds ls.flatten = ls ∧ (ls ≠ [] → l.count '\n' = 1) := by
  induction cs generalizing l ls with
  | nil => simp [linesWithEnds] at h
  | cons c cs ih =>
    by_cases hc : c = '\n'
    · subst hc
      rw [linesWithEnds, List.cons.injEq] at h
      obtain ⟨rfl, rfl⟩ := h
      rw [linesWithEnds_flatten]
      exact ⟨rfl, fun _ => rfl⟩
    · rw [linesWithEnds_cons hc] at h
      cases hlines : linesWithEnds cs with
      | nil =>
        rw [hlines, List.cons.injEq] at h
        obtain ⟨-, rfl⟩ := h
        exact ⟨rfl, fun h => absurd rfl h⟩
      | cons k ks =>
        rw [hlines, List.cons.injEq] at h
        obtain ⟨rfl, rfl⟩ := h
        obtain ⟨hrest, hcount⟩ := ih hlines
        exact ⟨hrest, fun hne => by rw [List.count_cons_of_ne hc, hcount hne]⟩

/-- A cut between two lines: what follows it is listed as before, and what comes before it has a line feed for each
line. -/
theorem linesWithEnds_eq_append {cs : List Char} {before after : List (List Char)}
    (h : linesWithEnds cs = before ++ after) :
    linesWithEnds after.flatten = after ∧ (after ≠ [] → before.flatten.count '\n' = before.length) := by
  induction before generalizing cs with
  | nil => exact ⟨by rw [← List.nil_append after, ← h, linesWithEnds_flatten, h], fun _ => rfl⟩
  | cons l ls ih =>
    obtain ⟨hrest, hcount⟩ := linesWithEnds_eq_cons h
    obtain ⟨hafter, hls⟩ := ih hrest
    refine ⟨hafter, fun hne => ?_⟩
    rw [List.flatten_cons, List.count_append, hcount (by simp [hne]), hls hne, List.length_cons, Nat.add_comm]

/-- A text that ends with its only line feed is one line of a longer text. -/
theorem linesWithEnds_line {l : List Char} (h : '\n' ∉ l) (cs : List Char) :
    linesWithEnds (l ++ '\n' :: cs) = (l ++ ['\n']) :: linesWithEnds cs := by
  induction l with
  | nil => rfl
  | cons c l ih =>
    rw [List.mem_cons, not_or] at h
    rw [List.cons_append, linesWithEnds_cons (Ne.symm h.1), ih h.2]
    rfl

/-- What comes before the first line feed belongs to the first line. -/
theorem linesWithEnds_append {l : List Char} (hne : l ≠ []) (h : '\n' ∉ l) (cs : List Char) :
    linesWithEnds (l ++ cs) = match linesWithEnds cs with
      | [] => [l]
      | k :: ks => (l ++ k) :: ks := by
  induction l with
  | nil => exact absurd rfl hne
  | cons c l ih =>
    rw [List.mem_cons, not_or] at h
    rw [List.cons_append, linesWithEnds_cons (Ne.symm h.1)]
    cases l with
    | nil => rfl
    | cons d l =>
      rw [ih (by simp) h.2]
      cases linesWithEnds cs <;> rfl

/-! ## The line of a byte -/

theorem lt_of_mem_lineStarts_go {cs : List Char} {offset n : Nat} (h : n ∈ lineStarts.go offset cs) : offset < n := by
  induction cs generalizing offset with
  | nil => cases h
  | cons c cs ih =>
    have hc := c.utf8Size_pos
    have hlater (h : n ∈ lineStarts.go (offset + c.utf8Size) cs) : offset < n := by
      have := ih h
      omega
    simp only [lineStarts.go] at h
    split_ifs at h
    · rcases List.mem_cons.1 h with rfl | h
      · omega
      · exact hlater h
    · exact hlater h

/-- Among the first bytes of a text each line feed starts one more line. -/
theorem length_takeWhile_lineStarts_go (cs : List Char) (start n : Nat) :
    ((lineStarts.go start cs).takeWhile (· ≤ start + n)).length =
      ((cs.flatMap String.utf8EncodeChar).take n).count 0x0a := by
  induction cs generalizing start n with
  | nil => simp [lineStarts.go]
  | cons c cs ih =>
    have hlater (h : n < c.utf8Size) : (lineStarts.go (start + c.utf8Size) cs).takeWhile (· ≤ start + n) = [] := by
      cases hstarts : lineStarts.go (start + c.utf8Size) cs with
      | nil => rfl
      | cons m rest =>
        have := lt_of_mem_lineStarts_go (hstarts ▸ List.mem_cons_self)
        rw [List.takeWhile_cons_of_neg (by simp; omega)]
    rw [List.flatMap_cons, List.take_append, String.length_utf8EncodeChar, List.count_append, lineStarts.go]
    -- A line feed is one byte, and no other character has such a byte.
    split_ifs with hc
    · subst hc
      have hsize : '\n'.utf8Size = 1 := rfl
      have hbytes : String.utf8EncodeChar '\n' = [0x0a] := rfl
      rw [hsize, hbytes]
      cases n with
      | zero => simp
      | succ n =>
        have hrest := ih (start + 1) n
        rw [Nat.add_assoc, Nat.add_comm 1 n] at hrest
        rw [List.takeWhile_cons_of_pos (by simp), List.length_cons, hrest]
        simp [Nat.add_comm]
    · have hnone : ((String.utf8EncodeChar c).take n).count 0x0a = 0 :=
        List.count_eq_zero.2 fun hmem => not_mem_utf8EncodeChar hc (List.mem_of_mem_take hmem)
      rw [hnone, Nat.zero_add]
      rcases Nat.lt_or_ge n c.utf8Size with hn | hn
      · rw [hlater hn, Nat.sub_eq_zero_of_le hn.le]
        rfl
      · rw [← ih (start + c.utf8Size) (n - c.utf8Size), Nat.add_assoc, Nat.add_sub_cancel' hn]

/-- The line of a byte is the number of line feeds among the bytes before it. -/
theorem lineIndex_eq_count (cs : List Char) (n : Nat) :
    lineIndex (lineStarts cs) n = ((cs.flatMap String.utf8EncodeChar).take n).count 0x0a := by
  have h := length_takeWhile_lineStarts_go cs 0 n
  rw [Nat.zero_add] at h
  rw [lineIndex, lineStarts, List.takeWhile_cons_of_pos (by simp), List.length_cons, h, Nat.add_sub_cancel]

theorem lineIndex_lineStarts (before after : List Char) :
    lineIndex (lineStarts (before ++ after)) (byteLength before) = before.count '\n' := by
  rw [lineIndex_eq_count, List.flatMap_append, List.take_left' (length_flatMap_utf8EncodeChar before),
    count_flatMap_utf8EncodeChar]

/-- The line of a byte does not start after it. -/
theorem exists_lineStart_le (cs : List Char) (n : Nat) :
    ∃ start, (lineStarts cs)[lineIndex (lineStarts cs) n]? = some start ∧ start ≤ n := by
  have hne : (lineStarts cs).takeWhile (· ≤ n) ≠ [] := by simp [lineStarts]
  have hlast := List.getLast?_eq_some_getLast hne
  obtain ⟨rest, hrest⟩ := List.takeWhile_prefix (· ≤ n) (l := lineStarts cs)
  refine ⟨_, ?_, by simpa using List.mem_takeWhile_imp (List.getLast_mem hne)⟩
  rw [List.getLast?_eq_getElem?] at hlast
  conv_lhs => rw [← hrest]
  rw [List.getElem?_append_left, lineIndex, hrest, hlast]
  · have := List.length_pos_of_ne_nil hne
    rw [lineIndex, hrest]
    omega

section
variable {cs l : List Char} {before after : List (List Char)}

theorem lineIndex_of_line (h : linesWithEnds cs = before ++ l :: after) :
    lineIndex (lineStarts cs) (byteLength before.flatten) = before.length := by
  rw [← (linesWithEnds_eq_append h).2 (List.cons_ne_nil _ _), ← lineIndex_lineStarts _ (l :: after).flatten,
    ← List.flatten_append, ← h, linesWithEnds_flatten]

theorem lineRange?_of_line (h : linesWithEnds cs = before ++ l :: after) :
    lineRange? cs (before.length + 1) =
      some (byteLength before.flatten, byteLength before.flatten + byteLength (dropLineEnd l)) := by
  simp [lineRange?, h]

end

/-! ## Texts that are made of lines -/

/-- Texts without line feeds are the lines of the text that joins them. -/
theorem splitOn_intercalate {texts : List String} (hne : texts ≠ []) (h : ∀ t ∈ texts, '\n' ∉ t.toList) :
    splitOn '\n' ("\n".intercalate texts).toList = texts.map String.toList := by
  rw [String.toList_intercalate]
  exact List.splitOn_intercalate '\n' (List.forall_mem_map.2 h) (by simpa using hne)

/-- A line of which something is left without its end is in both lists. -/
theorem getElem?_linesWithEnds {cs : List Char} {i : Nat} (h : dropLineEnd ((splitOn '\n' cs).getD i []) ≠ []) :
    ∃ l, (linesWithEnds cs)[i]? = some l ∧ dropLineEnd l = dropLineEnd ((splitOn '\n' cs).getD i []) := by
  cases hl : (linesWithEnds cs)[i]? with
  | some l => exact ⟨l, rfl, by rw [← dropLineEnd_linesWithEnds, List.getD_eq_getElem?_getD, hl]; rfl⟩
  | none => rw [splitOn_past_end (List.getElem?_eq_none_iff.1 hl)] at h; exact absurd rfl h

end LivePage.Text
