import LivePage.Proofs.Text.Lines
/-!
# Texts with one line changed

All lines of a text but the last one end with their only line feed. So a line can be put in the place of another, or
between two others, and the text that this gives has the lines that were put together.
-/
namespace LivePage.Text

variable {cs k l m newline : List Char} {before after ls : List (List Char)}

/-! ## Lines that end -/

/-- A line that ends with its only line feed. -/
def Closed (l : List Char) : Prop := ∃ k, '\n' ∉ k ∧ l = k ++ ['\n']

/-- What the last line of a text is when it is not closed: a piece without line feed. -/
def Open (l : List Char) : Prop := l ≠ [] ∧ '\n' ∉ l

theorem linesWithEnds_closed_append (h : Closed l) (cs : List Char) :
    linesWithEnds (l ++ cs) = l :: linesWithEnds cs := by
  obtain ⟨k, hk, rfl⟩ := h
  rw [List.append_assoc]
  exact linesWithEnds_line hk cs

theorem linesWithEnds_open (h : Open l) : linesWithEnds l = [l] := by
  have := linesWithEnds_append h.1 h.2 []
  rwa [List.append_nil] at this

theorem linesWithEnds_flatten_append (h : ∀ l ∈ before, Closed l) (cs : List Char) :
    linesWithEnds (before.flatten ++ cs) = before ++ linesWithEnds cs := by
  induction before with
  | nil => rfl
  | cons l before ih =>
    rw [List.forall_mem_cons] at h
    rw [List.flatten_cons, List.append_assoc, linesWithEnds_closed_append h.1, ih h.2, List.cons_append]

/-- The first line of a text is closed, or it is the only one. -/
theorem closed_or_open_of_cons (h : linesWithEnds cs = l :: ls) : Closed l ∨ ls = [] ∧ Open l := by
  induction cs generalizing l ls with
  | nil => simp [linesWithEnds] at h
  | cons c cs ih =>
    by_cases hc : c = '\n'
    · subst hc
      rw [linesWithEnds, List.cons.injEq] at h
      exact .inl ⟨[], by simp, h.1.symm⟩
    · rw [linesWithEnds_cons hc] at h
      cases hlines : linesWithEnds cs with
      | nil =>
        rw [hlines, List.cons.injEq] at h
        exact .inr ⟨h.2.symm, by simp [← h.1, Open, Ne.symm hc]⟩
      | cons m ms =>
        rw [hlines, List.cons.injEq] at h
        obtain ⟨rfl, rfl⟩ := h
        rcases ih hlines with ⟨k, hk, rfl⟩ | ⟨rfl, hne, hm⟩
        · exact .inl ⟨c :: k, by simp [Ne.symm hc, hk], rfl⟩
        · exact .inr ⟨rfl, by simp [Open, Ne.symm hc, hm]⟩

/-- The lines before a line are closed, and so is the line itself unless it is the last one. -/
theorem closed_of_lines (h : linesWithEnds cs = before ++ l :: after) :
    (∀ k ∈ before, Closed k) ∧ (Closed l ∨ after = [] ∧ Open l) := by
  induction before generalizing cs with
  | nil => exact ⟨by simp, closed_or_open_of_cons h⟩
  | cons k before ih =>
    obtain ⟨hbefore, hl⟩ := ih (linesWithEnds_eq_cons h).1
    refine ⟨List.forall_mem_cons.2 ⟨(closed_or_open_of_cons h).resolve_right ?_, hbefore⟩, hl⟩
    simp

theorem not_mem_dropLineEnd (h : linesWithEnds cs = before ++ l :: after) : '\n' ∉ dropLineEnd l := by
  rcases (closed_of_lines h).2 with ⟨k, hk, rfl⟩ | ⟨-, -, hno⟩
  · have hdrop : dropLineEnd (k ++ ['\n']) = dropLineEnd k := by
      simp [dropLineEnd, dropEndWhile, isLineEnd]
    have hpre := dropLineEnd_prefix k
    rw [hdrop]
    exact fun hmem => hk (hpre.mem hmem)
  · have hpre := dropLineEnd_prefix l
    exact fun hmem => hno (hpre.mem hmem)

/-! ## Line ends -/

/-- A line end of one or two characters. -/
def IsNewline (newline : List Char) : Prop := newline = "\n".toList ∨ newline = "\r\n".toList

theorem IsNewline.dropLineEnd_append (h : IsNewline newline) (k : List Char) :
    dropLineEnd (k ++ newline) = dropLineEnd k := by
  rw [dropLineEnd, dropLineEnd, dropEndWhile, dropEndWhile, List.reverse_append, List.dropWhile_append_of_pos]
  rcases h with rfl | rfl <;> exact List.all_eq_true.1 (by decide)

theorem IsNewline.closed (h : IsNewline newline) (hk : '\n' ∉ k) : Closed (k ++ newline) := by
  rcases h with rfl | rfl
  · exact ⟨k, hk, rfl⟩
  · exact ⟨k ++ ['\r'], by simpa using hk, by simp⟩

/-- A text is made of closed lines and of what comes after the last line feed. -/
theorem exists_closed_append (cs : List Char) :
    ∃ (before : List (List Char)) (k : List Char), (∀ l ∈ before, Closed l) ∧ '\n' ∉ k ∧ cs = before.flatten ++ k := by
  rcases List.eq_nil_or_concat (linesWithEnds cs) with hnil | ⟨before, l, hlast⟩
  · refine ⟨[], [], by simp, by simp, ?_⟩
    rw [← linesWithEnds_flatten cs, hnil, List.flatten_nil, List.append_nil]
  · rw [List.concat_eq_append] at hlast
    obtain ⟨hbefore, hl | ⟨-, -, hno⟩⟩ := closed_of_lines hlast
    · refine ⟨before ++ [l], [], fun k hk => ?_, by simp, ?_⟩
      · rcases List.mem_append.1 hk with hk | hk
        · exact hbefore k hk
        · exact List.mem_singleton.1 hk ▸ hl
      · rw [← hlast, linesWithEnds_flatten, List.append_nil]
    · exact ⟨before, l, hbefore, hno, by rw [← linesWithEnds_flatten cs, hlast]; simp⟩

/-- A text that stops at a line end, or to which one is added, is made of closed lines. They say what the lines of the
text say, or nothing. -/
theorem exists_closed_lines (h : newline = [] ∧ (cs = [] ∨ cs.getLast? = some '\n') ∨ IsNewline newline) :
    ∃ lines : List (List Char), cs ++ newline = lines.flatten ∧
      ∀ l ∈ lines, Closed l ∧ (dropLineEnd l = [] ∨ ∃ m ∈ linesWithEnds cs, dropLineEnd l = dropLineEnd m) := by
  obtain ⟨before, k, hbefore, hk, rfl⟩ := exists_closed_append cs
  rw [linesWithEnds_flatten_append hbefore]
  have hlines : ∀ l ∈ before, Closed l ∧
      (dropLineEnd l = [] ∨ ∃ m ∈ before ++ linesWithEnds k, dropLineEnd l = dropLineEnd m) :=
    fun l hl => ⟨hbefore l hl, .inr ⟨l, List.mem_append_left _ hl, rfl⟩⟩
  rcases h with ⟨rfl, hend⟩ | hnewline
  · -- Nothing comes after the last line feed.
    obtain rfl : k = [] := by
      by_contra hne
      rcases hend with hnil | hlast
      · exact hne (List.append_eq_nil_iff.1 hnil).2
      · rw [List.getLast?_append_of_ne_nil _ hne] at hlast
        exact hk (List.mem_of_getLast? hlast)
    exact ⟨before, by simp, hlines⟩
  · refine ⟨before ++ [k ++ newline], by simp, fun l hl => ?_⟩
    rcases List.mem_append.1 hl with hl | hl
    · exact hlines l hl
    · obtain rfl := List.mem_singleton.1 hl
      refine ⟨hnewline.closed hk, ?_⟩
      rw [hnewline.dropLineEnd_append]
      by_cases hne : k = []
      · subst hne
        exact .inl rfl
      · exact .inr ⟨k, List.mem_append_right _ (by simp [linesWithEnds_open ⟨hne, hk⟩]), rfl⟩

/-! ## A line in the place of another -/

/-- A line in the place of one that ends as it does. -/
theorem linesWithEnds_replace (h : linesWithEnds cs = before ++ l :: after) (hclosed : Closed l → Closed m)
    (hopen : Open l → Open m) : linesWithEnds (before.flatten ++ (m ++ after.flatten)) = before ++ m :: after := by
  obtain ⟨hbefore, hl⟩ := closed_of_lines h
  have hafter : linesWithEnds after.flatten = after := (linesWithEnds_eq_cons (linesWithEnds_eq_append h).1).1
  rw [linesWithEnds_flatten_append hbefore]
  rcases hl with hl | ⟨rfl, hl⟩
  · rw [linesWithEnds_closed_append (hclosed hl), hafter]
  · rw [List.flatten_nil, List.append_nil, linesWithEnds_open (hopen hl)]

theorem closed_mark {front back : List Char} {a b : Char} (ha : a ≠ '\n') (hb : b ≠ '\n')
    (h : Closed (front ++ a :: back)) : Closed (front ++ b :: back) := by
  obtain ⟨k, hk, heq⟩ := h
  rcases List.eq_nil_or_concat back with rfl | ⟨back, c, rfl⟩
  · exact absurd (List.append_inj_right' heq rfl) (by simpa using ha)
  · rw [List.concat_eq_append, ← List.cons_append, ← List.append_assoc] at heq
    obtain ⟨rfl, hc⟩ := List.append_inj' heq rfl
    refine ⟨front ++ b :: back, ?_, by simpa using hc⟩
    simp only [List.mem_append, List.mem_cons, not_or] at hk ⊢
    exact ⟨hk.1, hb.symm, hk.2.2⟩

theorem open_mark {front back : List Char} {a b : Char} (hb : b ≠ '\n') (h : Open (front ++ a :: back)) :
    Open (front ++ b :: back) := by
  have hno := h.2
  simp only [List.mem_append, List.mem_cons, not_or] at hno
  exact ⟨by simp, by simp [hno.1, hno.2.2, hb.symm]⟩

/-! ## The same lines between line feeds -/

theorem splitOn_append (h : '\n' ∉ k) (cs : List Char) :
    splitOn '\n' (k ++ cs) = (splitOn '\n' cs).modifyHead (k ++ ·) := by
  induction k with
  | nil =>
    rw [List.nil_append]
    cases splitOn '\n' cs <;> rfl
  | cons c k ih =>
    rw [List.mem_cons, not_or] at h
    obtain ⟨l, ls, hl, hcl⟩ := splitOn_cons (Ne.symm h.1) (k ++ cs)
    obtain ⟨m, ms, hm⟩ := exists_splitOn cs
    rw [ih h.2, hm, List.modifyHead_cons, List.cons.injEq] at hl
    rw [List.cons_append, hcl, hm, List.modifyHead_cons, ← hl.1, ← hl.2, List.cons_append]

/-- Closed lines stand between line feeds without their own. -/
theorem splitOn_flatten_append (h : ∀ l ∈ before, Closed l) (cs : List Char) :
    splitOn '\n' (before.flatten ++ cs) = before.map List.dropLast ++ splitOn '\n' cs := by
  induction before with
  | nil => rfl
  | cons l before ih =>
    rw [List.forall_mem_cons] at h
    obtain ⟨⟨k, hk, rfl⟩, hbefore⟩ := h
    rw [List.flatten_cons, List.append_assoc, List.append_assoc, splitOn_append hk, List.singleton_append, splitOn_line,
      ih hbefore]
    simp

/-- The first line of a text ends with a line feed if there is another one. -/
theorem exists_first_line (h : splitOn '\n' cs = l :: m :: ls) :
    Closed (l ++ ['\n']) ∧ ∃ rest, cs = (l ++ ['\n']) ++ rest := by
  have hno : '\n' ∉ l := fun hmem => by
    have hl : l ∈ splitOn '\n' cs := h ▸ List.mem_cons_self
    simpa using eq_false_of_mem_splitOnP hl _ hmem
  have hjoin : ['\n'].intercalate (splitOn '\n' cs) = cs := List.intercalate_splitOn '\n'
  rw [h] at hjoin
  exact ⟨⟨l, hno, rfl⟩, ['\n'].intercalate (m :: ls), by rw [← hjoin]; simp [List.intercalate]⟩

/-! ## Where lines start -/

theorem count_flatten_closed (h : ∀ l ∈ ls, Closed l) : ls.flatten.count '\n' = ls.length := by
  induction ls with
  | nil => rfl
  | cons l ls ih =>
    rw [List.forall_mem_cons] at h
    obtain ⟨⟨k, hk, rfl⟩, hls⟩ := h
    rw [List.flatten_cons, List.count_append, List.count_append, List.count_eq_zero.2 hk, ih hls, List.length_cons]
    simp [Nat.add_comm]

theorem lineStarts_go_line (hk : '\n' ∉ k) (offset : Nat) (cs : List Char) :
    lineStarts.go offset (k ++ '\n' :: cs) =
      (offset + byteLength (k ++ ['\n'])) :: lineStarts.go (offset + byteLength (k ++ ['\n'])) cs := by
  induction k generalizing offset with
  | nil => simp [lineStarts.go]
  | cons c k ih =>
    rw [List.mem_cons, not_or] at hk
    simp only [List.cons_append, lineStarts.go, if_neg (Ne.symm hk.1), ih hk.2, byteLength_cons, Nat.add_assoc]

/-- What comes after closed lines starts where they end. -/
theorem lineStarts_flatten_append (h : ∀ l ∈ ls, Closed l) (offset : Nat) (cs : List Char) :
    (offset :: lineStarts.go offset (ls.flatten ++ cs))[ls.length]? = some (offset + byteLength ls.flatten) := by
  induction ls generalizing offset with
  | nil => rfl
  | cons l ls ih =>
    rw [List.forall_mem_cons] at h
    obtain ⟨⟨k, hk, rfl⟩, hls⟩ := h
    have hrest := ih hls (offset + byteLength (k ++ ['\n']))
    rw [List.flatten_cons, List.append_assoc, List.append_assoc, List.singleton_append, lineStarts_go_line hk,
      List.length_cons, List.getElem?_cons_succ, hrest, Nat.add_assoc, ← byteLength_append, List.append_assoc,
      List.singleton_append]

/-- A line starts where the lines before it end. There is one line more than there are line feeds. -/
theorem getElem?_lineStarts {n : Nat} (h : n ≤ cs.count '\n') :
    (lineStarts cs)[n]? = some (byteLength ((linesWithEnds cs).take n).flatten) := by
  obtain ⟨lines, k, hlines, hk, rfl⟩ := exists_closed_append cs
  rw [List.count_append, count_flatten_closed hlines, List.count_eq_zero.2 hk, Nat.add_zero] at h
  have htake : ∀ l ∈ lines.take n, Closed l := fun l hl => hlines l (List.mem_of_mem_take hl)
  have hcut : lines.flatten ++ k = (lines.take n).flatten ++ ((lines.drop n).flatten ++ k) := by
    rw [← List.append_assoc, ← List.flatten_append, List.take_append_drop]
  have hstart := lineStarts_flatten_append htake 0 ((lines.drop n).flatten ++ k)
  rw [List.length_take_of_le h, Nat.zero_add, ← hcut] at hstart
  rw [linesWithEnds_flatten_append hlines, List.take_append_of_le_length h]
  exact hstart

end LivePage.Text
