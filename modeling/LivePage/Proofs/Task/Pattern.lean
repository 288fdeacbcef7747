import LivePage.Proofs.Task.Line
import LivePage.Proofs.Text.Pattern
import LivePage.Proofs.Text.Piece
/-!
# Task items as patterns

Two patterns say what a task item is. One tells whether a line looks like an item; the other takes the line apart to its
end, with the mark, the text and perhaps an id as groups, where the text is as short as possible. Reading cuts a line
from both ends instead, and comes to what the patterns say.
-/
namespace LivePage.TaskItem

open Text Pattern

/-- What opens an item: white space, a bullet, white space, and a mark in brackets, which a pattern of its own reads. -/
def opening (mark next : Pattern) : Pattern :=
  seq (run isBlank false) (seq (one isBullet) (seq (one isBlank) (seq (run isBlank false)
    (seq (one (· == '[')) (seq mark (seq (one (· == ']')) next))))))

/-- What a line looks like that may be an item: `^\s*[-*+]\s+\[[ xX]\](\s|$)`. -/
def itemPattern : Pattern := opening (one isMark) (either (one isBlank) stop)

/-- The text of an item after white space, as the second group. -/
def textPattern : Pattern := seq (one isBlank) (seq (run isBlank false) (group 2 (run (· != '\n') true)))

/-- A comment that names an id, with the id as the third group. -/
def idPattern : Pattern :=
  seq (run isBlank false) (seq (literal "<!--".toList) (seq (run isBlank false) (seq (literal "id:".toList)
    (seq (group 3 (seq (one isWord) (run isWord false))) (seq (run isBlank false) (literal "-->".toList))))))

def endPattern : Pattern := seq (either idPattern nothing) (seq (run isBlank false) stop)

def contentPattern : Pattern := seq (either textPattern nothing) endPattern

/-- A line of an item, with the mark, the text and an id as groups:
`^\s*[-*+]\s+\[([ xX])\](?:\s+(.*?))?(?:\s*<!--\s*id:(\w+)\s*-->)?\s*$`. -/
def linePattern : Pattern := opening (group 1 (one isMark)) contentPattern

/-- The text in the groups of a line and the id that it names. -/
def groupContent (w : Way) : List Char × Option (List Char) := (trim ((w.group? 2).getD []), w.group? 3)

/-- The item that the groups of a line give. -/
def ofWay (line : Nat) (w : Way) : TaskItem :=
  let (text, id) := groupContent w
  ⟨(id.map String.ofList).getD (contentId (String.ofList text)), String.ofList text, w.group? 1 != some [' '], line⟩

/-! ## What opens an item -/

section
variable {mark : Pattern} {groups : Char → List (Nat × List Char)}

theorem ways_marked (next : Pattern)
    (hmark : ∀ c cs, mark.ways (c :: cs) = if isMark c then [⟨[c], groups c, cs⟩] else []) (m : Char) (after : List Char) :
    (seq (one (· == '[')) (seq mark (seq (one (· == ']')) next))).ways ('[' :: m :: ']' :: after) =
      if isMark m then (next.ways after).map (Way.andThen ⟨['[', m, ']'], groups m, after⟩) else [] := by
  rw [ways_one_seq, if_pos (by rfl), ways, hmark]
  split_ifs with hm
  · rw [List.flatMap_singleton, ways_one_seq, if_pos (by rfl), List.map_map, List.map_map]
    refine List.map_congr_left fun w _ => ?_
    simp [Way.andThen]
  · rfl

/-- A mark is read nowhere else. -/
theorem ways_unmarked (next : Pattern)
    (hmark : ∀ c cs, mark.ways (c :: cs) = if isMark c then [⟨[c], groups c, cs⟩] else []) {cs : List Char}
    (hother : ∀ m after, cs ≠ '[' :: m :: ']' :: after) :
    (seq (one (· == '[')) (seq mark (seq (one (· == ']')) next))).ways cs = [] := by
  refine List.eq_nil_iff_forall_not_mem.2 fun w hw => ?_
  obtain ⟨hcs, hfits⟩ := mem_ways.1 hw
  simp only [Fits, beq_iff_eq] at hfits
  obtain ⟨_, _, _, _, htaken, -, ⟨_, rfl, rfl, -⟩, taken, _, more, _, rfl, -, hfits, _, after, _, _, rfl, -,
    ⟨_, rfl, rfl, -⟩, -⟩ := hfits
  have hmem : ⟨taken, more, ']' :: (after ++ w.rest)⟩ ∈ mark.ways (taken ++ ']' :: (after ++ w.rest)) :=
    mem_ways.2 ⟨rfl, hfits⟩
  rw [htaken] at hcs
  cases hmarked : taken ++ ']' :: (after ++ w.rest) with
  | nil => simp at hmarked
  | cons m rest =>
    rw [hmarked, hmark] at hmem
    split_ifs at hmem
    · obtain ⟨rfl, -, rfl⟩ := Way.mk.inj (List.mem_singleton.1 hmem)
      exact hother m (after ++ w.rest) (by rw [hcs]; simp)
    · cases hmem

/-- A line that a pattern of items fits is cut at its mark. -/
theorem ways_opening (next : Pattern)
    (hmark : ∀ c cs, mark.ways (c :: cs) = if isMark c then [⟨[c], groups c, cs⟩] else []) (line : List Char) :
    (opening mark next).ways line = (parts? line).elim [] fun p =>
      (next.ways p.after).map (Way.andThen ⟨p.before ++ [p.mark, ']'], groups p.mark, p.after⟩) := by
  have hbullet (next : Pattern) (c : Char) (cs : List Char) (hc : isBlank c = true) :
      (seq (one isBullet) next).ways (c :: cs) = [] := by
    rw [ways_one_seq, if_neg fun h => by rw [not_isBlank_bullet h] at hc; cases hc]
  have hbracket (next : Pattern) (c : Char) (cs : List Char) (hc : isBlank c = true) :
      (seq (one (· == '[')) next).ways (c :: cs) = [] := by
    rw [ways_one_seq, if_neg fun h => by rw [beq_iff_eq.1 h] at hc; cases hc]
  -- A run of white space takes all that it can, for neither a bullet nor a bracket is white space.
  rw [opening, ways_run_seq (hbullet _), parts?]
  cases line.dropWhile isBlank with
  | nil => rfl
  | cons bullet rest =>
    dsimp only
    rw [ways_one_seq, ways_some_seq (hbracket _)]
    cases isBullet bullet with
    | false => rfl
    | true =>
      cases (rest.takeWhile isBlank).isEmpty with
      | true => rfl
      | false =>
        simp only [Bool.not_true, Bool.or_self, Bool.false_eq_true, if_false, if_true]
        generalize rest.dropWhile isBlank = marked
        split
        · rename_i m after
          rw [ways_marked next hmark]
          by_cases hm : isMark m = true
          · simp [hm, Way.andThen, Function.comp_def]
          · simp [hm]
        · rename_i hother
          rw [ways_unmarked next hmark hother]
          rfl

end

/-! ## How a line ends -/

section
variable {cs before id : List Char} {w : Way}

theorem EndsWithId.not_blank (h : EndsWithId cs before id) : ¬ Blank cs := by
  obtain ⟨a, b, c, -, -, -, -, -, rfl⟩ := h
  intro hblank
  have hopen : isBlank '<' = true := hblank '<' (by simp)
  cases hopen

/-- A comment with an id may have white space at each place between its parts. -/
theorem fits_idPattern {taken rest : List Char} {groups : List (Nat × List Char)} :
    idPattern.Fits taken groups rest ↔ ∃ front a id b, Blank front ∧ Blank a ∧ id ≠ [] ∧ (∀ x ∈ id, isWord x = true) ∧
      Blank b ∧ groups = [(3, id)] ∧
      taken = front ++ ("<!--".toList ++ (a ++ ("id:".toList ++ (id ++ (b ++ "-->".toList))))) := by
  simp only [idPattern, Fits, fits_literal]
  constructor
  · rintro ⟨front, _, _, _, rfl, rfl, ⟨hfront, rfl⟩, _, _, _, _, rfl, rfl, ⟨rfl, rfl⟩, a, _, _, _, rfl, rfl, ⟨ha, rfl⟩,
      _, _, _, _, rfl, rfl, ⟨rfl, rfl⟩, _, _, _, _, rfl, rfl,
      ⟨_, rfl, _, word, _, _, rfl, rfl, ⟨c, hc, rfl, rfl⟩, hword, rfl⟩, b, _, _, _, rfl, rfl, ⟨hb, rfl⟩, rfl, rfl⟩
    exact ⟨front, a, c :: word, b, hfront, ha, by simp, List.forall_mem_cons.2 ⟨hc, hword⟩, hb, rfl, rfl⟩
  · rintro ⟨front, a, id, b, hfront, ha, hne, hid, hb, rfl, rfl⟩
    obtain ⟨c, word, rfl⟩ := List.exists_cons_of_ne_nil hne
    obtain ⟨hc, hword⟩ := List.forall_mem_cons.1 hid
    exact ⟨front, _, [], _, rfl, rfl, ⟨hfront, rfl⟩, _, _, [], _, rfl, rfl, ⟨rfl, rfl⟩, a, _, [], _, rfl, rfl, ⟨ha, rfl⟩,
      _, _, [], _, rfl, rfl, ⟨rfl, rfl⟩, c :: word, _, [(3, c :: word)], _, rfl, rfl,
      ⟨[], rfl, [c], word, [], [], rfl, rfl, ⟨c, hc, rfl, rfl⟩, hword, rfl⟩, b, _, [], [], rfl, rfl, ⟨hb, rfl⟩, rfl, rfl⟩

/-- A line ends with a comment that names an id, or with white space. -/
theorem fits_endPattern {taken rest : List Char} {groups : List (Nat × List Char)} :
    endPattern.Fits taken groups rest ↔ rest = [] ∧
      ((∃ before id, Blank before ∧ EndsWithId taken before id ∧ groups = [(3, id)]) ∨ Blank taken ∧ groups = []) := by
  simp only [endPattern, Fits, fits_idPattern]
  constructor
  · rintro ⟨_, _, _, _, rfl, rfl, hcomment | ⟨rfl, rfl⟩, c, _, _, _, rfl, rfl, ⟨hc, rfl⟩, rfl, rfl, rfl⟩
    · obtain ⟨front, a, id, b, hfront, ha, hne, hid, hb, rfl, rfl⟩ := hcomment
      exact ⟨rfl, .inl ⟨front, id, hfront, ⟨a, b, c, ha, hb, hc, hne, hid, by simp⟩, rfl⟩⟩
    · exact ⟨rfl, .inr ⟨fun x hx => hc x (by simpa using hx), rfl⟩⟩
  · rintro ⟨rfl, ⟨before, id, hbefore, ⟨a, b, c, ha, hb, hc, hne, hid, rfl⟩, rfl⟩ | ⟨hblank, rfl⟩⟩
    · exact ⟨_, c, [(3, id)], [], by simp, rfl, .inl ⟨before, a, id, b, hbefore, ha, hne, hid, hb, rfl, rfl⟩, c, [], [],
        [], by simp, rfl, ⟨hc, rfl⟩, rfl, rfl, rfl⟩
    · exact ⟨[], taken, [], [], rfl, rfl, .inr ⟨rfl, rfl⟩, taken, [], [], [], by simp, rfl, ⟨hblank, rfl⟩, rfl, rfl, rfl⟩

theorem mem_ways_endPattern : w ∈ endPattern.ways cs ↔
    (∃ before id, Blank before ∧ EndsWithId cs before id ∧ w = ⟨cs, [(3, id)], []⟩) ∨ Blank cs ∧ w = ⟨cs, [], []⟩ := by
  obtain ⟨taken, groups, rest⟩ := w
  rw [mem_ways, fits_endPattern]
  simp only [Way.mk.injEq]
  constructor
  · rintro ⟨hcs, rfl, h⟩
    rw [List.append_nil] at hcs
    subst hcs
    exact h.imp (fun ⟨before, id, hbefore, hends, hgroups⟩ => ⟨before, id, hbefore, hends, rfl, hgroups, rfl⟩)
      fun ⟨hblank, hgroups⟩ => ⟨hblank, rfl, hgroups, rfl⟩
  · rintro (⟨before, id, hbefore, hends, rfl, rfl, rfl⟩ | ⟨hblank, rfl, rfl, rfl⟩)
    · exact ⟨(List.append_nil _).symm, rfl, .inl ⟨before, id, hbefore, hends, rfl⟩⟩
    · exact ⟨(List.append_nil _).symm, rfl, .inr ⟨hblank, rfl⟩⟩

theorem first?_endPattern_id (hbefore : Blank before) (h : EndsWithId cs before id) :
    endPattern.first? cs = some ⟨cs, [(3, id)], []⟩ := by
  refine first?_eq_some (mem_ways_endPattern.2 (.inl ⟨before, id, hbefore, h, rfl⟩)) fun v hv => ?_
  rcases mem_ways_endPattern.1 hv with ⟨before', id', -, h', rfl⟩ | ⟨hblank, -⟩
  · rw [(h.unique h').2]
  · exact absurd hblank h.not_blank

theorem first?_endPattern_blank (h : Blank cs) : endPattern.first? cs = some ⟨cs, [], []⟩ := by
  refine first?_eq_some (mem_ways_endPattern.2 (.inr ⟨h, rfl⟩)) fun v hv => ?_
  rcases mem_ways_endPattern.1 hv with ⟨_, _, -, hends, -⟩ | ⟨-, rfl⟩
  · exact absurd h hends.not_blank
  · rfl

/-! ## The text of an item -/

/-- A text of any length is tried, the short ones first. -/
theorem reaches_textPattern {b : Char} {more front back : List Char} (hb : isBlank b = true)
    (hbody : more.dropWhile isBlank = front ++ back) (hline : '\n' ∉ front) :
    textPattern.Reaches (b :: more) ⟨b :: (more.takeWhile isBlank ++ front), [(2, front)], back⟩
      fun rest => ∃ taken left, left ≠ [] ∧ front = taken ++ left ∧ rest = left ++ back := by
  have hlazy := reaches_lazy (p := (· != '\n')) (fun c hc => bne_iff_ne.2 (ne_of_mem_of_not_mem hc hline)) back
  rw [← hbody] at hlazy
  exact (reaches_one hb).seq nofun (reaches_run.seq nofun (hlazy.group 2))

/-- No line ends inside a text that has no white space at its end, unless a comment reaches into the text. -/
theorem ways_endPattern_eq_nil {taken left back : List Char} (hend : dropEndWhile isBlank (taken ++ left) = taken ++ left)
    (hleft : left ≠ []) (hids : ∀ before id, EndsWithId (taken ++ left ++ back) before id → taken ++ left <+: before) :
    endPattern.ways (left ++ back) = [] := by
  refine List.eq_nil_iff_forall_not_mem.2 fun w hw => ?_
  have hblank : Blank left := by
    rcases mem_ways_endPattern.1 hw with ⟨before, id, hbefore, hends, -⟩ | ⟨hblank, -⟩
    · have hpre := hids (taken ++ before) id (by rw [List.append_assoc]; exact endsWithId_append.2 hends)
      exact fun c hc => hbefore c (((List.prefix_append_right_inj taken).1 hpre).subset hc)
    · exact fun c hc => hblank c (List.mem_append_left _ hc)
  have hshort : dropEndWhile isBlank (taken ++ left) = dropEndWhile isBlank taken := by
    rw [dropEndWhile, List.reverse_append, List.dropWhile_append_of_pos fun c hc => hblank c (List.mem_reverse.1 hc)]
    rfl
  have hpre := dropEndWhile_prefix isBlank taken
  have hlength := hpre.length_le
  rw [← hshort, hend, List.length_append] at hlength
  exact hleft (List.length_eq_zero_iff.1 (by omega))

section
variable {after text rest : List Char}

/-- A text that ends in front of the first end of the line that is met is the text that is read, without the white space
at its end. -/
theorem first?_contentPattern {named : Option (List Char)} (hline : '\n' ∉ after) (hhead : after.head?.all isBlank = true)
    (hbody : after.dropWhile isBlank = text ++ rest)
    (hids : ∀ before id, EndsWithId (text ++ rest) before id → text <+: before)
    (hrest : ∀ gap, Blank gap → ∃ e, endPattern.first? (gap ++ rest) = some e ∧ e.group? 3 = named) :
    (contentPattern.first? after).map groupContent = some (dropEndWhile isBlank text, named) := by
  cases after with
  | nil =>
    obtain ⟨rfl, rfl⟩ := List.append_eq_nil_iff.1 hbody.symm
    obtain ⟨e, he, rfl⟩ := hrest [] blank_nil
    rw [List.append_nil, first?_endPattern_blank blank_nil] at he
    obtain rfl := Option.some.inj he
    rfl
  | cons b more =>
    have hb : isBlank b = true := hhead
    rw [List.dropWhile_cons_of_pos hb] at hbody
    obtain ⟨gap, hgap, htext⟩ := exists_dropEndWhile_append isBlank text
    have hend := dropEndWhile_dropEndWhile isBlank text
    generalize dropEndWhile isBlank text = front at htext hend ⊢
    obtain ⟨e, he, rfl⟩ := hrest gap hgap
    rw [htext, List.append_assoc] at hbody hids
    have hstart : front.dropWhile isBlank = front :=
      dropWhile_eq_self (all_head?_of_start ⟨_, hbody.symm⟩ (head?_dropWhile isBlank more))
    have hfront : '\n' ∉ front := fun h => hline <|
      List.mem_cons_of_mem _ ((List.dropWhile_suffix _).subset (hbody ▸ List.mem_append_left _ h))
    have hfirst : contentPattern.Reaches (b :: more) _ _ :=
      (reaches_textPattern hb hbody hfront).either.seq (fun rest' hrest' => ?_) (first?_eq_some_iff.1 he)
    · rw [first?_eq_some_iff.2 hfirst]
      change some (dropEndWhile isBlank (front.dropWhile isBlank), e.group? 3) = _
      rw [hstart, hend]
    · obtain ⟨taken, left, hne, rfl, rfl⟩ := hrest'
      exact ways_endPattern_eq_nil hend hne fun before id h => (List.prefix_append _ gap).trans (hids before id h)

/-- Without white space first, no text is taken. -/
theorem ways_contentPattern_of_ink (h : ¬ after.head?.all isBlank = true) :
    contentPattern.ways after = (endPattern.ways after).map (Way.stay after).andThen := by
  cases after with
  | nil => exact absurd rfl h
  | cons c rest =>
    have hc : ¬ isBlank c = true := h
    rw [contentPattern, ways, ways, textPattern, ways_one_seq, if_neg hc]
    exact List.flatMap_singleton ..

/-- Without white space first, only a comment that comes first ends the line. -/
theorem endsWithId_of_mem_ways (h : ¬ after.head?.all isBlank = true) (hw : w ∈ endPattern.ways after) :
    ∃ id, EndsWithId after [] id := by
  have hnil {before : List Char} (hpre : before <+: after) (hblank : Blank before) : before = [] := by
    cases before with
    | nil => rfl
    | cons c before =>
      obtain ⟨rest, rfl⟩ := hpre
      exact absurd (hblank c List.mem_cons_self) h
  rcases mem_ways_endPattern.1 hw with ⟨before, id, hbefore, hends, -⟩ | ⟨hblank, -⟩
  · exact ⟨id, hnil hends.starts hbefore ▸ hends⟩
  · rw [hnil (List.prefix_refl after) hblank] at h
    exact absurd rfl h

/-- What comes after the brackets is read as the patterns take it apart. -/
theorem content?_eq_first? (hline : '\n' ∉ after) : content? after = (contentPattern.first? after).map groupContent := by
  rw [content?]
  split_ifs with hhead
  · dsimp only
    -- The text ends before a comment that names an id, or else with the line.
    cases hsplit : splitId? (after.dropWhile isBlank) with
    | some found =>
      obtain ⟨text, id⟩ := found
      have hends := splitId?_eq_some_iff.1 hsplit
      obtain ⟨comment, hbody⟩ := hends.starts
      have hcomment : EndsWithId comment [] id := endsWithId_append.1 (by rwa [List.append_nil, hbody])
      refine (first?_contentPattern hline hhead hbody.symm (fun before id' h => ?_) fun gap hgap => ?_).symm
      · exact (hends.unique (hbody ▸ h)).1 ▸ List.prefix_rfl
      · have hgapped : EndsWithId (gap ++ comment) (gap ++ []) id := endsWithId_append.2 hcomment
        rw [List.append_nil] at hgapped
        exact ⟨_, first?_endPattern_id hgap hgapped, rfl⟩
    | none =>
      refine (first?_contentPattern hline hhead (List.append_nil _).symm (fun before id h => ?_) fun gap hgap => ?_).symm
      · rw [List.append_nil] at h
        rw [splitId?_eq_some_iff.2 h] at hsplit
        cases hsplit
      · rw [List.append_nil]
        exact ⟨_, first?_endPattern_blank hgap, rfl⟩
  · rw [first?, ways_contentPattern_of_ink hhead, List.head?_map, Option.map_map]
    split
    · rename_i id hsplit
      rw [← first?, first?_endPattern_id blank_nil (splitId?_eq_some_iff.1 hsplit)]
      rfl
    · rename_i hother
      have hnone : endPattern.ways after = [] := by
        refine List.eq_nil_iff_forall_not_mem.2 fun w hw => ?_
        obtain ⟨id, hends⟩ := endsWithId_of_mem_ways hhead hw
        exact hother id (splitId?_eq_some_iff.2 hends)
      rw [hnone]
      rfl

end

end

/-! ## The patterns and what is read -/

section
variable {line text before id word : List Char}

/-- A line looks like an item where the pattern fits. -/
theorem first?_itemPattern_isSome (line : List Char) : (itemPattern.first? line).isSome = isItem line := by
  have hmark (c : Char) (cs : List Char) : (one isMark).ways (c :: cs) = if isMark c then [⟨[c], [], cs⟩] else [] := rfl
  rw [first?, itemPattern, ways_opening _ hmark, isItem]
  cases parts? line with
  | none => rfl
  | some p =>
    rw [Option.elim_some, List.head?_map, Option.isSome_map, Option.any_some, ways]
    cases p.after with
    | nil => rfl
    | cons c after =>
      rw [List.head?_cons, Option.all_some, ways, ways, List.append_nil]
      cases isBlank c <;> rfl

/-- The item that is read from a line is that of its groups. -/
theorem read?_eq_first? (hline : '\n' ∉ line) (n : Nat) :
    (read? line n).map (·.1) = (linePattern.first? line).map (ofWay n) := by
  have hmark (c : Char) (cs : List Char) :
      (group 1 (one isMark)).ways (c :: cs) = if isMark c then [⟨[c], [(1, [c])], cs⟩] else [] := by
    rw [ways, ways]
    split_ifs <;> rfl
  rw [first?, linePattern, ways_opening _ hmark]
  cases hparts : parts? line with
  | none =>
    rw [read?, hparts]
    rfl
  | some p =>
    have hafter : '\n' ∉ p.after := fun h => hline <| by
      rw [(parts?_eq_some_iff.1 hparts).2.2]
      exact List.mem_append_right _ (List.mem_cons_of_mem _ (List.mem_cons_of_mem _ h))
    have hcontent := content?_eq_first? hafter
    rw [Option.elim_some, List.head?_map, ← first?]
    cases hfirst : contentPattern.first? p.after with
    | none =>
      rw [hfirst] at hcontent
      simp [read?, hparts, hcontent]
    | some w =>
      rw [hfirst] at hcontent
      have hdone : (some [p.mark] != some [' ']) = (p.mark != ' ') := by simp [bne]
      rw [read?_eq_some_iff.2 ⟨hparts, _, _, hcontent, rfl⟩, Option.map_some, Option.map_some, Option.map_some, ← hdone]
      rfl

example : (linePattern.first? "+ [x] a <!-- id:b --> <!--id:c --> ".toList).map (ofWay 2) =
    some ⟨"c", "a <!-- id:b -->", true, 2⟩ := by decide +kernel

/-- An item that is written with a trimmed text and a comment is read back with the text and the id. -/
theorem read?_commented (htrim : trim text = text) (hne : text ≠ []) (hword : word ≠ [])
    (hchars : ∀ c ∈ word, isWord c = true) (n : Nat) :
    (read? ("- [ ] ".toList ++ (text ++ " <!-- id:".toList ++ word ++ " -->".toList)) n).map (·.1) =
      some ⟨String.ofList word, String.ofList text, false, n⟩ := by
  have hends : EndsWithId (text ++ " <!-- id:".toList ++ word ++ " -->".toList) (text ++ [' ']) word :=
    ⟨[' '], [' '], [], List.forall_mem_singleton.2 (by decide), List.forall_mem_singleton.2 (by decide),
      List.forall_mem_nil _, hword, hchars, by simp⟩
  have hstart : (text ++ " <!-- id:".toList ++ word ++ " -->".toList).dropWhile isBlank =
      text ++ " <!-- id:".toList ++ word ++ " -->".toList := by
    refine dropWhile_eq_self ?_
    have hall := head?_dropWhile isBlank text
    rw [(trim_eq_self_iff.1 htrim).1] at hall
    cases text with
    | nil => exact absurd rfl hne
    | cons c text => exact hall
  have hend : dropEndWhile isBlank (text ++ " <!-- id:".toList ++ word ++ " -->".toList) =
      text ++ " <!-- id:".toList ++ word ++ " -->".toList := by
    have hcut : text ++ " <!-- id:".toList ++ word ++ " -->".toList =
        text ++ " <!-- id:".toList ++ word ++ " --".toList ++ ['>'] := by simp
    rw [hcut, dropEndWhile_append (by decide)]
    rfl
  obtain ⟨item, p, hread, hwritten⟩ := read?_written hstart hend n
  have htext : dropEndWhile isBlank (text ++ [' ']) = text := by
    have hdrop : dropEndWhile isBlank (text ++ [' ']) = dropEndWhile isBlank text := List.rdropWhile_concat_pos _ _ _ rfl
    rw [hdrop, (trim_eq_self_iff.1 htrim).2]
  rw [hread, Option.map_some, hwritten.eq_named hends, htext]

theorem first?_linePattern_isSome (hline : '\n' ∉ line) (hitem : (itemPattern.first? line).isSome = true) :
    (linePattern.first? (dropEndWhile (· == '\r') line)).isSome = true := by
  have hdrop : dropEndWhile (· == '\r') line = dropLineEnd line := dropEndWhile_congr fun c hc => by
    rw [isLineEnd, beq_eq_false_iff_ne.2 (ne_of_mem_of_not_mem hc hline), Bool.false_or]
  rw [first?_itemPattern_isSome] at hitem
  obtain ⟨item, p, hread, -⟩ := read?_dropLineEnd hitem 0
  have hpre := dropLineEnd_prefix line
  have hfirst := read?_eq_first? (fun h => hline (hpre.subset h)) 0
  rw [hread] at hfirst
  rw [hdrop, ← Option.isSome_map, ← hfirst]
  rfl

end

/-- **Task items as patterns.** A line looks like an item where the pattern for this fits, and the item that is read from
a line is that of the groups into which the other pattern takes the line apart. If the first one fits a line then the
second one fits the line without the carriage returns at its end. Only lines that the first one fits are task lines, and
an item is read from each task line of a section. An open item that is written with a trimmed text is read back: with the
id that the text gives, or, if a comment at the end of the text names an id, with this id and what comes before. A comment
that is written after the text, whatever comments the text has, only gives the item its id. -/
theorem patterns_agree :
    (∀ line, (itemPattern.first? line).isSome = isItem line) ∧
    (∀ line n, '\n' ∉ line → (read? line n).map (·.1) = (linePattern.first? line).map (ofWay n)) ∧
    (∀ line, '\n' ∉ line → (itemPattern.first? line).isSome = true →
      (linePattern.first? (dropEndWhile (· == '\r') line)).isSome = true) ∧
    (∀ text i, (lineKinds text)[i]? = some .task →
      (itemPattern.first? ((TextLines.ofText text.toList).line i)).isSome = true) ∧
    (∀ text heading stop, ((EditableText.ofText text).items heading stop).map (·.1.line) =
      ((List.range' (heading + 1) (stop - (heading + 1))).filter
        fun i => (EditableText.ofText text).kinds[i]? == some .task).map (· + 1)) ∧
    ∀ text n, trim text = text →
      ((∀ before id, ¬ EndsWithId text before id) → (read? ("- [ ] ".toList ++ text) n).map (·.1) =
        some ⟨contentId (String.ofList text), String.ofList text, false, n⟩) ∧
      (∀ before id, EndsWithId text before id → (read? ("- [ ] ".toList ++ text) n).map (·.1) =
        some ⟨String.ofList id, String.ofList (dropEndWhile isBlank before), false, n⟩) ∧
      (text ≠ [] → ∀ word, word ≠ [] → (∀ c ∈ word, isWord c = true) →
        (read? ("- [ ] ".toList ++ (text ++ " <!-- id:".toList ++ word ++ " -->".toList)) n).map (·.1) =
          some ⟨String.ofList word, String.ofList text, false, n⟩) := by
  refine ⟨first?_itemPattern_isSome, fun line n hline => read?_eq_first? hline n,
    fun line hline => first?_linePattern_isSome hline, fun text i htask => ?_, EditableText.items_lines,
    fun text n htrim => ?_⟩
  · rw [first?_itemPattern_isSome]
    exact (lineKinds_fits text).isItem i htask
  · obtain ⟨hstart, hend⟩ := trim_eq_self_iff.1 htrim
    obtain ⟨item, p, hread, hwritten⟩ := read?_written hstart hend n
    rw [hread, Option.map_some]
    exact ⟨fun hno => congrArg some (hwritten.eq_plain hno),
      fun before id hends => congrArg some (hwritten.eq_named hends),
      fun hne word hword hchars => read?_commented htrim hne hword hchars n⟩

/-- A text with a comment inside, a line end of two characters, and an id that is written after the text. -/
theorem milk_patterns_agree :
    (linePattern.first? (dropEndWhile (· == '\r') "* [X] <!-- id:a --> milk <!--id:m1-->\r".toList)).isSome = true ∧
    (read? "- [ ] milk <!-- id -->".toList 3).map (·.1) =
      some ⟨contentId "milk <!-- id -->", "milk <!-- id -->", false, 3⟩ ∧
    (read? "- [ ] milk <!-- id --> <!-- id:m1 -->".toList 3).map (·.1) = some ⟨"m1", "milk <!-- id -->", false, 3⟩ := by
  obtain ⟨hitem, -, hline, -, -, hwritten⟩ := patterns_agree
  obtain ⟨hplain, -, hcommented⟩ := hwritten "milk <!-- id -->".toList 3 (by decide +kernel)
  refine ⟨hline _ (by decide +kernel) ?_, hplain fun before id h => ?_, hcommented (by decide) "m1".toList (by decide) ?_⟩
  · rw [hitem]
    decide +kernel
  · have hsplit : splitId? "milk <!-- id -->".toList = none := by decide +kernel
    rw [splitId?_eq_some_iff.2 h] at hsplit
    cases hsplit
  · exact List.all_eq_true.1 (by decide +kernel)

end LivePage.TaskItem
