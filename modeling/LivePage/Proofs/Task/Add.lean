import LivePage.Proofs.Task.Insert
import LivePage.Proofs.Task.Read
/-!
# Adding items

An addition puts one line into a text, after the last line of a section that is not blank. All other lines keep what
they say. So the new item is read after the old ones where the new text has its line, and no other new one, for a task
line under the heading.
-/
namespace LivePage

open Text LineKind

/-! ## One more line -/

namespace Text

variable {cs k l item newline : List Char} {before after : List (List Char)}

/-- The lines of a text into which an item was put after one of them: this line, the line of the item and all others
say what they said. -/
theorem lines_appendItem (h : linesWithEnds cs = before ++ l :: after) (hnewline : IsNewline newline)
    (hitem : '\n' ∉ item) : ∃ l' m,
      linesWithEnds (before.flatten ++ (appendItem newline item l ++ after.flatten)) = before ++ l' :: m :: after ∧
      dropLineEnd l' = dropLineEnd l ∧ dropLineEnd m = dropLineEnd ("- [ ] ".toList ++ item) := by
  obtain ⟨hbefore, hl⟩ := closed_of_lines h
  have hno : '\n' ∉ "- [ ] ".toList ++ item := by simpa using hitem
  rw [linesWithEnds_flatten_append hbefore]
  rcases hl with hl | ⟨rfl, hne, hl⟩
  · have hafter : linesWithEnds after.flatten = after := (linesWithEnds_eq_cons (linesWithEnds_eq_append h).1).1
    have hend : l.getLast? = some '\n' := by
      obtain ⟨k, -, rfl⟩ := hl
      simp
    refine ⟨l, ("- [ ] ".toList ++ item) ++ newline, ?_, rfl, hnewline.dropLineEnd_append _⟩
    rw [appendItem, if_pos hend, List.append_assoc, List.append_assoc, linesWithEnds_closed_append hl,
      ← List.append_assoc, linesWithEnds_closed_append (hnewline.closed hno), hafter]
  · have hend : l.getLast? ≠ some '\n' := fun hlast => hl (List.mem_of_getLast? hlast)
    refine ⟨l ++ newline, "- [ ] ".toList ++ item, ?_, hnewline.dropLineEnd_append l, rfl⟩
    rw [appendItem, if_neg hend, List.flatten_nil, List.append_nil,
      linesWithEnds_closed_append (hnewline.closed hl), linesWithEnds_open ⟨by simp, hno⟩]

end Text

/-- A text into which the line of an item was put, with a line end after it or, where the line before it had none, in
front of it. -/
structure AddsLine (text new : String) (place : Nat) (item front inserted back : List Char) : Prop where
  old : text.toList = front ++ back
  new : new.toList = front ++ inserted ++ back
  lines : front = ((linesWithEnds text.toList).take place).flatten
  inserted : ∃ newline, IsNewline newline ∧
    (front.getLast? = some '\n' ∧ inserted = "- [ ] ".toList ++ item ++ newline ∨
      front.getLast? ≠ some '\n' ∧ back = [] ∧ inserted = newline ++ ("- [ ] ".toList ++ item))

/-- A text with one more line, at a place among the lines of another text, apart from line ends. -/
structure OneMoreLine (text new : String) (place : Nat) (line : List Char) : Prop where
  kept : ∀ i, dropLineEnd ((EditableText.ofText new).lines.getD (moved place i) []) =
    dropLineEnd ((EditableText.ofText text).lines.getD i [])
  added : dropLineEnd ((EditableText.ofText new).lines.getD place []) = line

/-- An item after one more line is put in, which gets a number. -/
def TaskItem.renumbered (number : Nat) (item : TaskItem) : TaskItem := { item with line := moved number item.line }

theorem TaskItem.renumbered_of_lt {number : Nat} {item : TaskItem} (h : item.line < number) :
    item.renumbered number = item := by
  rw [renumbered, moved_of_lt h]

theorem moved_succ (place i : Nat) : moved (place + 1) (i + 1) = moved place i + 1 := by
  unfold moved
  split_ifs <;> omega

namespace EditableText

/-! ## The last line of a section -/

/-- The last line of a section that is not blank. -/
structure IsLastLine (kinds : List LineKind) (heading last : Nat) : Prop where
  le : heading ≤ last
  lt : last < heading + 1 + (contentUnder kinds heading).length
  notBlank : kinds[last]? ≠ some .blank
  blank : ∀ i, last < i → i < heading + 1 + (contentUnder kinds heading).length → kinds[i]? = some .blank

variable {kinds : List LineKind} {heading last : Nat}

theorem length_contentUnder_le {k : LineKind} (hk : kinds[heading]? = some k) :
    heading + 1 + (contentUnder kinds heading).length ≤ kinds.length := by
  have hlt := (List.getElem?_eq_some_iff.1 hk).1
  have hle := (List.takeWhile_prefix (!·.isHeading) (l := kinds.drop (heading + 1))).length_le
  rw [List.length_drop] at hle
  rw [contentUnder]
  omega

theorem isHeading_eq_false_of_lt {i : Nat} (hlt : heading < i)
    (h : i < heading + 1 + (contentUnder kinds heading).length) {k : LineKind} (hk : kinds[i]? = some k) :
    k.isHeading = false := by
  obtain ⟨k', hk', hno⟩ := lt_contentUnder_iff.1
    (show i - (heading + 1) < (contentUnder kinds heading).length by omega) (i - (heading + 1)) le_rfl
  rw [show heading + 1 + (i - (heading + 1)) = i by omega, hk] at hk'
  rwa [Option.some.inj hk']

/-- Blank lines are dropped from the end up to a line that is not blank. -/
theorem getElem?_dropBlankEnd (l : List LineKind) :
    (∀ i, (addTask.dropBlankEnd l).length ≤ i → i < l.length → l[i]? = some .blank) ∧
    (addTask.dropBlankEnd l ≠ [] → l[(addTask.dropBlankEnd l).length - 1]? ≠ some .blank) := by
  change (∀ i, (l.rdropWhile (· == .blank)).length ≤ i → i < l.length → l[i]? = some .blank) ∧
    (l.rdropWhile (· == .blank) ≠ [] → l[(l.rdropWhile (· == .blank)).length - 1]? ≠ some .blank)
  have hcut : l.rdropWhile (· == .blank) ++ l.rtakeWhile (· == .blank) = l := List.rdropWhile_append_rtakeWhile
  have hlast := List.rdropWhile_last_not (· == LineKind.blank) l
  have hrest : ∀ k ∈ l.rtakeWhile (· == .blank), k = .blank := fun k hk =>
    beq_iff_eq.1 (List.mem_rtakeWhile_imp (p := (· == LineKind.blank)) hk)
  generalize l.rdropWhile (· == .blank) = front at *
  generalize l.rtakeWhile (· == .blank) = rest at *
  subst hcut
  constructor
  · intro i hle hlt
    have hi : i - front.length < rest.length := by
      rw [List.length_append] at hlt
      omega
    rw [List.getElem?_append_right hle, List.getElem?_eq_getElem hi, hrest _ (List.getElem_mem hi)]
  · intro hne hblank
    have hpos := List.length_pos_of_ne_nil hne
    rw [List.getElem?_append_left (by omega), ← List.getLast?_eq_getElem?, List.getLast?_eq_some_getLast hne] at hblank
    exact hlast hne (beq_iff_eq.2 (Option.some.inj hblank))

/-- Where the blank lines at the end of a section are dropped, the last line that is not blank is left. -/
theorem isLastLine_dropBlankEnd {k : LineKind} (hk : kinds[heading]? = some k) (hheading : k.isHeading = true) :
    IsLastLine kinds heading (heading + (addTask.dropBlankEnd
      ((kinds.take (heading + 1 + (contentUnder kinds heading).length)).drop heading)).length - 1) := by
  have hstop := length_contentUnder_le hk
  obtain ⟨hpos, hle⟩ := length_dropBlankEnd hk hheading
    (show heading < heading + 1 + (contentUnder kinds heading).length by omega)
  obtain ⟨hblank, hlast⟩ := getElem?_dropBlankEnd
    ((kinds.take (heading + 1 + (contentUnder kinds heading).length)).drop heading)
  have hget (i : Nat) (hi : heading + i < heading + 1 + (contentUnder kinds heading).length) :
      ((kinds.take (heading + 1 + (contentUnder kinds heading).length)).drop heading)[i]? = kinds[heading + i]? := by
    rw [List.getElem?_drop, List.getElem?_take_of_lt hi]
  refine ⟨by omega, by omega, ?_, fun i h1 h2 => ?_⟩
  · have := hlast (List.ne_nil_of_length_pos hpos)
    rwa [hget _ (by omega), ← Nat.add_sub_assoc hpos] at this
  · have := hblank (i - heading) (by omega) (by rw [List.length_drop, List.length_take]; omega)
    rwa [hget _ (by omega), show heading + (i - heading) = i by omega] at this

/-! ## What is read from the lines that move -/

section
variable {text new anchor : String} {place m n : Nat} {line : List Char}

theorem itemAt?_moved (h : OneMoreLine text new place line) {i : Nat} (hi : (ofText text).kinds[i]? = some .task)
    (hmoved : (ofText new).kinds[moved place i]? = some .task) :
    ((ofText new).itemAt? (moved place i)).map (·.1) =
      ((ofText text).itemAt? i).map (·.1.renumbered (place + 1)) := by
  rw [itemAt?, itemAt?, if_pos hi, if_pos hmoved, h.kept]
  cases hread : TaskItem.read? (dropLineEnd ((ofText text).lines.getD i [])) (i + 1) with
  | none =>
    cases hnew : TaskItem.read? (dropLineEnd ((ofText text).lines.getD i [])) (moved place i + 1) with
    | none => rfl
    | some x =>
      rw [TaskItem.read?_number hnew] at hread
      cases hread
  | some x =>
    obtain ⟨item, p⟩ := x
    have hline : item.line = i + 1 := by
      obtain ⟨-, words, named, -, hitem⟩ := TaskItem.read?_eq_some_iff.1 hread
      rw [hitem]
    rw [TaskItem.read?_number hread, Option.map_some, Option.map_some, TaskItem.renumbered, hline, moved_succ]

theorem filterMap_itemAt?_moved (h : OneMoreLine text new place line) (is : List Nat)
    (hold : ∀ i ∈ is, (ofText text).kinds[i]? = some .task)
    (hnew : ∀ i ∈ is, (ofText new).kinds[moved place i]? = some .task) :
    ((is.map (moved place)).filterMap (ofText new).itemAt?).map (·.1) =
      (is.filterMap (ofText text).itemAt?).map (·.1.renumbered (place + 1)) := by
  rw [List.filterMap_map, List.map_filterMap, List.map_filterMap]
  exact List.filterMap_congr fun i hi => itemAt?_moved h (hold i hi) (hnew i hi)

theorem kind_of_mem_taskLines {kinds : List LineKind} {i : Nat} (h : i ∈ taskLines kinds n) :
    kinds[i]? = some .task := (mem_taskLines_iff.1 h).2.1

/-- Under a heading that keeps its task lines all items keep what they say. -/
theorem itemsUnder_moved (h : OneMoreLine text new place line)
    (hlines : taskLines (ofText new).kinds n = (taskLines (ofText text).kinds m).map (moved place)) :
    ((ofText new).itemsUnder n).map (·.1) = ((ofText text).itemsUnder m).map (·.1.renumbered (place + 1)) := by
  rw [itemsUnder, hlines, filterMap_itemAt?_moved h _ (fun i hi => kind_of_mem_taskLines hi), itemsUnder]
  intro i hi
  exact kind_of_mem_taskLines (hlines ▸ List.mem_map_of_mem hi)

/-- Under a heading that gains the new line as its last task line, the new item is read after the others. -/
theorem itemsUnder_added (h : OneMoreLine text new place line) (hbefore : ∀ i ∈ taskLines (ofText text).kinds m, i < place)
    (hlines : taskLines (ofText new).kinds n = taskLines (ofText text).kinds m ++ [place]) {x : TaskItem}
    {p : TaskItem.Parts} (hread : TaskItem.read? line (place + 1) = some (x, p)) :
    ((ofText new).itemsUnder n).map (·.1) = ((ofText text).itemsUnder m).map (·.1) ++ [x] := by
  have hstay : (taskLines (ofText text).kinds m).map (moved place) = taskLines (ofText text).kinds m :=
    (List.map_congr_left fun i hi => moved_of_lt (hbefore i hi)).trans (List.map_id _)
  have htask : (ofText new).kinds[place]? = some .task := kind_of_mem_taskLines (n := n) (by simp [hlines])
  have hadded : (ofText new).itemAt? place = some (x, p) := by rw [itemAt?, if_pos htask, h.added, hread]
  have hkept := filterMap_itemAt?_moved h (taskLines (ofText text).kinds m)
    (fun i hi => kind_of_mem_taskLines hi)
    (fun i hi => by
      rw [moved_of_lt (hbefore i hi)]
      exact kind_of_mem_taskLines (n := n) (hlines ▸ List.mem_append_left _ hi))
  rw [hstay] at hkept
  rw [itemsUnder, hlines, List.filterMap_append, List.map_append, hkept, itemsUnder]
  refine congrArg₂ (· ++ ·) ?_ ?_
  · refine List.map_congr_left fun y hy => TaskItem.renumbered_of_lt ?_
    obtain ⟨i, hi, hiy⟩ := mem_itemsUnder hy
    rw [(standsIn_of_itemAt? hiy).1]
    exact Nat.succ_lt_succ (hbefore i hi)
  · simp [hadded]

end

/-! ## Where the item is put -/

section
variable {text new anchor item : String}

/-- An addition puts the trimmed text after the last line of the section that is not blank. -/
theorem exists_of_addTask (h : addTask text anchor item = .ok new) :
    (∀ c ∈ trim item.toList, isLineEnd c = false) ∧ ∃ n last newline,
      (ofText text).headingLine? (bareAnchor anchor) = some n ∧ IsLastLine (ofText text).kinds n last ∧
      IsNewline newline ∧ new = (ofText text).replaceLine last (appendItem newline (trim item.toList)) := by
  rw [addTask] at h
  by_cases hvalid : ((trim item.toList).isEmpty || (trim item.toList).any isLineEnd) = true
  · simp only [hvalid] at h
    cases h
  · simp only [hvalid, section?_eq] at h
    cases hn : (ofText text).headingLine? (bareAnchor anchor) with
    | none =>
      rw [hn] at h
      cases h
    | some n =>
      rw [hn] at h
      obtain ⟨k, hk, hheading⟩ := (headingLine?_eq_some_iff.1 hn).exists_heading
      refine ⟨?_, n, _, _, rfl, isLastLine_dropBlankEnd hk hheading, ?_, (Except.ok.inj h).symm⟩
      · simp only [Bool.or_eq_true, not_or, Bool.not_eq_true, List.any_eq_false] at hvalid
        exact hvalid.2
      · unfold IsNewline
        split_ifs
        · exact .inr rfl
        · exact .inl rfl

variable {before after : List (List Char)} {l words newline : List Char}

theorem addsLine_of_lines (h : linesWithEnds text.toList = before ++ l :: after) (hnewline : IsNewline newline)
    (words : List Char) :
    ∃ inserted, AddsLine text ((ofText text).replaceLine before.length (appendItem newline words)) (before.length + 1)
      words (before.flatten ++ l) inserted after.flatten := by
  have hlines : (ofText text).lines = before ++ l :: after := h
  have hnew := toList_replaceLine hlines (appendItem newline words)
  have hold : text.toList = before.flatten ++ l ++ after.flatten := by
    rw [← linesWithEnds_flatten text.toList, h]
    simp
  have hfront : before.flatten ++ l = ((linesWithEnds text.toList).take (before.length + 1)).flatten := by
    rw [h, List.take_length_add_append]
    simp
  have hlast : (before.flatten ++ l).getLast? = l.getLast? := by
    have hne : l ≠ [] := by
      rcases (closed_of_lines h).2 with ⟨k, -, rfl⟩ | ⟨-, hne, -⟩
      · simp
      · exact hne
    simp [List.getLast?_append, List.getLast?_eq_some_getLast hne]
  by_cases hend : l.getLast? = some '\n'
  · refine ⟨"- [ ] ".toList ++ words ++ newline, hold, ?_, hfront, newline, hnewline, .inl ⟨hlast.trans hend, rfl⟩⟩
    simp [hnew, appendItem, hend]
  · obtain ⟨rfl, -⟩ : after = [] ∧ Open l := by
      refine (closed_of_lines h).2.resolve_left fun hclosed => hend ?_
      obtain ⟨k, -, rfl⟩ := hclosed
      simp
    refine ⟨newline ++ ("- [ ] ".toList ++ words), hold, ?_, hfront, newline, hnewline,
      .inr ⟨by rwa [hlast], rfl, rfl⟩⟩
    simp [hnew, appendItem, hend]

theorem oneMoreLine_of_lines (h : linesWithEnds text.toList = before ++ l :: after) (hnewline : IsNewline newline)
    (hwords : ∀ c ∈ words, isLineEnd c = false) :
    OneMoreLine text ((ofText text).replaceLine before.length (appendItem newline words)) (before.length + 1)
      ("- [ ] ".toList ++ words) := by
  have hno : '\n' ∉ words := fun hmem => by cases hwords _ hmem
  have hkept : dropLineEnd ("- [ ] ".toList ++ words) = "- [ ] ".toList ++ words := by
    refine List.rdropWhile_eq_self_iff.2 fun hne hlast => ?_
    rcases List.mem_append.1 (List.getLast_mem hne) with hmem | hmem
    · have : ∀ c ∈ "- [ ] ".toList, isLineEnd c = false := by simp [isLineEnd]
      rw [this _ hmem] at hlast
      cases hlast
    · rw [hwords _ hmem] at hlast
      cases hlast
  obtain ⟨l', m, hlines, hl', hm⟩ := lines_appendItem h hnewline hno
  rw [← toList_replaceLine (show (ofText text).lines = before ++ l :: after from h)] at hlines
  have hold : (ofText text).lines = before ++ l :: after := h
  have hnew : (ofText ((ofText text).replaceLine before.length (appendItem newline words))).lines = _ := hlines
  refine ⟨fun i => ?_, ?_⟩
  · rw [hold, hnew, List.getD_eq_getElem?_getD, List.getD_eq_getElem?_getD]
    -- Lines up to the last one of the section stay, the lines after it move down.
    rcases Nat.lt_trichotomy i before.length with hlt | rfl | hgt
    · rw [moved_of_lt (by omega), List.getElem?_append_left hlt, List.getElem?_append_left hlt]
    · rw [moved_of_lt (by omega)]
      simpa using hl'
    · obtain ⟨j, rfl⟩ : ∃ j, i = before.length + (j + 1) := ⟨i - before.length - 1, by omega⟩
      rw [moved, if_neg (by omega), Nat.add_assoc, List.getElem?_append_right (by omega),
        List.getElem?_append_right (by omega)]
      simp
  · rw [hnew, List.getD_eq_getElem?_getD, List.getElem?_append_right (by omega), ← hkept, ← hm]
    simp

end

/-! ## Reading after an addition -/

/-- The anchor names a heading in both texts, and in the second this has the task lines that it had and the new line as
its last one. -/
def GainsLine (text new anchor : String) (place : Nat) : Prop :=
  ∃ n m, (ofText text).headingLine? (bareAnchor anchor) = some n ∧ (ofText new).headingLine? (bareAnchor anchor) = some m ∧
    taskLines (ofText new).kinds m = taskLines (ofText text).kinds n ++ [place]

/-- The anchor names no heading in either text, or one in both that has the task lines that it had. -/
def KeepsLines (text new anchor : String) (place : Nat) : Prop :=
  ((ofText text).headingLine? (bareAnchor anchor) = none ∧ (ofText new).headingLine? (bareAnchor anchor) = none) ∨
  ∃ n m, (ofText text).headingLine? (bareAnchor anchor) = some n ∧ (ofText new).headingLine? (bareAnchor anchor) = some m ∧
    taskLines (ofText new).kinds m = (taskLines (ofText text).kinds n).map (moved place)

section
variable {text new anchor : String} {place n last : Nat} {line : List Char} {x : TaskItem} {p : TaskItem.Parts}

theorem succ_injective_map {a b : List Nat} (h : a.map (· + 1) = b.map (· + 1)) : a = b :=
  List.map_injective_iff.2 (fun _ _ h => Nat.succ.inj h) h

/-- The new item is read after the old ones just where its line is gained. -/
theorem readTasks_added_iff (h : OneMoreLine text new place line)
    (hn : (ofText text).headingLine? (bareAnchor anchor) = some n)
    (hbefore : ∀ i ∈ taskLines (ofText text).kinds n, i < place)
    (hread : TaskItem.read? line (place + 1) = some (x, p)) (hline : x.line = place + 1) :
    readTasks new anchor = .ok (((ofText text).itemsUnder n).map (·.1) ++ [x]) ↔ GainsLine text new anchor place := by
  constructor
  · intro hnew
    obtain ⟨m, hm, -⟩ := readTasks_eq_ok.1 hnew
    refine ⟨n, m, hn, hm, succ_injective_map ?_⟩
    have hlines := lines_of_readTasks hm hnew
    have hold := lines_of_readTasks hn (readTasks_eq_ok.2 ⟨n, hn, rfl⟩)
    rw [List.map_append, hold, List.map_singleton, hline] at hlines
    rw [← hlines, List.map_append, List.map_singleton]
  · rintro ⟨n', m, hn', hm, hlines⟩
    obtain rfl : n = n' := Option.some.inj (hn.symm.trans hn')
    exact readTasks_eq_ok.2 ⟨m, hm, (itemsUnder_added h hbefore hlines hread).symm⟩

/-- By an anchor all items are read as before, but for their numbers, just where it keeps its task lines. -/
theorem readTasks_moved_iff (h : OneMoreLine text new place line) (anchor : String) :
    readTasks new anchor = (readTasks text anchor).map (List.map (·.renumbered (place + 1))) ↔
      KeepsLines text new anchor place := by
  rw [KeepsLines, readTasks_eq text anchor]
  cases hn : (ofText text).headingLine? (bareAnchor anchor) with
  | none =>
    rw [readTasks_eq]
    cases (ofText new).headingLine? (bareAnchor anchor) with
    | none => simp [Except.map]
    | some m => simp [Except.map]
  | some n =>
    simp only [Except.map, List.map_map]
    constructor
    · intro hnew
      obtain ⟨m, hm, -⟩ := readTasks_eq_ok.1 hnew
      refine .inr ⟨n, m, rfl, hm, succ_injective_map ?_⟩
      have hlines := lines_of_readTasks hm hnew
      have hold := lines_of_readTasks hn (readTasks_eq_ok.2 ⟨n, hn, rfl⟩)
      -- Items tell their lines, so the lines of the items that are read are compared.
      calc (taskLines (ofText new).kinds m).map (· + 1)
          = (((ofText text).itemsUnder n).map (·.1)).map (fun y => moved (place + 1) y.line) := by
            rw [← hlines, List.map_map, List.map_map]
            rfl
        _ = ((taskLines (ofText text).kinds n).map (· + 1)).map (moved (place + 1)) := by
            simp only [← hold, List.map_map]
            rfl
        _ = ((taskLines (ofText text).kinds n).map (moved place)).map (· + 1) := by
            rw [List.map_map, List.map_map]
            exact List.map_congr_left fun i _ => moved_succ place i
    · rintro (⟨hno, -⟩ | ⟨n', m, hn', hm, hlines⟩)
      · cases hno
      · obtain rfl := Option.some.inj hn'
        exact readTasks_eq_ok.2 ⟨m, hm, (itemsUnder_moved h hlines).symm⟩

theorem IsLastLine.lt_of_mem_taskLines {kinds : List LineKind} (h : IsLastLine kinds n last) {i : Nat}
    (hi : i ∈ taskLines kinds n) : i < last + 1 := by
  by_contra hlt
  have hrange := List.mem_range'_1.1 (List.mem_filter.1 hi).1
  have hblank := h.blank i (by omega) hrange.2
  rw [kind_of_mem_taskLines hi] at hblank
  cases hblank

section
variable (hn : (ofText text).headingLine? (bareAnchor anchor) = some n) (hlast : IsLastLine (ofText text).kinds n last)
include hn hlast

theorem IsLastLine.place_le : last + 1 ≤ (ofText text).kinds.length := by
  obtain ⟨k, hk, -⟩ := (headingLine?_eq_some_iff.1 hn).exists_heading
  exact Nat.lt_of_lt_of_le hlast.lt (length_contentUnder_le hk)

variable (hkinds : (ofText new).kinds = (ofText text).kinds.insertIdx (last + 1) .task)
include hkinds

theorem headingLine?_moved (a : String) :
    (ofText new).headingLine? a = ((ofText text).headingLine? a).map (moved (last + 1)) := by
  have hplace := hlast.place_le hn
  rw [headingLine?, headingLine?, hkinds, findIdx?_insertIdx rfl hplace, findIdx?_insertIdx rfl hplace, Option.map_or]

theorem gainsLine_of_kinds : GainsLine text new anchor (last + 1) := by
  have hplace := hlast.place_le hn
  have hle := hlast.le
  refine ⟨n, moved (last + 1) n, hn, by rw [headingLine?_moved hn hlast hkinds, hn, Option.map_some], ?_⟩
  rw [hkinds]
  refine taskLines_insertIdx_of_mem hplace ((place_mem_taskLines_iff hplace).2 ⟨by omega, fun j h1 h2 k hk => ?_⟩)
    fun i hi => hlast.lt_of_mem_taskLines hi
  have hlt := hlast.lt
  exact isHeading_eq_false_of_lt h1 (by omega) hk

theorem keepsLines_of_kinds {other : String} (hother : (ofText text).section? other ≠ (ofText text).section? anchor) :
    KeepsLines text new other (last + 1) := by
  have hplace := hlast.place_le hn
  have hheading := headingLine?_moved hn hlast hkinds (bareAnchor other)
  cases hm : (ofText text).headingLine? (bareAnchor other) with
  | none => exact .inl ⟨hm, by rw [hheading, hm, Option.map_none]⟩
  | some m =>
    refine .inr ⟨m, moved (last + 1) m, hm, by rw [hheading, hm, Option.map_some], ?_⟩
    rw [hkinds]
    refine taskLines_insertIdx_of_notMem hplace fun hmem => ?_
    obtain ⟨hlt, hno⟩ := (place_mem_taskLines_iff hplace).1 hmem
    obtain ⟨k, hk, hk'⟩ := (headingLine?_eq_some_iff.1 hn).exists_heading
    obtain ⟨l, hl, hl'⟩ := (headingLine?_eq_some_iff.1 hm).exists_heading
    rcases Nat.lt_trichotomy m n with hmn | rfl | hnm
    · -- The heading of the section stands between the other heading and the new line.
      have hle := hlast.le
      rw [hno n hmn (by omega) k hk] at hk'
      cases hk'
    · rw [section?_eq, section?_eq, hm, hn] at hother
      exact hother rfl
    · have hstop := hlast.lt
      rw [isHeading_eq_false_of_lt hnm (by omega) hl] at hl'
      cases hl'

end

end

/-- **What an addition does.** It puts one line into the text, after the last line of the section that is not blank. The
new item is open and has the trimmed text, without the comment that names its id if the text ends with one. It is read
after the items of the section, and they as before, just where the parser sees its line as one more task line under the
heading; by another anchor all items are read as before, but for their line numbers, just where its heading keeps its
task lines. Both hold if the parser gives all old lines the kinds that they had and takes the new line for a task. -/
theorem addTask_reads {text anchor item new : String} (h : addTask text anchor item = .ok new) :
    ∃ n last front inserted back items x,
      (ofText text).headingLine? (bareAnchor anchor) = some n ∧ IsLastLine (ofText text).kinds n last ∧
      AddsLine text new (last + 1) (trim item.toList) front inserted back ∧
      readTasks text anchor = .ok items ∧ x.IsWritten (trim item.toList) (last + 2) ∧
      (readTasks new anchor = .ok (items ++ [x]) ↔ GainsLine text new anchor (last + 1)) ∧
      (∀ other, readTasks new other = (readTasks text other).map (List.map (·.renumbered (last + 2))) ↔
        KeepsLines text new other (last + 1)) ∧
      ((ofText new).kinds = (ofText text).kinds.insertIdx (last + 1) .task →
        readTasks new anchor = .ok (items ++ [x]) ∧
        ∀ other, (ofText text).section? other ≠ (ofText text).section? anchor →
          readTasks new other = (readTasks text other).map (List.map (·.renumbered (last + 2)))) := by
  obtain ⟨hwords, n, last, newline, hn, hlast, hnewline, rfl⟩ := exists_of_addTask h
  obtain ⟨x, p, hread, hwritten⟩ := TaskItem.read?_written (dropWhile_trim item.toList) (dropEndWhile_trim item.toList)
    (last + 2)
  have hlt : last < (linesWithEnds text.toList).length :=
    Nat.lt_of_lt_of_le (hlast.place_le hn) (length_kinds text)
  have hlines : linesWithEnds text.toList = (linesWithEnds text.toList).take last ++
      (linesWithEnds text.toList)[last] :: (linesWithEnds text.toList).drop (last + 1) := by
    rw [List.getElem_cons_drop, List.take_append_drop]
  have hlength : ((linesWithEnds text.toList).take last).length = last := List.length_take_of_le hlt.le
  obtain ⟨inserted, hadds⟩ := addsLine_of_lines hlines hnewline (trim item.toList)
  have hmore := oneMoreLine_of_lines hlines hnewline hwords
  rw [hlength] at hadds hmore
  have hadded := readTasks_added_iff hmore hn (fun i hi => hlast.lt_of_mem_taskLines hi) hread hwritten.line
  have hmoved := readTasks_moved_iff hmore
  exact ⟨n, last, _, inserted, _, _, x, hn, hlast, hadds, readTasks_eq_ok.2 ⟨n, hn, rfl⟩, hwritten, hadded, hmoved,
    fun hkinds => ⟨hadded.2 (gainsLine_of_kinds hn hlast hkinds), fun other hother =>
      (hmoved other).2 (keepsLines_of_kinds hn hlast hkinds hother)⟩⟩

/-- A second item, in a section that another one follows. -/
theorem addTask_reads_second :
    addTask "# A\n- [ ] one\n# B" "#a" " two " = .ok "# A\n- [ ] one\n- [ ] two\n# B" ∧
    ∃ items x, readTasks "# A\n- [ ] one\n# B" "#a" = .ok items ∧ x.IsWritten (trim " two ".toList) 3 ∧
      readTasks "# A\n- [ ] one\n- [ ] two\n# B" "#a" = .ok (items ++ [x]) ∧
      readTasks "# A\n- [ ] one\n- [ ] two\n# B" "#b" =
        (readTasks "# A\n- [ ] one\n# B" "#b").map (List.map (·.renumbered 3)) := by
  have hadd : addTask "# A\n- [ ] one\n# B" "#a" " two " = .ok "# A\n- [ ] one\n- [ ] two\n# B" := by decide +kernel
  have hheading : (ofText "# A\n- [ ] one\n# B").headingLine? (bareAnchor "#a") = some 0 := by decide +kernel
  have hlength : (contentUnder (ofText "# A\n- [ ] one\n# B").kinds 0).length = 1 := by decide +kernel
  have htask : (ofText "# A\n- [ ] one\n# B").kinds[1]? = some .task := by decide +kernel
  have hkinds : (ofText "# A\n- [ ] one\n- [ ] two\n# B").kinds =
      (ofText "# A\n- [ ] one\n# B").kinds.insertIdx 2 .task := by decide +kernel
  have hother : (ofText "# A\n- [ ] one\n# B").section? "#b" ≠ (ofText "# A\n- [ ] one\n# B").section? "#a" := by
    decide +kernel
  obtain ⟨n, last, front, inserted, back, items, x, hn, hlast, -, hitems, hx, -, -, hread⟩ := addTask_reads hadd
  obtain rfl : 0 = n := Option.some.inj (hheading.symm.trans hn)
  obtain rfl : last = 1 := by
    have hlt := hlast.lt
    rw [hlength] at hlt
    by_contra hne
    have hblank := hlast.blank 1 (by omega) (by omega)
    rw [htask] at hblank
    cases hblank
  exact ⟨hadd, items, x, hitems, hx, (hread hkinds).1, (hread hkinds).2 _ hother⟩

/-- A comment at the end of a text is read as the id of the item, not as part of its text, and in code that is not closed
no item is read. -/
theorem addTask_misread :
    (addTask "# A\n- [ ] one\n" "#a" "two <!-- id:t -->" = .ok "# A\n- [ ] one\n- [ ] two <!-- id:t -->\n" ∧
      readTasks "# A\n- [ ] one\n- [ ] two <!-- id:t -->\n" "#a" =
        .ok [⟨contentId "one", "one", false, 2⟩, ⟨"t", "two", false, 3⟩]) ∧
    (addTask "# A\n```\ncode\n" "#a" "x" = .ok "# A\n```\ncode\n- [ ] x\n" ∧
      readTasks "# A\n```\ncode\n- [ ] x\n" "#a" = .ok []) := by
  refine ⟨⟨?_, ?_⟩, ?_, ?_⟩ <;> decide +kernel

end EditableText

end LivePage
