import LivePage.Proofs.Task.Mark
import LivePage.Proofs.Task.Read
/-!
# Toggling items

A toggle changes the mark of the first item with an id and no other character. Where the parser gives the new text the
structure of the old one, the change is read back as what it is: the one item has the other state, all others are as
they were, and the next toggle takes the change back.
-/
namespace LivePage

open Text LineKind Markdown

namespace TaskItem

variable {text new : String} {item : TaskItem} {p : Parts} {before after : List (List Char)} {rest : List Char}
  {mark : Char}

/-- The mark that an item gets by a toggle. -/
def otherMark (item : TaskItem) : Char := if item.done then ' ' else 'x'

/-- The item with the other state. -/
def toggled (item : TaskItem) : TaskItem := { item with done := !item.done }

theorem isMark_otherMark (item : TaskItem) : isMark item.otherMark = true := by
  cases h : item.done <;> simp [otherMark, h] <;> rfl

theorem otherMark_ne_space (item : TaskItem) : (item.otherMark != ' ') = !item.done := by
  cases h : item.done <;> simp [otherMark, h]

/-- An item with another mark, if it stands on a line. -/
def remarked (line : Nat) (mark : Char) (x : TaskItem × Parts) : TaskItem × Parts :=
  if x.1.line = line then ({ x.1 with done := mark != ' ' }, { x.2 with mark }) else x

namespace StandsIn

theorem mark_ne_otherMark (h : StandsIn text item p before rest after) : p.mark ≠ item.otherMark := by
  intro heq
  have hdone := h.done
  rw [heq, otherMark_ne_space] at hdone
  cases hitem : item.done <;> simp [hitem] at hdone

/-- The next toggle sets the mark that was there before, but a small one. -/
theorem otherMark_toggled (h : StandsIn text item p before rest after) :
    item.toggled.otherMark = p.mark.toLower := by
  have hmark := h.marked
  simp only [isMark, Bool.or_eq_true, beq_iff_eq] at hmark
  rcases hmark with (hm | hm) | hm <;> simp [otherMark, toggled, h.done, hm]

/-! ## One line with another mark -/

theorem toList_setMark (h : StandsIn text item p before rest after) (mark : Char) :
    ((EditableText.ofText text).replaceLine (item.line - 1) (setMark p.before mark)).toList =
      before.flatten ++ (p.before ++ mark :: ']' :: (rest ++ after.flatten)) := by
  have hlines : (EditableText.ofText text).lines = _ := h.lines
  rw [h.number, Nat.add_sub_cancel, EditableText.toList_replaceLine hlines]
  simp [setMark]

section
variable (h : StandsIn text item p before rest after) (hmark : isMark mark = true)
  (hnew : new.toList = before.flatten ++ (p.before ++ mark :: ']' :: (rest ++ after.flatten)))
include h hmark hnew

theorem lines_mark : linesWithEnds new.toList = before ++ (p.before ++ mark :: ']' :: rest) :: after := by
  have hold := ne_newline_of_isMark h.marked
  have hother := ne_newline_of_isMark hmark
  have hlines := linesWithEnds_replace h.lines (closed_mark hold hother) (open_mark hother)
  rw [hnew, ← hlines]
  simp

theorem standsIn_mark : StandsIn new { item with done := mark != ' ' } { p with mark } before rest after where
  lines := h.lines_mark hmark hnew
  number := h.number
  read := h.read_mark hmark

variable (hsame : SameStructure text new)
include hsame

theorem kinds_mark : (EditableText.ofText new).kinds = (EditableText.ofText text).kinds := by
  have hkinds := lineKinds_mark h.closed h.opens h.newline_not_mem h.marked hmark h.toList_eq hnew hsame
  simp only [EditableText.ofText, hkinds, h.lines_mark hmark hnew, h.lines, List.length_append, List.length_cons]

/-- On the line of the item the same item is read with the other mark, and on all other lines what was read before. -/
theorem itemAt?_mark (i : Nat) :
    (EditableText.ofText new).itemAt? i = ((EditableText.ofText text).itemAt? i).map (remarked item.line mark) := by
  have hkinds := h.kinds_mark hmark hnew hsame
  by_cases htask : (EditableText.ofText text).kinds[i]? = some .task
  · rw [EditableText.itemAt?, EditableText.itemAt?, hkinds, if_pos htask, if_pos htask]
    have hnewlines : (EditableText.ofText new).lines = _ := h.lines_mark hmark hnew
    have hlines : (EditableText.ofText text).lines = _ := h.lines
    rw [hnewlines, hlines]
    by_cases hi : i = before.length
    · -- The line of the item: what is read of it but for the mark is what was read before.
      subst hi
      have hread := h.read
      have hreadMark := h.read_mark hmark
      rw [h.number] at hread hreadMark
      simp [List.getD_eq_getElem?_getD, hread, hreadMark, remarked, h.number]
    · have hline : (before ++ (p.before ++ mark :: ']' :: rest) :: after).getD i [] =
          (before ++ (p.before ++ p.mark :: ']' :: rest) :: after).getD i [] := by
        rcases Nat.lt_or_gt_of_ne hi with hlt | hgt
        · simp [List.getD_eq_getElem?_getD, List.getElem?_append_left, hlt]
        · obtain ⟨j, rfl⟩ : ∃ j, i = before.length + (j + 1) := ⟨i - before.length - 1, by omega⟩
          simp [List.getD_eq_getElem?_getD, List.getElem?_append_right]
      rw [hline]
      cases hread : read? _ (i + 1) with
      | none => rfl
      | some x =>
        obtain ⟨-, words, named, -, hx⟩ := read?_eq_some_iff.1 hread
        have hne : ¬ x.1.line = item.line := by
          rw [hx, h.number]
          exact fun heq => hi (Nat.succ.inj heq)
        rw [Option.map_some, remarked, if_neg hne]
  · rw [EditableText.itemAt?_eq_none htask, EditableText.itemAt?_eq_none (by rwa [hkinds])]
    rfl

theorem itemsUnder_mark (n : Nat) :
    (EditableText.ofText new).itemsUnder n = ((EditableText.ofText text).itemsUnder n).map (remarked item.line mark) := by
  rw [EditableText.itemsUnder, EditableText.itemsUnder, h.kinds_mark hmark hnew hsame, List.map_filterMap]
  exact List.filterMap_congr fun i _ => h.itemAt?_mark hmark hnew hsame i

end

end StandsIn

end TaskItem

/-- What a toggle changes: the mark, which is one byte, of the first of the items with the id. -/
structure TogglesFirst (text anchor id new : String) (before : List TaskItem) (item : TaskItem)
    (after : List TaskItem) (front : List Char) (mark : Char) (back : List Char) : Prop where
  read : readTasks text anchor = .ok (before ++ item :: after)
  first : item.id = id ∧ ∀ other ∈ before, other.id ≠ id
  markAt : item.MarkAt text front mark back
  old : text.toList = front ++ mark :: back
  new : new.toList = front ++ item.otherMark :: back
  differs : mark ≠ item.otherMark
  oneByte : mark.utf8Size = 1 ∧ item.otherMark.utf8Size = 1

namespace EditableText

/-! ## The first item with an id -/

variable {text anchor id new : String}

/-- A toggle sets the other mark of the first item with the id under the heading that the anchor names. -/
theorem toggleTask_eq_ok_iff : toggleTask text anchor id = .ok new ↔
    ∃ n before item p after, (ofText text).headingLine? (bareAnchor anchor) = some n ∧
      (ofText text).itemsUnder n = before ++ (item, p) :: after ∧ item.id = id ∧ (∀ x ∈ before, x.1.id ≠ id) ∧
      new = (ofText text).replaceLine (item.line - 1) (setMark p.before item.otherMark) := by
  simp only [toggleTask, section?_eq]
  cases (ofText text).headingLine? (bareAnchor anchor) with
  | none => simp [bind, Except.bind]
  | some n =>
    simp only [bind, Except.bind, items_eq_itemsUnder, Option.some.injEq]
    constructor
    · intro h
      split at h
      · cases h
      · rename_i item p hfind
        obtain ⟨hid, before, after, hitems, hbefore⟩ := List.find?_eq_some_iff_append.1 hfind
        exact ⟨n, before, item, p, after, rfl, hitems, by simpa using hid, by simpa using hbefore,
          (Except.ok.inj h).symm⟩
    · rintro ⟨m, before, item, p, after, rfl, hitems, hid, hbefore, rfl⟩
      have hfind : ((ofText text).itemsUnder n).find? (·.1.id == id) = some (item, p) :=
        List.find?_eq_some_iff_append.2 ⟨by simpa using hid, before, after, hitems, by simpa using hbefore⟩
      rw [hfind]
      rfl

/-- Items under two headings do not stand on one line. -/
theorem heading_eq_of_itemsUnder {m n : Nat} {a b : String} {x y : TaskItem × TaskItem.Parts}
    (hm : (ofText text).headingLine? a = some m) (hn : (ofText text).headingLine? b = some n)
    (hx : x ∈ (ofText text).itemsUnder m) (hy : y ∈ (ofText text).itemsUnder n) (h : x.1.line = y.1.line) :
    m = n := by
  obtain ⟨i, hi, hix⟩ := mem_itemsUnder hx
  obtain ⟨j, hj, hjy⟩ := mem_itemsUnder hy
  have hij : i = j := by
    have := (standsIn_of_itemAt? hix).1
    have := (standsIn_of_itemAt? hjy).1
    omega
  obtain ⟨k, hk, hheading⟩ := (headingLine?_eq_some_iff.1 hm).exists_heading
  obtain ⟨k', hk', hheading'⟩ := (headingLine?_eq_some_iff.1 hn).exists_heading
  exact heading_eq_of_taskLines hk hheading hk' hheading' hi (hij ▸ hj)

section
variable {n : Nat} {before after : List (TaskItem × TaskItem.Parts)} {item : TaskItem} {p : TaskItem.Parts}
  {linesBefore linesAfter : List (List Char)} {rest : List Char}
  (hitems : (ofText text).itemsUnder n = before ++ (item, p) :: after)
  (hstands : item.StandsIn text p linesBefore rest linesAfter)
include hitems hstands

/-- What a toggle does to the text, by the lines of the text. -/
theorem togglesFirst_of_itemsUnder (hn : (ofText text).headingLine? (bareAnchor anchor) = some n) (hid : item.id = id)
    (hbefore : ∀ x ∈ before, x.1.id ≠ id) :
    TogglesFirst text anchor id ((ofText text).replaceLine (item.line - 1) (setMark p.before item.otherMark))
      (before.map (·.1)) item (after.map (·.1)) (linesBefore.flatten ++ p.before) p.mark
      (']' :: (rest ++ linesAfter.flatten)) where
  read := readTasks_eq_ok.2 ⟨n, hn, by simp [hitems]⟩
  first := ⟨hid, by simpa using hbefore⟩
  markAt := ⟨p, linesBefore, rest, linesAfter, hstands, rfl, rfl, rfl⟩
  old := by rw [hstands.toList_eq, List.append_assoc]
  new := by rw [hstands.toList_setMark, List.append_assoc]
  differs := hstands.mark_ne_otherMark
  oneByte := ⟨TaskItem.utf8Size_of_isMark hstands.marked, TaskItem.utf8Size_of_isMark item.isMark_otherMark⟩

variable (hnew : new.toList = linesBefore.flatten ++ (p.before ++ item.otherMark :: ']' :: (rest ++ linesAfter.flatten)))
  (hsame : SameStructure text new)
include hnew hsame

/-- Under the heading only the toggled item has another state. -/
theorem itemsUnder_toggled : (ofText new).itemsUnder n =
    before ++ (item.toggled, { p with mark := item.otherMark }) :: after := by
  have hsorted := sorted_itemsUnder text n
  rw [hitems, List.pairwise_append, List.pairwise_cons] at hsorted
  obtain ⟨-, ⟨hafter, -⟩, hbefore⟩ := hsorted
  have hkept (ys : List (TaskItem × TaskItem.Parts)) (h : ∀ y ∈ ys, y.1.line ≠ item.line) :
      ys.map (TaskItem.remarked item.line item.otherMark) = ys := by
    refine (List.map_congr_left fun y hy => ?_).trans (List.map_id ys)
    rw [TaskItem.remarked, if_neg (h y hy), id]
  rw [hstands.itemsUnder_mark item.isMark_otherMark hnew hsame, hitems, List.map_append, List.map_cons,
    hkept before fun y hy => (hbefore y hy _ List.mem_cons_self).ne, hkept after fun y hy => (hafter y hy).ne',
    TaskItem.remarked, if_pos rfl, TaskItem.otherMark_ne_space]
  rfl

/-- Under another heading all items are what they were. -/
theorem itemsUnder_of_ne {m : Nat} {a b : String} (hm : (ofText text).headingLine? a = some m)
    (hn : (ofText text).headingLine? b = some n) (hne : m ≠ n) : (ofText new).itemsUnder m = (ofText text).itemsUnder m := by
  rw [hstands.itemsUnder_mark item.isMark_otherMark hnew hsame]
  refine (List.map_congr_left fun y hy => ?_).trans (List.map_id _)
  have hline : y.1.line ≠ item.line := fun heq =>
    hne (heading_eq_of_itemsUnder hm hn hy (by rw [hitems]; exact List.mem_append_cons_self) heq)
  rw [TaskItem.remarked, if_neg hline, id]

end

/-- **A toggle changes one mark.** Whenever it succeeds, the new text differs from the old one in one byte, which is the
mark of the first item with the id. With the structure that the text had before, the new one is read by the anchor with
the state of this item negated and nothing else changed; it is read by an anchor of another section as before; and the
next toggle by the same id gives the old text, but with a small mark. -/
theorem toggleTask_togglesFirst {text anchor id new : String} (h : toggleTask text anchor id = .ok new) :
    ∃ before item after front mark back, TogglesFirst text anchor id new before item after front mark back ∧
      (SameStructure text new →
        readTasks new anchor = .ok (before ++ item.toggled :: after) ∧
        (∀ other, (ofText text).section? other ≠ (ofText text).section? anchor →
          readTasks new other = readTasks text other) ∧
        ∃ again, toggleTask new anchor id = .ok again ∧ again.toList = front ++ mark.toLower :: back) := by
  obtain ⟨n, before, item, p, after, hn, hitems, hid, hbefore, hedit⟩ := toggleTask_eq_ok_iff.1 h
  have hmem : (item, p) ∈ (ofText text).itemsUnder n := by simp [hitems]
  obtain ⟨linesBefore, rest, linesAfter, hstands⟩ := exists_standsIn hmem
  have hnew := hedit ▸ hstands.toList_setMark item.otherMark
  refine ⟨before.map (·.1), item, after.map (·.1), linesBefore.flatten ++ p.before, p.mark,
    ']' :: (rest ++ linesAfter.flatten), hedit ▸ togglesFirst_of_itemsUnder hitems hstands hn hid hbefore,
    fun hsame => ?_⟩
  -- The kinds of the lines are the same, so every anchor names the heading that it named.
  have hkinds := hstands.kinds_mark item.isMark_otherMark hnew hsame
  have hheading (a : String) : (ofText new).headingLine? a = (ofText text).headingLine? a := by
    rw [headingLine?, headingLine?, hkinds]
  have hread := itemsUnder_toggled hitems hstands hnew hsame
  refine ⟨readTasks_eq_ok.2 ⟨n, (hheading _).trans hn, by simp [hread]⟩, fun other hother => ?_, ?_⟩
  · rw [section?_eq, section?_eq, hn] at hother
    rw [readTasks_eq, readTasks_eq, hheading]
    cases hm : (ofText text).headingLine? (bareAnchor other) with
    | none => rfl
    | some m =>
      have hne : m ≠ n := fun heq => hother (by rw [hm, heq])
      simp only [itemsUnder_of_ne hitems hstands hnew hsame hm hn hne]
  · have hagain := hstands.standsIn_mark item.isMark_otherMark hnew
    rw [TaskItem.otherMark_ne_space] at hagain
    refine ⟨_, toggleTask_eq_ok_iff.2 ⟨n, before, _, _, after, (hheading _).trans hn, hread, hid, hbefore, rfl⟩, ?_⟩
    rw [List.append_assoc, ← hstands.otherMark_toggled]
    exact hagain.toList_setMark item.toggled.otherMark

/-- The second item of a section, which was done. -/
theorem toggleTask_togglesFirst_second :
    toggleTask "# A\r\n- [ ] b\r\n- [X] a" "#a" "e40c292c" = .ok "# A\r\n- [ ] b\r\n- [ ] a" ∧
    SameStructure "# A\r\n- [ ] b\r\n- [X] a" "# A\r\n- [ ] b\r\n- [ ] a" ∧
    ∃ before item after front mark back,
      TogglesFirst "# A\r\n- [ ] b\r\n- [X] a" "#a" "e40c292c" "# A\r\n- [ ] b\r\n- [ ] a" before item after front
        mark back ∧
      readTasks "# A\r\n- [ ] b\r\n- [ ] a" "#a" = .ok (before ++ item.toggled :: after) ∧
      ∃ again, toggleTask "# A\r\n- [ ] b\r\n- [ ] a" "#a" "e40c292c" = .ok again ∧
        again.toList = front ++ mark.toLower :: back := by
  have htoggle : toggleTask "# A\r\n- [ ] b\r\n- [X] a" "#a" "e40c292c" = .ok "# A\r\n- [ ] b\r\n- [ ] a" := by
    decide +kernel
  have hsame : SameStructure "# A\r\n- [ ] b\r\n- [X] a" "# A\r\n- [ ] b\r\n- [ ] a" := by decide +kernel
  obtain ⟨before, item, after, front, mark, back, hfirst, hread⟩ := toggleTask_togglesFirst htoggle
  obtain ⟨hnew, -, hagain⟩ := hread hsame
  exact ⟨htoggle, hsame, before, item, after, front, mark, back, hfirst, hnew, hagain⟩

end EditableText

end LivePage
