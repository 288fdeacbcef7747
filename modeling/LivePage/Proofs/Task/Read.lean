import LivePage.Proofs.Task.Anchor
import LivePage.Proofs.Text.LineEdit
/-!
# Reading items

The items of a section are read from its task lines, one from each, in the order of the lines. Where an item stands in
the text, with what comes before its mark and after it, is said here once for all edits.
-/
namespace LivePage

open Text LineKind

/-- An anchor without the number sign that may lead it. -/
def bareAnchor (anchor : String) : String :=
  match anchor.toList with
  | '#' :: rest => String.ofList rest
  | _ => anchor

namespace TaskItem

/-- An item on a line of a text: the lines before it, the rest of its own line after the closing bracket, and the lines
after it. -/
structure StandsIn (text : String) (item : TaskItem) (p : Parts) (before : List (List Char)) (rest : List Char)
    (after : List (List Char)) : Prop where
  lines : linesWithEnds text.toList = before ++ (p.before ++ p.mark :: ']' :: rest) :: after
  number : item.line = before.length + 1
  read : read? (dropLineEnd (p.before ++ p.mark :: ']' :: rest)) item.line = some (item, p)

variable {text : String} {item : TaskItem} {p : Parts} {before after : List (List Char)} {rest : List Char}

namespace StandsIn

variable (h : StandsIn text item p before rest after)
include h

theorem opens : Opens p.before := (parts?_eq_some_iff.1 (read?_eq_some_iff.1 h.read).1).1

theorem marked : isMark p.mark = true := (parts?_eq_some_iff.1 (read?_eq_some_iff.1 h.read).1).2.1

theorem done : item.done = (p.mark != ' ') := by
  obtain ⟨-, words, named, -, hitem⟩ := read?_eq_some_iff.1 h.read
  rw [hitem]

/-- Without its end, the line ends with what comes after the closing bracket. -/
theorem dropLineEnd_rest : dropLineEnd rest = p.after := by
  have hcut := (parts?_eq_some_iff.1 (read?_eq_some_iff.1 h.read).1).2.2
  have hkept : dropLineEnd ((p.before ++ [p.mark]) ++ ']' :: rest) = (p.before ++ [p.mark]) ++ ']' :: dropLineEnd rest :=
    dropEndWhile_append rfl
  rw [List.append_assoc, List.singleton_append, hcut] at hkept
  simpa using hkept.symm

theorem dropLineEnd_line (mark : Char) :
    dropLineEnd (p.before ++ mark :: ']' :: rest) = p.before ++ mark :: ']' :: p.after := by
  have hkept : dropLineEnd ((p.before ++ [mark]) ++ ']' :: rest) = (p.before ++ [mark]) ++ ']' :: dropLineEnd rest :=
    dropEndWhile_append rfl
  rw [h.dropLineEnd_rest] at hkept
  simpa using hkept

theorem newline_not_mem : '\n' ∉ p.before := by
  have hno := not_mem_dropLineEnd h.lines
  rw [h.dropLineEnd_line] at hno
  exact fun hmem => hno (List.mem_append_left _ hmem)

theorem toList_eq : text.toList = before.flatten ++ (p.before ++ p.mark :: ']' :: (rest ++ after.flatten)) := by
  rw [← linesWithEnds_flatten text.toList, h.lines]
  simp

theorem closed : ∀ l ∈ before, Closed l := (closed_of_lines h.lines).1

/-- With another mark the same item is read, apart from its state. -/
theorem read_mark {mark : Char} (hmark : isMark mark = true) :
    read? (dropLineEnd (p.before ++ mark :: ']' :: rest)) item.line =
      some ({ item with done := mark != ' ' }, { p with mark }) := by
  obtain ⟨hparts, text, named, hcontent, hitem⟩ := read?_eq_some_iff.1 h.read
  rw [h.dropLineEnd_line, read?_eq_some_iff]
  refine ⟨parts?_eq_some_iff.2 ⟨h.opens, hmark, rfl⟩, text, named, hcontent, ?_⟩
  conv_lhs => rw [hitem]

end StandsIn

/-- The mark of an item in a text, with all that comes before it and after it. -/
def MarkAt (text : String) (item : TaskItem) (front : List Char) (mark : Char) (back : List Char) : Prop :=
  ∃ p before rest after, StandsIn text item p before rest after ∧
    front = before.flatten ++ p.before ∧ mark = p.mark ∧ back = ']' :: (rest ++ after.flatten)

end TaskItem

namespace EditableText

variable {t : EditableText} {anchor : String} {n i : Nat} {item : TaskItem} {p : TaskItem.Parts}

theorem toList_replaceLine {before after : List (List Char)} {l : List Char} (h : t.lines = before ++ l :: after)
    (f : List Char → List Char) :
    (t.replaceLine before.length f).toList = before.flatten ++ (f l ++ after.flatten) := by
  simp [replaceLine, h, List.modify_eq_take_drop]

/-! ## Under a heading -/

/-- The items that are read from the task lines under a heading. -/
def itemsUnder (t : EditableText) (heading : Nat) : List (TaskItem × TaskItem.Parts) :=
  (taskLines t.kinds heading).filterMap t.itemAt?

theorem items_eq_itemsUnder (t : EditableText) (heading : Nat) :
    t.items heading (heading + 1 + (contentUnder t.kinds heading).length) = t.itemsUnder heading := by
  rw [items, itemsUnder, taskLines, List.filterMap_filter, Nat.add_sub_cancel_left]
  refine List.filterMap_congr fun i _ => ?_
  by_cases h : t.kinds[i]? = some .task
  · simp [h]
  · simp [h, itemAt?_eq_none h]

theorem section?_eq (t : EditableText) (anchor : String) : t.section? anchor =
    match t.headingLine? (bareAnchor anchor) with
    | some n => .ok (n, n + 1 + (contentUnder t.kinds n).length)
    | none => .error (.sectionNotFound (bareAnchor anchor)) := by
  unfold section? bareAnchor
  cases anchor.toList with
  | nil => rfl
  | cons c rest => by_cases hc : c = '#' <;> simp [hc] <;> rfl

theorem readTasks_eq (text anchor : String) : readTasks text anchor =
    match (ofText text).headingLine? (bareAnchor anchor) with
    | some n => .ok (((ofText text).itemsUnder n).map (·.1))
    | none => .error (.sectionNotFound (bareAnchor anchor)) := by
  simp only [readTasks, section?_eq]
  cases (ofText text).headingLine? (bareAnchor anchor) with
  | none => rfl
  | some n => exact congrArg (fun l => Except.ok (List.map _ l)) (items_eq_itemsUnder _ n)

theorem readTasks_eq_ok {text : String} {items : List TaskItem} : readTasks text anchor = .ok items ↔
    ∃ n, (ofText text).headingLine? (bareAnchor anchor) = some n ∧ items = ((ofText text).itemsUnder n).map (·.1) := by
  rw [readTasks_eq]
  cases (ofText text).headingLine? (bareAnchor anchor) with
  | none => simp
  | some n => simp [eq_comm]

/-- The lines of the items under a heading are its task lines, counted from one. -/
theorem itemsUnder_lines (text : String) (heading : Nat) :
    ((ofText text).itemsUnder heading).map (·.1.line) = (taskLines (ofText text).kinds heading).map (· + 1) := by
  rw [← items_eq_itemsUnder, items_lines, taskLines, Nat.add_sub_cancel_left]

theorem lines_of_readTasks {text : String} {items : List TaskItem}
    (hn : (ofText text).headingLine? (bareAnchor anchor) = some n) (h : readTasks text anchor = .ok items) :
    items.map (·.line) = (taskLines (ofText text).kinds n).map (· + 1) := by
  obtain ⟨m, hm, rfl⟩ := readTasks_eq_ok.1 h
  obtain rfl := Option.some.inj (hn.symm.trans hm)
  rw [List.map_map]
  exact itemsUnder_lines text n

theorem sorted_itemsUnder (text : String) (heading : Nat) :
    ((ofText text).itemsUnder heading).Pairwise fun a b => a.1.line < b.1.line := by
  rw [← List.pairwise_map (f := fun x : TaskItem × TaskItem.Parts => x.1.line) (R := (· < ·)), itemsUnder_lines,
    List.pairwise_map]
  exact (sorted_taskLines _ _).imp fun h => Nat.succ_lt_succ h

/-! ## Where items stand -/

/-- An item stands on the line that it is read from. -/
theorem standsIn_of_itemAt? {text : String} (h : (ofText text).itemAt? i = some (item, p)) :
    item.line = i + 1 ∧ ∃ before rest after, item.StandsIn text p before rest after := by
  have htask : (ofText text).kinds[i]? = some .task := by
    by_contra hno
    rw [itemAt?_eq_none hno] at h
    cases h
  rw [itemAt?, if_pos htask] at h
  have hi : i < (linesWithEnds text.toList).length :=
    (List.getElem?_eq_some_iff.1 htask).1.trans_le (length_kinds text)
  obtain ⟨hparts, words, named, hcontent, hitem⟩ := TaskItem.read?_eq_some_iff.1 h
  have hline : item.line = i + 1 := by rw [hitem]
  refine ⟨hline, ?_⟩
  change TaskItem.read? (dropLineEnd ((linesWithEnds text.toList).getD i [])) (i + 1) = _ at h
  change TaskItem.parts? (dropLineEnd ((linesWithEnds text.toList).getD i [])) = _ at hparts
  rw [List.getD_eq_getElem?_getD, List.getElem?_eq_getElem hi, Option.getD_some] at h hparts
  obtain ⟨lineEnd, hend⟩ := dropLineEnd_prefix (linesWithEnds text.toList)[i]
  have hcut := (TaskItem.parts?_eq_some_iff.1 hparts).2.2
  rw [hcut, List.append_assoc, List.cons_append, List.cons_append] at hend
  refine ⟨(linesWithEnds text.toList).take i, p.after ++ lineEnd, (linesWithEnds text.toList).drop (i + 1), ?_, ?_, ?_⟩
  · rw [hend, List.getElem_cons_drop, List.take_append_drop]
  · rw [hline, List.length_take_of_le hi.le]
  · rw [hend, hline, h]

theorem mem_itemsUnder {text : String} (h : (item, p) ∈ (ofText text).itemsUnder n) :
    ∃ i ∈ taskLines (ofText text).kinds n, (ofText text).itemAt? i = some (item, p) := by
  simpa [itemsUnder] using h

theorem exists_standsIn {text : String} (h : (item, p) ∈ (ofText text).itemsUnder n) :
    ∃ before rest after, item.StandsIn text p before rest after := by
  obtain ⟨i, -, hi⟩ := mem_itemsUnder h
  exact (standsIn_of_itemAt? hi).2

end EditableText

end LivePage
