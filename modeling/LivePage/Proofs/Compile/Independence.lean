import LivePage.Proofs.Compile
import LivePage.Proofs.Frontmatter
import LivePage.Proofs.Task.Origin
import LivePage.Proofs.Task.Synthesis
import LivePage.Proofs.Task.Toggle
/-!
# What tasks have no part in

The lines of the tasks in a section that is replaced are read for nothing but the fact that they are tasks. So two
documents that differ in such lines only are compiled to one page, with the same warnings.
-/
namespace LivePage

open Text Markdown LineKind

/-! ## Bodies that differ in tasks -/

/-- A line of a body is a task in one of the sections that are replaced. -/
def IsReplacedTask (body : String) (i : Nat) : Prop :=
  ∃ s ∈ Synthesis.replaced body, i ∈ taskLines (lineKinds body) s.headingLine

instance (body : String) (i : Nat) : Decidable (IsReplacedTask body i) :=
  inferInstanceAs (Decidable (∃ s ∈ Synthesis.replaced body, i ∈ taskLines (lineKinds body) s.headingLine))

/-- Two bodies have lines of the same kinds, and all lines are the same but for tasks in sections that are replaced. -/
structure SameButTasks (body body' : String) : Prop where
  kinds : lineKinds body' = lineKinds body
  lines : ∀ i, ¬ IsReplacedTask body i → (splitOn '\n' body'.toList)[i]? = (splitOn '\n' body.toList)[i]?

namespace Synthesis

open TaskSection

section
variable {lines lines' : List String} {next first last : Nat} {ss : List TaskSection}

/-- What is kept is known from the lines that are kept. -/
theorem kept_congr (h : ∀ i, first ≤ i → i < last → lines'[i]? = lines[i]?) : kept lines' first last = kept lines first last := by
  refine List.ext_getElem? fun k => ?_
  rw [getElem?_kept, getElem?_kept]
  split_ifs with hlt
  · rw [h _ (Nat.le_add_right _ _) hlt]
  · rfl

variable {kinds : List LineKind}

/-- **New lines are known from the lines outside of sections**, and from whether the last one is empty. -/
theorem spliced_congr (hlength : lines'.length = lines.length)
    (hlast : lines'.getLast?.any (·.isEmpty) = lines.getLast?.any (·.isEmpty))
    (hss : ss.Sublist (inLines next (kinds.drop next)))
    (h : ∀ i, next ≤ i → (∀ s ∈ ss, i ≤ s.headingLine ∨ s.endLine ≤ i) → lines'[i]? = lines[i]?) :
    spliced lines' next ss = spliced lines next ss := by
  -- Only lines outside the sections are kept, and there the two texts agree.
  induction ss generalizing next with
  | nil =>
    rw [spliced, spliced, hlength]
    exact kept_congr fun i hle _ => h i hle (by simp)
  | cons s rest ih =>
    have hrest := sublist_inLines_endLine hss
    have hend : s.headingLine < s.endLine := by
      have := (isSection_of_mem_drop (hss.mem List.mem_cons_self)).2.endLine
      omega
    have hafter (t : TaskSection) (ht : t ∈ rest) : s.endLine ≤ t.headingLine :=
      (isSection_of_mem_drop (hrest.mem ht)).1
    have hle := (isSection_of_mem_drop (hss.mem List.mem_cons_self)).1
    have hbefore : kept lines' next (s.headingLine + 1) = kept lines next (s.headingLine + 1) := by
      refine kept_congr fun i hi hlt => h i hi fun t ht => .inl ?_
      rcases List.mem_cons.1 ht with rfl | ht
      · omega
      · have := hafter t ht
        omega
    have hlater : spliced lines' s.endLine rest = spliced lines s.endLine rest := by
      refine ih hrest fun i hi hout => h i (by omega) fun t ht => ?_
      rcases List.mem_cons.1 ht with rfl | ht
      · exact .inr hi
      · exact hout t ht
    rw [spliced, spliced, hlength, hlast, hbefore, hlater]

end

end Synthesis

/-- The task lines of a section lie between its heading and its end. -/
theorem TaskSection.IsSection.lt_of_mem_taskLines {kinds : List LineKind} {s : TaskSection} {i : Nat} (hs : IsSection kinds s)
    (hi : i ∈ taskLines kinds s.headingLine) : s.headingLine < i ∧ i < s.endLine := by
  have hrange := List.mem_range'_1.1 (List.mem_filter.1 hi).1
  rw [hs.endLine]
  exact ⟨hrange.1, hrange.2⟩

namespace SameButTasks

variable {body body' file : String} (h : SameButTasks body body')
include h

theorem replaced_eq : Synthesis.replaced body' = Synthesis.replaced body := by
  rw [Synthesis.replaced, Synthesis.replaced, TaskSection.detect_eq, TaskSection.detect_eq, h.kinds]

theorem length_eq : (splitOn '\n' body'.toList).length = (splitOn '\n' body.toList).length := by
  have hlength := congrArg List.length h.kinds
  rwa [(lineKinds_fits body').length, (lineKinds_fits body).length] at hlength

theorem eq_of_replaced_eq_nil (hnone : Synthesis.replaced body = []) : body' = body := by
  have hlines : splitOn '\n' body'.toList = splitOn '\n' body.toList := by
    refine List.ext_getElem? fun i => h.lines i ?_
    rintro ⟨s, hs, -⟩
    rw [hnone] at hs
    cases hs
  have hjoin (cs : List Char) : ['\n'].intercalate (splitOn '\n' cs) = cs := List.intercalate_splitOn '\n'
  rw [← String.ofList_toList (s := body'), ← String.ofList_toList (s := body), ← hjoin body'.toList, hlines, hjoin]

/-- A line is empty in both bodies or in none, for a task is not empty. -/
theorem isEmpty_eq (i : Nat) : (splitOn '\n' body'.toList)[i]?.any (·.isEmpty) = (splitOn '\n' body.toList)[i]?.any (·.isEmpty) := by
  by_cases hi : IsReplacedTask body i
  · obtain ⟨s, -, hi⟩ := hi
    have htask := (mem_taskLines_iff.1 hi).2.1
    have hfull {text : String} (htask : (lineKinds text)[i]? = some .task) :
        (splitOn '\n' text.toList)[i]?.any (·.isEmpty) = false := by
      have hitem := (lineKinds_fits text).isItem i htask
      rw [TextLines.line, TextLines.ofText, List.getD_eq_getElem?_getD] at hitem
      cases hline : (splitOn '\n' text.toList)[i]? with
      | none => rfl
      | some line =>
        rw [hline, Option.getD_some] at hitem
        cases line with
        | nil => cases hitem
        | cons c cs => rfl
    rw [hfull htask, hfull (h.kinds ▸ htask)]
  · rw [h.lines i hi]

/-- **Both bodies are read as one.** -/
theorem synthesize_eq : synthesize body' file = synthesize body file := by
  by_cases hnone : Synthesis.replaced body = []
  · rw [h.eq_of_replaced_eq_nil hnone]
  · have hlines : Synthesis.spliced ((splitOn '\n' body'.toList).map String.ofList) 0 (Synthesis.replaced body) =
        Synthesis.spliced ((splitOn '\n' body.toList).map String.ofList) 0 (Synthesis.replaced body) := by
      have hss : (Synthesis.replaced body).Sublist (TaskSection.inLines 0 ((lineKinds body).drop 0)) := by
        rw [List.drop_zero, ← TaskSection.detect_eq]
        exact TaskSection.withOwnAnchor_sublist [] _
      refine Synthesis.spliced_congr (by rw [List.length_map, List.length_map, h.length_eq]) ?_ hss fun i _ hout => ?_
      · have hlast := h.isEmpty_eq ((splitOn '\n' body.toList).length - 1)
        rw [← List.getLast?_eq_getElem?, ← h.length_eq, ← List.getLast?_eq_getElem?] at hlast
        rw [List.getLast?_map, List.getLast?_map, Option.any_map, Option.any_map]
        simpa [Function.comp_def, isEmpty_ofList] using hlast
      · rw [List.getElem?_map, List.getElem?_map, h.lines i]
        rintro ⟨s, hs, hi⟩
        have hsection := TaskSection.mem_detect_iff.1 (TaskSection.mem_of_mem_withOwnAnchor hs).1
        have hin := hsection.lt_of_mem_taskLines hi
        have := hout s hs
        omega
    obtain ⟨s, rest, hcons⟩ := List.exists_cons_of_ne_nil hnone
    rw [hcons] at hlines
    rw [synthesize, synthesize, h.replaced_eq, hcons]
    dsimp only
    rw [hlines]

/-- The bodies have the same first line, with a line feed, if something is replaced. -/
theorem same_first_line (hsome : Synthesis.replaced body ≠ []) : ∃ line rest rest', Closed line ∧
    body = String.ofList (line ++ rest) ∧ body' = String.ofList (line ++ rest') := by
  obtain ⟨s, ss, hcons⟩ := List.exists_cons_of_ne_nil hsome
  have hs := TaskSection.mem_detect_iff.1 (TaskSection.mem_of_mem_withOwnAnchor (hcons ▸ List.mem_cons_self : s ∈ _)).1
  have hlength : 1 < (splitOn '\n' body.toList).length := by
    obtain ⟨i, hi⟩ := exists_mem_taskLines hs.item
    have hlt := (List.getElem?_eq_some_iff.1 (mem_taskLines_iff.1 hi).2.1).1
    rw [(lineKinds_fits body).length] at hlt
    exact Nat.lt_of_le_of_lt (Nat.one_le_of_lt (mem_taskLines_iff.1 hi).1) hlt
  have hzero : (splitOn '\n' body'.toList)[0]? = (splitOn '\n' body.toList)[0]? := by
    refine h.lines 0 ?_
    rintro ⟨t, -, hi⟩
    exact Nat.not_lt_zero _ (mem_taskLines_iff.1 hi).1
  have hlength' : 1 < (splitOn '\n' body'.toList).length := h.length_eq ▸ hlength
  match hb : splitOn '\n' body.toList, hb' : splitOn '\n' body'.toList with
  | l :: m :: ls, l' :: m' :: ls' =>
    rw [hb, hb'] at hzero
    obtain rfl : l' = l := Option.some.inj hzero
    obtain ⟨hclosed, rest, hrest⟩ := exists_first_line hb
    obtain ⟨-, rest', hrest'⟩ := exists_first_line hb'
    exact ⟨_, rest, rest', hclosed, by rw [← hrest, String.ofList_toList], by rw [← hrest', String.ofList_toList]⟩
  | [], _ => simp [hb] at hlength
  | [_], _ => simp [hb] at hlength
  | _, [] => simp [hb'] at hlength'
  | _, [_] => simp [hb'] at hlength'

end SameButTasks

/-! ## Compilations -/

variable {decode : String → Except DecodeFault Header} {front body body' source file : String} {options : CompileOptions}
  {x : Extracted} {c : Compiled}

/-- What comes before the bodies is the same in both documents. -/
theorem SameButTasks.extractWith_eq (h : SameButTasks body body') (hx : extractWith decode (front ++ body) = .ok x)
    (hbody : x.body = body) : extractWith decode (front ++ body') = .ok { x with body := body' } := by
  by_cases hnone : Synthesis.replaced body = []
  · rw [h.eq_of_replaced_eq_nil hnone, hx, ← hbody]
  · obtain ⟨line, rest, rest', hline, rfl, rfl⟩ := h.same_first_line hnone
    have hjoin (cs : List Char) : front ++ String.ofList cs = String.ofList (front.toList ++ cs) := by simp
    rw [hjoin] at hx ⊢
    exact extractWith_otherBody hline hx hbody rest'

theorem compileExtracted_sameButTasks (h : SameButTasks x.body body') (hauto : options.autoTasks = true) :
    compileExtracted { x with body := body' } file options = compileExtracted x file options := by
  unfold compileExtracted
  simp only [hauto, if_true, h.synthesize_eq]

theorem compileWith_eq_ok_iff (hx : extractWith decode source = .ok x) :
    compileWith decode source file options = .ok c ↔ compileExtracted x file options = .ok c := by
  unfold compileWith
  rw [hx]
  dsimp only
  cases compileExtracted x file options with
  | ok => rfl
  | error failure => cases failure <;> simp

/-- Two documents with bodies that differ in tasks only are compiled to one page, with the same warnings. -/
theorem compileWith_sameButTasks (h : SameButTasks body body') (hx : extractWith decode (front ++ body) = .ok x)
    (hbody : x.body = body) (hauto : options.autoTasks = true) :
    compileWith decode (front ++ body) file options = .ok c ↔ compileWith decode (front ++ body') file options = .ok c := by
  subst hbody
  rw [compileWith_eq_ok_iff hx, compileWith_eq_ok_iff (h.extractWith_eq hx rfl), compileExtracted_sameButTasks h hauto]

/-! ## Toggles -/

/-- The lines of a document are those before its body and those of the body. -/
theorem exists_lines_before (hx : extractWith decode source = .ok x) (hne : x.body ≠ "") :
    ∃ before, linesWithEnds source.toList = before ++ linesWithEnds x.body.toList ∧ before.length + 1 = x.bodyLine := by
  have hbody := linesWithEnds_body hx hne
  have hpos := bodyLine_pos hx
  have hlength : (linesWithEnds source.toList).length - (x.bodyLine - 1) ≠ 0 := by
    rw [← List.length_drop, hbody]
    intro h
    have hflat := linesWithEnds_flatten x.body.toList
    rw [List.length_eq_zero_iff.1 h] at hflat
    exact hne (String.toList_eq_nil_iff.1 hflat.symm)
  refine ⟨(linesWithEnds source.toList).take (x.bodyLine - 1), by rw [← hbody, List.take_append_drop], ?_⟩
  rw [List.length_take]
  omega

/-- A task in the body stands in the document below what comes before the body. -/
theorem TaskItem.StandsIn.exists_body {item : TaskItem} {p : TaskItem.Parts} {before after : List (List Char)} {rest : List Char}
    {i : Nat} (hstands : item.StandsIn source p before rest after) (hx : extractWith decode source = .ok x)
    (hline : item.line = x.bodyLine + i) (hi : i < (linesWithEnds x.body.toList).length) :
    ∃ front lines, before = front ++ lines ∧ lines.length = i ∧
      linesWithEnds x.body.toList = lines ++ (p.before ++ p.mark :: ']' :: rest) :: after := by
  have hne : x.body ≠ "" := by
    intro hempty
    rw [hempty] at hi
    exact Nat.not_lt_zero _ hi
  obtain ⟨front, hfront, hlength⟩ := exists_lines_before hx hne
  have hnumber := hstands.number
  have hcut := hfront.symm.trans hstands.lines
  rcases List.append_eq_append_iff.1 hcut with ⟨lines, rfl, hlines⟩ | ⟨more, rfl, hlines⟩
  · refine ⟨front, lines, rfl, ?_, hlines⟩
    rw [List.length_append] at hnumber
    omega
  · rw [List.length_append] at hlength
    obtain rfl : more = [] := List.eq_nil_of_length_eq_zero (by omega)
    exact ⟨before, [], by simp, by simp at hlength ⊢; omega, by simpa using hlines.symm⟩

/-- Bodies that differ in the mark of a task that is replaced are the same but for tasks, if they have one structure. -/
theorem sameButTasks_mark {lines : List (List Char)} {before back : List Char} {a b : Char} (hlines : ∀ l ∈ lines, Closed l)
    (hopens : TaskItem.Opens before) (hno : '\n' ∉ before) (ha : TaskItem.isMark a = true) (hb : TaskItem.isMark b = true)
    (hbody : body.toList = lines.flatten ++ (before ++ a :: ']' :: back))
    (hbody' : body'.toList = lines.flatten ++ (before ++ b :: ']' :: back)) (hsame : SameStructure body body')
    (htask : IsReplacedTask body lines.length) : SameButTasks body body' where
  kinds := TaskItem.lineKinds_mark hlines hopens hno ha hb hbody hbody' hsame
  lines i hi := by
    obtain ⟨rest, later, hsplit⟩ := TaskItem.splitOn_mark hlines hno back
    rw [hbody, hbody', hsplit a ha, hsplit b hb]
    have hne : i ≠ (lines.map List.dropLast).length := by
      rintro rfl
      rw [List.length_map] at hi
      exact hi htask
    rcases Nat.lt_or_gt_of_ne hne with hlt | hgt
    · rw [List.getElem?_append_left hlt, List.getElem?_append_left hlt]
    · obtain ⟨j, rfl⟩ : ∃ j, i = (lines.map List.dropLast).length + (j + 1) :=
        ⟨i - (lines.map List.dropLast).length - 1, by omega⟩
      simp [List.getElem?_append_right]

/-- A toggle is of a task that is replaced: the first item with the id stands on its line. -/
def TogglesReplaced (source anchor id : String) (x : Extracted) : Prop :=
  ∃ items item i, readTasks source anchor = .ok items ∧ items.find? (·.id == id) = some item ∧
    item.line = x.bodyLine + i ∧ IsReplacedTask x.body i

/-- **A toggle of a task that is replaced** gives a document with the same header, and with a body that is the same but
for tasks if it has the structure of the old one. -/
theorem exists_toggled_body {anchor id new : String} (hx : extractWith decode source = .ok x)
    (hnew : toggleTask source anchor id = .ok new) (htask : TogglesReplaced source anchor id x) :
    ∃ front body', source = front ++ x.body ∧ new = front ++ body' ∧
      extractWith decode new = .ok { x with body := body' } ∧ (SameStructure x.body body' → SameButTasks x.body body') := by
  obtain ⟨items, item, i, hread, hfind, hline, hi⟩ := htask
  obtain ⟨n, before, found, p, after, hn, hitems, hid, hbefore, hedit⟩ := EditableText.toggleTask_eq_ok_iff.1 hnew
  obtain rfl : found = item := by
    obtain ⟨m, hm, rfl⟩ := EditableText.readTasks_eq_ok.1 hread
    obtain rfl := Option.some.inj (hn.symm.trans hm)
    have hfirst : (((EditableText.ofText source).itemsUnder n).map (·.1)).find? (·.id == id) = some found := by
      rw [hitems, List.map_append, List.map_cons]
      exact List.find?_eq_some_iff_append.2 ⟨by simpa using hid, before.map (·.1), after.map (·.1), rfl, by simpa using hbefore⟩
    exact Option.some.inj (hfirst.symm.trans hfind)
  have hmem : (found, p) ∈ (EditableText.ofText source).itemsUnder n := by simp [hitems]
  obtain ⟨linesBefore, rest, linesAfter, hstands⟩ := EditableText.exists_standsIn hmem
  have ⟨s, hs, hin⟩ := hi
  have hpos : 0 < i := Nat.zero_lt_of_lt (mem_taskLines_iff.1 hin).1
  have hlt : i < (linesWithEnds x.body.toList).length := by
    have htask := (EditableText.kinds_eq_task_iff x.body i).2 (mem_taskLines_iff.1 hin).2.1
    exact (List.getElem?_eq_some_iff.1 htask).1.trans_le (EditableText.length_kinds x.body)
  obtain ⟨front, lines, rfl, rfl, hlines⟩ := hstands.exists_body hx hline hlt
  have hbody : x.body.toList = lines.flatten ++ (p.before ++ p.mark :: ']' :: (rest ++ linesAfter.flatten)) := by
    rw [← linesWithEnds_flatten x.body.toList, hlines]
    simp
  have hnewText := hedit ▸ hstands.toList_setMark found.otherMark
  -- The first line of the body is before the task, so the header opens and ends as it did.
  obtain ⟨first, lines, rfl⟩ := List.exists_cons_of_length_pos hpos
  have hclosed : ∀ l ∈ first :: lines, Closed l := fun l hl => hstands.closed l (List.mem_append_right _ hl)
  refine ⟨String.ofList front.flatten, String.ofList ((first :: lines).flatten ++
    (p.before ++ found.otherMark :: ']' :: (rest ++ linesAfter.flatten))), ?_, ?_, ?_, fun hsame => ?_⟩
  · rw [← String.toList_inj, hstands.toList_eq]
    simp [hbody]
  · rw [← String.toList_inj, hnewText]
    simp
  · have hfirst := hclosed first List.mem_cons_self
    have hsource : source = String.ofList (front.flatten ++ (first ++ (lines.flatten ++
        (p.before ++ p.mark :: ']' :: (rest ++ linesAfter.flatten))))) := by
      rw [← String.toList_inj, hstands.toList_eq]
      simp
    have hnewSource : new = String.ofList (front.flatten ++ (first ++ (lines.flatten ++
        (p.before ++ found.otherMark :: ']' :: (rest ++ linesAfter.flatten))))) := by
      rw [← String.toList_inj, hnewText]
      simp
    have hbodyText : x.body = String.ofList (first ++ (lines.flatten ++
        (p.before ++ p.mark :: ']' :: (rest ++ linesAfter.flatten)))) := by
      rw [← String.toList_inj, hbody]
      simp
    rw [hsource] at hx
    rw [hnewSource, extractWith_otherBody hfirst hx hbodyText, List.flatten_cons, List.append_assoc]
  · exact sameButTasks_mark hclosed hstands.opens hstands.newline_not_mem hstands.marked found.isMark_otherMark hbody
      (String.toList_ofList) hsame hi

/-- **Tasks have no part in the page.** With sections replaced, two documents with the same text before their bodies and
with bodies whose lines are of the same kinds, and differ in tasks of replaced sections only, are compiled to one page
with the same warnings, or neither of them is. So it is for a document in which a task of a replaced section was
toggled, where the body has the structure that it had. -/
theorem compiles_without_tasks (decode : String → Except DecodeFault Header) (file : String) (options : CompileOptions)
    (hauto : options.autoTasks = true) :
    (∀ front body body' x, SameButTasks body body' → extractWith decode (front ++ body) = .ok x → x.body = body →
      ∀ c, compileWith decode (front ++ body) file options = .ok c ↔
        compileWith decode (front ++ body') file options = .ok c) ∧
    ∀ source anchor id new x, extractWith decode source = .ok x → toggleTask source anchor id = .ok new →
      TogglesReplaced source anchor id x → ∃ body', extractWith decode new = .ok { x with body := body' } ∧
        (SameStructure x.body body' →
          ∀ c, compileWith decode source file options = .ok c ↔ compileWith decode new file options = .ok c) := by
  refine ⟨fun front body body' x h hx hbody c => compileWith_sameButTasks h hx hbody hauto,
    fun source anchor id new x hx hnew htask => ?_⟩
  obtain ⟨front, body', rfl, rfl, hx', hsame⟩ := exists_toggled_body hx hnew htask
  exact ⟨body', hx', fun hstructure c => compileWith_sameButTasks (hsame hstructure) hx rfl hauto⟩

/-- An open task, and another one that is done. -/
theorem sameButTasks_openTask : SameButTasks "# A\n- [ ] a" "# A\n- [x] b" where
  kinds := by decide +kernel
  lines i hi := by
    have htask : IsReplacedTask "# A\n- [ ] a" 1 := by decide +kernel
    have hlines : splitOn '\n' "# A\n- [ ] a".toList = ["# A".toList, "- [ ] a".toList] := by decide +kernel
    have hlines' : splitOn '\n' "# A\n- [x] b".toList = ["# A".toList, "- [x] b".toList] := by decide +kernel
    rw [hlines, hlines']
    match i with
    | 0 => simp
    | 1 => exact absurd htask hi
    | _ + 2 => simp

/-- A page is the same with another task, and after a toggle of the one that it has. -/
theorem openTask_compiles_alike :
    (∀ c, compile ("---\n---\n" ++ "# A\n- [ ] a") "page.md" {} = .ok c ↔
      compile ("---\n---\n" ++ "# A\n- [x] b") "page.md" {} = .ok c) ∧
    toggleTask "# A\n- [ ] a" "#a" "e40c292c" = .ok "# A\n- [x] a" ∧
    ∀ c, compile "# A\n- [ ] a" "page.md" {} = .ok c ↔ compile "# A\n- [x] a" "page.md" {} = .ok c := by
  obtain ⟨hother, htoggle⟩ := compiles_without_tasks Header.decode "page.md" {} rfl
  have hnew : toggleTask "# A\n- [ ] a" "#a" "e40c292c" = .ok "# A\n- [x] a" := by decide +kernel
  refine ⟨?_, hnew, ?_⟩
  · have hbody : (extractWith Header.decode ("---\n---\n" ++ "# A\n- [ ] a")).toOption.any
        (·.body = "# A\n- [ ] a") = true := by
      decide +kernel
    obtain ⟨x, hx, hbody⟩ := exists_ok_of_any hbody
    exact hother _ _ _ x sameButTasks_openTask hx (of_decide_eq_true hbody)
  · have hx : extractWith Header.decode "# A\n- [ ] a" = .ok { body := "# A\n- [ ] a" } := rfl
    have hx' : extractWith Header.decode "# A\n- [x] a" = .ok { body := "# A\n- [x] a" } := rfl
    have htask : TogglesReplaced "# A\n- [ ] a" "#a" "e40c292c" { body := "# A\n- [ ] a" } := by
      refine ⟨[⟨"e40c292c", "a", false, 2⟩], ⟨"e40c292c", "a", false, 2⟩, 1, ?_, ?_, rfl, ?_⟩
      · decide +kernel
      · decide +kernel
      · decide +kernel
    have hstructure : SameStructure "# A\n- [ ] a" "# A\n- [x] a" := by decide +kernel
    obtain ⟨body', hbody', hsame⟩ := htoggle _ _ _ _ _ hx hnew htask
    obtain rfl : "# A\n- [x] a" = body' := congrArg Extracted.body (Except.ok.inj (hx'.symm.trans hbody'))
    exact hsame hstructure

end LivePage
