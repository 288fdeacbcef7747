import LivePage.Proofs.Frontmatter
import LivePage.Proofs.Task.Line
import LivePage.Proofs.Task.Section
/-!
# Whose items an anchor names

A replaced section is bound to a source that names it by its anchor in the page's own file. The section was found in
the body, by looking for sections of tasks; the source is served from the whole file, by looking for the first heading
with the anchor. Both meet where that heading is the one of the section.
-/
namespace LivePage

open Text LineKind

namespace EditableText

/-! ## The heading that an anchor names -/

/-- The first line of a kind. -/
def FirstLine (kinds : List LineKind) (p : LineKind → Bool) (n : Nat) : Prop :=
  (∃ k, kinds[n]? = some k ∧ p k = true) ∧ ∀ j < n, ∀ k, kinds[j]? = some k → p k = false

/-- The heading that an anchor names: the first one with that id or, where no author wrote the id, the first one with
that text. -/
def Names (kinds : List LineKind) (anchor : String) (n : Nat) : Prop :=
  FirstLine kinds (hasAnchor anchor true) n ∨
    (FirstLine kinds (hasAnchor anchor false) n ∧ ∀ k ∈ kinds, hasAnchor anchor true k = false)

theorem findIdx?_eq_some_iff_firstLine {kinds : List LineKind} {p : LineKind → Bool} {n : Nat} :
    kinds.findIdx? p = some n ↔ FirstLine kinds p n := by
  rw [List.findIdx?_eq_some_iff_getElem]
  constructor
  · rintro ⟨hn, hp, hbefore⟩
    refine ⟨⟨_, List.getElem?_eq_getElem hn, hp⟩, fun j hj k hk => ?_⟩
    obtain ⟨-, rfl⟩ := List.getElem?_eq_some_iff.1 hk
    simpa using hbefore j hj
  · rintro ⟨⟨k, hk, hp⟩, hbefore⟩
    obtain ⟨hn, rfl⟩ := List.getElem?_eq_some_iff.1 hk
    refine ⟨hn, hp, fun j hj => ?_⟩
    simp [hbefore j hj _ (List.getElem?_eq_getElem (hj.trans hn))]

variable {t : EditableText} {anchor : String} {n : Nat}

theorem headingLine?_eq_some_iff : t.headingLine? anchor = some n ↔ Names t.kinds anchor n := by
  rw [headingLine?, Option.or_eq_some_iff, findIdx?_eq_some_iff_firstLine, findIdx?_eq_some_iff_firstLine,
    List.findIdx?_eq_none_iff]
  exact or_congr_right and_comm

theorem isHeading_of_hasAnchor {explicit : Bool} {k : LineKind} (h : hasAnchor anchor explicit k = true) :
    k.isHeading = true := by
  cases k with
  | heading _ _ _ _ => rfl
  | _ => cases h

theorem Names.exists_heading {kinds : List LineKind} (h : Names kinds anchor n) :
    ∃ k, kinds[n]? = some k ∧ k.isHeading = true := by
  rcases h with ⟨⟨k, hk, hp⟩, -⟩ | ⟨⟨⟨k, hk, hp⟩, -⟩, -⟩
  · exact ⟨k, hk, isHeading_of_hasAnchor hp⟩
  · exact ⟨k, hk, isHeading_of_hasAnchor hp⟩

/-- The section of a source's anchor. -/
theorem section?_eq_ok_iff {stop : Nat} :
    t.section? ("#" ++ anchor) = .ok (n, stop) ↔
      Names t.kinds anchor n ∧ stop = n + 1 + (contentUnder t.kinds n).length := by
  have hlist : ("#" ++ anchor).toList = '#' :: anchor.toList := by rw [String.toList_append]; rfl
  simp only [section?, hlist, String.ofList_toList]
  rw [← headingLine?_eq_some_iff]
  cases t.headingLine? anchor with
  | none => simp
  | some h =>
    simp only [Except.ok.injEq, Prod.mk.injEq, Option.some.injEq]
    exact and_congr_right fun hn => by rw [hn, contentUnder]; exact eq_comm

/-- The lines of the items that are read by an anchor are the task lines under the heading that it names. -/
theorem readTasks_eq_ok_iff {source : String} {lines : List Nat} :
    (∃ items, readTasks source ("#" ++ anchor) = .ok items ∧ items.map (·.line) = lines) ↔
      ∃ n, Names (ofText source).kinds anchor n ∧ (taskLines (ofText source).kinds n).map (· + 1) = lines := by
  have hlines (n : Nat) : (((ofText source).items n (n + 1 + (contentUnder (ofText source).kinds n).length)).map
      (·.1)).map (·.line) = (taskLines (ofText source).kinds n).map (· + 1) := by
    rw [List.map_map, taskLines]
    have h := items_lines source n (n + 1 + (contentUnder (ofText source).kinds n).length)
    rwa [Nat.add_sub_cancel_left] at h
  constructor
  · rintro ⟨items, hread, rfl⟩
    rw [readTasks] at hread
    cases hsection : (ofText source).section? ("#" ++ anchor) with
    | error e => rw [hsection] at hread; cases hread
    | ok found =>
      obtain ⟨n, stop⟩ := found
      obtain ⟨hn, rfl⟩ := section?_eq_ok_iff.1 hsection
      rw [hsection] at hread
      obtain rfl := Except.ok.inj hread
      exact ⟨n, hn, (hlines n).symm⟩
  · rintro ⟨n, hn, rfl⟩
    refine ⟨_, ?_, hlines n⟩
    rw [readTasks, section?_eq_ok_iff.2 ⟨hn, rfl⟩]
    rfl

/-- Cutting a text into lines for editing keeps the task lines under a heading. -/
theorem taskLines_ofText (text : String) (heading : Nat) :
    taskLines (ofText text).kinds heading = taskLines (lineKinds text) heading := by
  refine (sorted_taskLines _ _).eq_of_mem_iff (sorted_taskLines _ _) fun i => ?_
  simp only [mem_taskLines_iff]
  rw [kinds_eq_task_iff]
  refine and_congr_right fun _ => and_congr_right fun htask => ?_
  have hi := (List.getElem?_eq_some_iff.1 ((kinds_eq_task_iff text i).2 htask)).1
  refine forall_congr' fun j => forall_congr' fun _ => forall_congr' fun hj => ?_
  have hlt : j < (linesWithEnds text.toList).length := by
    have := length_kinds text
    exact hj.trans (Nat.lt_of_lt_of_le hi this)
  rw [ofText, List.getElem?_take_of_lt hlt]

theorem mem_items {source : String} {item : TaskItem} {parts : TaskItem.Parts}
    (h : (item, parts) ∈ (ofText source).items n (n + 1 + (contentUnder (ofText source).kinds n).length)) :
    ∃ i ∈ taskLines (ofText source).kinds n, item.line = i + 1 := by
  have hlines := items_lines source n (n + 1 + (contentUnder (ofText source).kinds n).length)
  rw [Nat.add_sub_cancel_left] at hlines
  have hmem : item.line ∈ (taskLines (ofText source).kinds n).map (· + 1) := by
    rw [taskLines, ← hlines]
    exact List.mem_map_of_mem (f := (·.1.line)) h
  obtain ⟨i, hi, heq⟩ := List.mem_map.1 hmem
  exact ⟨i, hi, heq.symm⟩

/-! ## Edits -/

/-- Every item that is read can be toggled, which changes one of the task lines. -/
theorem toggleTask_eq_ok {source : String} (hn : Names (ofText source).kinds anchor n) {items : List TaskItem}
    (hread : readTasks source ("#" ++ anchor) = .ok items) {item : TaskItem} (hitem : item ∈ items) :
    ∃ i ∈ taskLines (ofText source).kinds n, ∃ before mark,
      toggleTask source ("#" ++ anchor) item.id = .ok ((ofText source).replaceLine i (setMark before mark)) := by
  have hsection := section?_eq_ok_iff.2 ⟨hn, rfl⟩
  rw [readTasks, hsection] at hread
  obtain rfl := Except.ok.inj hread
  obtain ⟨pair, hpair, rfl⟩ := List.mem_map.1 hitem
  obtain ⟨⟨first, parts⟩, hfirst⟩ : ∃ p, ((ofText source).items n _).find? (·.1.id == pair.1.id) = some p :=
    Option.isSome_iff_exists.1 (List.find?_isSome.2 ⟨pair, hpair, beq_self_eq_true _⟩)
  obtain ⟨i, hi, hline⟩ := mem_items (List.mem_of_find?_eq_some hfirst)
  refine ⟨i, hi, parts.before, if first.done then ' ' else 'x', ?_⟩
  simp only [toggleTask, hsection, bind, Except.bind, hfirst, hline]
  rfl

/-- A heading is left when blank lines are dropped from the end of its section. -/
theorem length_dropBlankEnd {kinds : List LineKind} {k : LineKind} {stop : Nat} (hk : kinds[n]? = some k)
    (hheading : k.isHeading = true) (hstop : n < stop) :
    1 ≤ (addTask.dropBlankEnd ((kinds.take stop).drop n)).length ∧
    (addTask.dropBlankEnd ((kinds.take stop).drop n)).length ≤ stop - n := by
  change 1 ≤ (((kinds.take stop).drop n).rdropWhile (· == .blank)).length ∧
    (((kinds.take stop).drop n).rdropWhile (· == .blank)).length ≤ stop - n
  have hmem : k ∈ (kinds.take stop).drop n := by
    refine List.mem_iff_getElem?.2 ⟨0, ?_⟩
    rw [List.getElem?_drop, Nat.add_zero, List.getElem?_take_of_lt hstop, hk]
  constructor
  · rw [Nat.one_le_iff_ne_zero, ne_eq, List.length_eq_zero_iff, List.rdropWhile_eq_nil_iff]
    intro hblank
    obtain rfl := beq_iff_eq.1 (hblank k hmem)
    cases hheading
  · have := (List.rdropWhile_prefix (· == LineKind.blank) ((kinds.take stop).drop n)).length_le
    rw [List.length_drop, List.length_take] at this
    omega

/-- A line of text can be added as an item, after the heading or a line under it. -/
theorem addTask_eq_ok {source text : String} (hn : Names (ofText source).kinds anchor n)
    (hne : trim text.toList ≠ []) (hline : ∀ c ∈ trim text.toList, isLineEnd c = false) :
    ∃ i newline, n ≤ i ∧ i < n + 1 + (contentUnder (ofText source).kinds n).length ∧
      addTask source ("#" ++ anchor) text =
        .ok ((ofText source).replaceLine i (appendItem newline (trim text.toList))) := by
  have hsection := section?_eq_ok_iff.2 ⟨hn, rfl⟩
  obtain ⟨k, hk, hheading⟩ := hn.exists_heading
  have hvalid : ((trim text.toList).isEmpty || (trim text.toList).any isLineEnd) = false := by
    simpa [hne] using hline
  rw [addTask]
  simp only [hvalid, hsection]
  obtain ⟨hpos, hle⟩ := length_dropBlankEnd hk hheading
    (show n < n + 1 + (contentUnder (ofText source).kinds n).length by omega)
  exact ⟨_, _, by dsimp only; omega, by dsimp only; omega, rfl⟩

end EditableText

/-! ## Served by its anchor -/

namespace TaskSection

open EditableText

section
variable (source : String) (x : Extracted) (s : TaskSection)

/-- The lines of a document, counted from zero, on which the items of a section of its body stand. -/
def itemLines : List Nat := (taskLines (lineKinds x.body) s.headingLine).map (· + (x.bodyLine - 1))

/-- Reading by the anchor of a section succeeds and gives the items of the section in order, all of them and no
others. -/
def Reads : Prop :=
  ∃ items, readTasks source ("#" ++ s.anchor) = .ok items ∧ items.map (·.line) = (s.itemLines x).map (· + 1)

/-- Reading by the anchor of a section gives its items, and edits by the anchor change one line of the section. -/
structure Serves : Prop where
  reads : s.Reads source x
  toggles : ∀ items, readTasks source ("#" ++ s.anchor) = .ok items → ∀ item ∈ items, ∃ i ∈ s.itemLines x,
    ∃ before mark, toggleTask source ("#" ++ s.anchor) item.id =
      .ok ((EditableText.ofText source).replaceLine i (setMark before mark))
  adds : ∀ text, trim text.toList ≠ [] → (∀ c ∈ trim text.toList, isLineEnd c = false) → ∃ i newline,
    s.headingLine ≤ i ∧ i < s.endLine ∧ addTask source ("#" ++ s.anchor) text =
      .ok ((EditableText.ofText source).replaceLine (i + (x.bodyLine - 1)) (appendItem newline (trim text.toList)))

/-- The lines of the body are of the kinds that they have without the header. -/
def KeepsKinds : Prop := (lineKinds source).drop (x.bodyLine - 1) = lineKinds x.body

end

variable {decode : String → Except DecodeFault Header} {source : String} {x : Extracted} {s : TaskSection}

/-- Without a header the body is the document. -/
theorem keepsKinds_of_no_header (hx : extractWith decode source = .ok x) (h : x.bodyLine = 1) :
    KeepsKinds source x := by
  rcases extractWith_eq_ok hx with ⟨hbody, -⟩ | ⟨opening, header, closing, body, hlines, -, hline⟩
  · rw [KeepsKinds, h, hbody]; rfl
  · have hcount := (linesWithEnds_eq_cons hlines).2 (by simp)
    simp only [List.cons_append, List.flatten_cons, List.count_append, hcount] at hline
    omega

/-- What the anchor of a section reads is found on the task lines under the heading that the anchor names. -/
theorem reads_iff : s.Reads source x ↔
    ∃ n, Names (ofText source).kinds s.anchor n ∧ taskLines (ofText source).kinds n = s.itemLines x := by
  rw [Reads, readTasks_eq_ok_iff]
  exact exists_congr fun n => and_congr_right fun _ =>
    (List.map_injective_iff.2 fun _ _ h => Nat.succ.inj h).eq_iff

theorem exists_mem_itemLines (hs : IsSection (lineKinds x.body) s) : ∃ i, i ∈ s.itemLines x := by
  obtain ⟨i, hi⟩ := exists_mem_taskLines hs.item
  exact ⟨_, List.mem_map_of_mem hi⟩

section
variable (hkinds : KeepsKinds source x) (hs : IsSection (lineKinds x.body) s)
include hkinds

/-- In the document a section has the item lines that it has in the body. -/
theorem KeepsKinds.taskLines_eq :
    taskLines (ofText source).kinds (s.headingLine + (x.bodyLine - 1)) = s.itemLines x := by
  rw [taskLines_ofText, itemLines, ← hkinds, taskLines_drop]

include hs

/-- Where a header leaves kinds alone, the anchor serves its section if it names the heading of the section. -/
theorem KeepsKinds.serves (hn : Names (ofText source).kinds s.anchor (s.headingLine + (x.bodyLine - 1))) :
    s.Serves source x where
  reads := reads_iff.2 ⟨_, hn, hkinds.taskLines_eq⟩
  toggles items hread item hitem := hkinds.taskLines_eq (s := s) ▸ toggleTask_eq_ok hn hread hitem
  adds text hne hline := by
    obtain ⟨i, newline, h1, h2, hadd⟩ := addTask_eq_ok hn hne hline
    have hle := length_contentUnder_take_le (lineKinds source) (linesWithEnds source.toList).length
      (s.headingLine + (x.bodyLine - 1))
    rw [← contentUnder_drop (lineKinds source), hkinds] at hle
    have hend := hs.endLine
    change i < _ + 1 + (contentUnder ((lineKinds source).take (linesWithEnds source.toList).length) _).length at h2
    obtain ⟨j, rfl⟩ : ∃ j, i = j + (x.bodyLine - 1) := ⟨i - (x.bodyLine - 1), by omega⟩
    exact ⟨j, newline, by omega, by omega, hadd⟩

/-- An anchor that reads the items of its section names the heading over them. -/
theorem KeepsKinds.names (hread : s.Reads source x) :
    Names (ofText source).kinds s.anchor (s.headingLine + (x.bodyLine - 1)) := by
  obtain ⟨n, hn, hlines⟩ := reads_iff.1 hread
  obtain ⟨i, hi⟩ := exists_mem_itemLines (x := x) hs
  have hown := hkinds.taskLines_eq (s := s) ▸ hi
  obtain ⟨k, hk, hheading⟩ := hn.exists_heading
  obtain ⟨explicit, hget⟩ := hs.heading
  rw [← hkinds, List.getElem?_drop, Nat.add_comm] at hget
  have hlt : s.headingLine + (x.bodyLine - 1) < (linesWithEnds source.toList).length := by
    have hlen := length_kinds source
    obtain ⟨hlt, htask, -⟩ := mem_taskLines_iff.1 hown
    exact hlt.trans (Nat.lt_of_lt_of_le (List.getElem?_eq_some_iff.1 htask).1 hlen)
  have hown' : (ofText source).kinds[s.headingLine + (x.bodyLine - 1)]? = _ :=
    (List.getElem?_take_of_lt hlt).trans hget
  rwa [← heading_eq_of_taskLines hk hheading hown' rfl (hlines ▸ hi) hown]

end

/-- **When a replaced section is served by its anchor.** The source of a section reads its items just where the
heading that the anchor names has its item lines under it. Where a header leaves the kinds of the body's lines alone, as
it does if there is none, reads and edits are those of the section just where the anchor names its own heading: no heading
of the file with that id, or before it with that text, takes its place. -/
theorem serves_iff_names (hx : extractWith decode source = .ok x) (hs : s ∈ Synthesis.replaced x.body) :
    (linesWithEnds source.toList).drop (x.bodyLine - 1) = linesWithEnds x.body.toList ∧
    (s.Reads source x ↔
      ∃ n, Names (ofText source).kinds s.anchor n ∧ taskLines (ofText source).kinds n = s.itemLines x) ∧
    (KeepsKinds source x →
      (s.Serves source x ↔ Names (ofText source).kinds s.anchor (s.headingLine + (x.bodyLine - 1)))) ∧
    (x.bodyLine = 1 → KeepsKinds source x) := by
  have hdetect := (mem_of_mem_withOwnAnchor hs).1
  have hsection := mem_detect_iff.1 hdetect
  have hbody : x.body ≠ "" := fun h => by rw [h] at hdetect; exact absurd hdetect List.not_mem_nil
  exact ⟨linesWithEnds_body hx hbody, reads_iff, fun hkinds =>
    ⟨fun h => hkinds.names hsection h.reads, hkinds.serves hsection⟩, keepsKinds_of_no_header hx⟩

/-- Below a header, a section under the first heading of its text is served by its anchor. -/
theorem section_below_header_served :
    Serves "---\n---\n# A\n- [ ] b" { body := "# A\n- [ ] b", bodyOffset := 8, bodyLine := 3 }
      ⟨"A", "a", 1, 0, 1, 2⟩ := by
  have hx : extractWith (fun _ => .ok {}) "---\n---\n# A\n- [ ] b" =
      .ok { body := "# A\n- [ ] b", bodyOffset := 8, bodyLine := 3 } := rfl
  have hs : ⟨"A", "a", 1, 0, 1, 2⟩ ∈ Synthesis.replaced "# A\n- [ ] b" := by decide +kernel
  have hkinds : (lineKinds "---\n---\n# A\n- [ ] b").drop 2 = lineKinds "# A\n- [ ] b" := by decide +kernel
  have hnames : (EditableText.ofText "---\n---\n# A\n- [ ] b").headingLine? "a" = some 2 := by decide +kernel
  exact ((serves_iff_names hx hs).2.2.1 hkinds).2 (headingLine?_eq_some_iff.1 hnames)

/-- Of two headings with one text the anchor names the first; here that one has no items, and the second is
replaced. -/
theorem earlier_heading_takes_anchor :
    extractWith (fun _ => .ok {}) "# A\ntext\n\n# A\n- [ ] two\n" = .ok { body := "# A\ntext\n\n# A\n- [ ] two\n" } ∧
    ⟨"A", "a", 1, 3, 4, 6⟩ ∈ Synthesis.replaced "# A\ntext\n\n# A\n- [ ] two\n" ∧
    (readTasks "# A\ntext\n\n# A\n- [ ] two\n" "#a").toOption = some [] ∧
    ¬ Reads "# A\ntext\n\n# A\n- [ ] two\n" { body := "# A\ntext\n\n# A\n- [ ] two\n" } ⟨"A", "a", 1, 3, 4, 6⟩ := by
  have hs : ⟨"A", "a", 1, 3, 4, 6⟩ ∈ Synthesis.replaced "# A\ntext\n\n# A\n- [ ] two\n" := by decide +kernel
  have hread : (readTasks "# A\ntext\n\n# A\n- [ ] two\n" "#a").toOption = some [] := by decide +kernel
  refine ⟨rfl, hs, hread, ?_⟩
  rintro ⟨items, hitems, hlines⟩
  obtain ⟨i, hi⟩ := exists_mem_itemLines (x := { body := "# A\ntext\n\n# A\n- [ ] two\n" })
    (mem_detect_iff.1 (mem_of_mem_withOwnAnchor hs).1)
  change readTasks _ "#a" = _ at hitems
  rw [hitems] at hread
  obtain rfl := Option.some.inj hread
  rw [List.map_nil, eq_comm, List.map_eq_nil_iff] at hlines
  rw [hlines] at hi
  exact absurd hi List.not_mem_nil

end TaskSection

end LivePage
