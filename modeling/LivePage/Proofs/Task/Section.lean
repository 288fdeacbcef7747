import LivePage.Proofs.Task.Line
import LivePage.Task.Synthesis
import Mathlib.Data.List.Sort
import Mathlib.Tactic.SplitIfs
/-!
# What a section is

A section is known by its heading line: what stands under it reaches to the next heading. Which sections are task
sections is said here without the search that finds them.
-/
namespace LivePage

open Text

/-! ## Under a heading -/

namespace LineKind

/-- What stands under a heading, up to the next one. -/
def contentUnder (kinds : List LineKind) (heading : Nat) : List LineKind :=
  (kinds.drop (heading + 1)).takeWhile (!·.isHeading)

/-- The task lines under a heading, in ascending order. -/
def taskLines (kinds : List LineKind) (heading : Nat) : List Nat :=
  (List.range' (heading + 1) (contentUnder kinds heading).length).filter fun i => kinds[i]? == some .task

theorem lt_length_takeWhile_iff {α : Type} {p : α → Bool} {l : List α} {n : Nat} :
    n < (l.takeWhile p).length ↔ ∀ j ≤ n, ∃ a, l[j]? = some a ∧ p a = true := by
  induction l generalizing n with
  | nil => simpa using ⟨0, Nat.zero_le n⟩
  | cons a l ih =>
    by_cases ha : p a = true
    · rw [List.takeWhile_cons_of_pos ha]
      constructor
      · rintro hn (_ | j) hj
        · exact ⟨a, rfl, ha⟩
        · exact ih.1 (Nat.lt_of_lt_of_le (Nat.lt_succ_self j) (by simp only [List.length_cons] at hn; omega)) j le_rfl
      · intro h
        cases n with
        | zero => simp
        | succ n => simpa using ih.2 fun j hj => h (j + 1) (by omega)
    · rw [List.takeWhile_cons_of_neg ha]
      refine ⟨fun h => absurd h (Nat.not_lt_zero _), fun h => ?_⟩
      obtain ⟨b, hb, hpb⟩ := h 0 (Nat.zero_le _)
      obtain rfl := Option.some.inj hb
      exact absurd hpb ha

variable {kinds : List LineKind} {heading i : Nat}

/-- A line stands under a heading if there is no heading from the next line to it. -/
theorem lt_contentUnder_iff :
    i < (contentUnder kinds heading).length ↔
      ∀ j ≤ i, ∃ k, kinds[heading + 1 + j]? = some k ∧ k.isHeading = false := by
  simp only [contentUnder, lt_length_takeWhile_iff, List.getElem?_drop, Bool.not_eq_true']

theorem getElem?_contentUnder (h : i < (contentUnder kinds heading).length) :
    (contentUnder kinds heading)[i]? = kinds[heading + 1 + i]? := by
  obtain ⟨rest, hrest⟩ := List.takeWhile_prefix (l := kinds.drop (heading + 1)) (!·.isHeading)
  rw [← List.getElem?_drop, ← hrest]
  exact (List.getElem?_append_left h).symm

theorem mem_taskLines_iff :
    i ∈ taskLines kinds heading ↔ heading < i ∧ kinds[i]? = some .task ∧
      ∀ j, heading < j → j < i → ∀ k, kinds[j]? = some k → k.isHeading = false := by
  simp only [taskLines, List.mem_filter, List.mem_range'_1, beq_iff_eq]
  constructor
  · rintro ⟨⟨hlt, hi⟩, htask⟩
    refine ⟨hlt, htask, fun j h1 h2 k hk => ?_⟩
    have hin : i - (heading + 1) < (contentUnder kinds heading).length := by omega
    obtain ⟨k', hk', hno⟩ := lt_contentUnder_iff.1 hin (j - (heading + 1)) (by omega)
    rw [show heading + 1 + (j - (heading + 1)) = j by omega, hk] at hk'
    obtain rfl := Option.some.inj hk'
    exact hno
  · rintro ⟨hlt, htask, hno⟩
    have hlength : i < kinds.length := (List.getElem?_eq_some_iff.1 htask).1
    have hin : i - (heading + 1) < (contentUnder kinds heading).length := lt_contentUnder_iff.2 fun j hj => by
      rcases (show heading + 1 + j < i ∨ heading + 1 + j = i by omega) with hji | hji
      · have hget := List.getElem?_eq_getElem (show heading + 1 + j < kinds.length by omega)
        exact ⟨_, hget, hno _ (by omega) hji _ hget⟩
      · exact ⟨.task, hji ▸ htask, rfl⟩
    exact ⟨⟨hlt, by omega⟩, htask⟩

theorem sorted_taskLines (kinds : List LineKind) (heading : Nat) :
    (taskLines kinds heading).Pairwise (· < ·) :=
  (List.pairwise_lt_range').filter _

theorem exists_mem_taskLines (h : .task ∈ contentUnder kinds heading) : ∃ i, i ∈ taskLines kinds heading := by
  obtain ⟨i, hi⟩ := List.mem_iff_getElem?.1 h
  have hlt := (List.getElem?_eq_some_iff.1 hi).1
  rw [getElem?_contentUnder hlt] at hi
  refine ⟨heading + 1 + i, List.mem_filter.2 ⟨List.mem_range'_1.2 ?_, by simpa using hi⟩⟩
  omega

theorem contentUnder_drop (kinds : List LineKind) (n heading : Nat) :
    contentUnder (kinds.drop n) heading = contentUnder kinds (heading + n) := by
  rw [contentUnder, contentUnder, List.drop_drop]
  congr 2
  omega

/-- Task lines are counted from the start of the text. -/
theorem taskLines_drop (kinds : List LineKind) (n heading : Nat) :
    (taskLines (kinds.drop n) heading).map (· + n) = taskLines kinds (heading + n) := by
  have hrange (m : Nat) : List.range' (heading + n + 1) m = (List.range' (heading + 1) m).map (· + n) := by
    simp only [Nat.add_comm _ n, List.map_add_range', Nat.add_assoc]
  rw [taskLines, taskLines, contentUnder_drop, hrange, List.filter_map]
  congr 2
  funext i
  simp [Nat.add_comm n i]

/-- A text cut short has no more lines under a heading. -/
theorem length_contentUnder_take_le (kinds : List LineKind) (n heading : Nat) :
    (contentUnder (kinds.take n) heading).length ≤ (contentUnder kinds heading).length := by
  by_contra h
  have hlt : (contentUnder kinds heading).length < (contentUnder kinds heading).length := by
    refine lt_contentUnder_iff.2 fun j hj => ?_
    obtain ⟨k, hk, hno⟩ := lt_contentUnder_iff.1 (not_le.1 h) j hj
    rw [List.getElem?_take] at hk
    split_ifs at hk
    exact ⟨k, hk, hno⟩
  exact absurd hlt (Nat.lt_irrefl _)

/-- Two headings with the same task lines under them, and at least one, are one heading. -/
theorem heading_eq_of_taskLines {other : Nat} {k k' : LineKind} (hk : kinds[heading]? = some k)
    (hh : k.isHeading = true) (hk' : kinds[other]? = some k') (hh' : k'.isHeading = true)
    (h : i ∈ taskLines kinds heading) (h' : i ∈ taskLines kinds other) : heading = other := by
  obtain ⟨hlt, -, hno⟩ := mem_taskLines_iff.1 h
  obtain ⟨hlt', -, hno'⟩ := mem_taskLines_iff.1 h'
  rcases Nat.lt_trichotomy heading other with hlt2 | heq | hlt2
  · have := hno other hlt2 hlt' k' hk'
    simp [hh'] at this
  · exact heq
  · have := hno' heading hlt2 hlt k hk
    simp [hh] at this

end LineKind

/-! ## Task sections -/

namespace TaskSection

open LineKind

/-- A heading that has nothing but task items and blank lines under it, and at least one item. -/
structure IsSection (kinds : List LineKind) (s : TaskSection) : Prop where
  heading : ∃ explicit, kinds[s.headingLine]? = some (.heading s.level s.heading s.anchor explicit)
  content : ∀ k ∈ contentUnder kinds s.headingLine, k = .task ∨ k = .blank
  item : .task ∈ contentUnder kinds s.headingLine
  firstItem : s.firstItem = s.headingLine + 1 + (contentUnder kinds s.headingLine).idxOf .task
  endLine : s.endLine = s.headingLine + 1 + (contentUnder kinds s.headingLine).length

/-- A section found from a line on has its heading there, or is found from the next line on. -/
theorem mem_inLines_cons {before rest : List LineKind} {kind : LineKind} {s : TaskSection} :
    s ∈ inLines before.length (kind :: rest) ↔
      (s.headingLine = before.length ∧ IsSection (before ++ kind :: rest) s) ∨
        s ∈ inLines (before.length + 1) rest := by
  have hkind : (before ++ kind :: rest)[before.length]? = some kind := by simp
  have hunder : contentUnder (before ++ kind :: rest) before.length = rest.takeWhile (!·.isHeading) := by
    rw [contentUnder, ← List.singleton_append, ← List.append_assoc,
      List.drop_left' (by rw [List.length_append, List.length_singleton])]
  cases kind with
  | heading level text anchor explicit =>
    simp only [inLines]
    split_ifs with hall
    · simp only [Bool.and_eq_true, List.all_eq_true, Bool.or_eq_true, beq_iff_eq, List.contains_iff_mem] at hall
      rw [List.mem_cons]
      refine or_congr_left ⟨?_, ?_⟩
      · rintro rfl
        exact ⟨rfl, ⟨explicit, hkind⟩, hunder ▸ hall.1, hunder ▸ hall.2, by rw [hunder], by rw [hunder]⟩
      · rintro ⟨hline, ⟨explicit', hhead⟩, -, -, hfirst, hend⟩
        rw [hline, hkind, Option.some.injEq, LineKind.heading.injEq] at hhead
        rw [hline, hunder] at hfirst hend
        obtain ⟨rfl, rfl, rfl, -⟩ := hhead
        cases s
        simp only [TaskSection.mk.injEq, true_and]
        exact ⟨hline, hfirst, hend⟩
    · refine ⟨Or.inr, fun h => h.resolve_left ?_⟩
      rintro ⟨hline, -, hcontent, hitem, -, -⟩
      rw [hline, hunder] at hcontent hitem
      simp only [Bool.and_eq_true, List.all_eq_true, Bool.or_eq_true, beq_iff_eq, List.contains_iff_mem] at hall
      exact hall ⟨hcontent, hitem⟩
  | _ =>
    refine ⟨Or.inr, fun h => h.resolve_left ?_⟩
    rintro ⟨hline, ⟨explicit', hhead⟩, -⟩
    rw [hline, hkind] at hhead
    cases hhead

theorem mem_inLines_iff_from (before after : List LineKind) (s : TaskSection) :
    s ∈ inLines before.length after ↔ before.length ≤ s.headingLine ∧ IsSection (before ++ after) s := by
  induction after generalizing before with
  | nil =>
    refine ⟨fun h => absurd h List.not_mem_nil, ?_⟩
    rintro ⟨hle, ⟨explicit, hget⟩, -⟩
    rw [List.append_nil, List.getElem?_eq_none hle] at hget
    cases hget
  | cons kind rest ih =>
    have hlater := ih (before ++ [kind])
    rw [List.length_append, List.length_singleton, List.append_assoc, List.singleton_append] at hlater
    rw [mem_inLines_cons, hlater]
    constructor
    · rintro (⟨hline, hs⟩ | ⟨hle, hs⟩)
      · exact ⟨hline.ge, hs⟩
      · exact ⟨by omega, hs⟩
    · rintro ⟨hle, hs⟩
      rcases (show s.headingLine = before.length ∨ before.length + 1 ≤ s.headingLine by omega) with hline | hle
      · exact Or.inl ⟨hline, hs⟩
      · exact Or.inr ⟨hle, hs⟩

/-- The search finds the task sections, all of them and nothing else. -/
theorem mem_inLines_iff {kinds : List LineKind} {s : TaskSection} : s ∈ inLines 0 kinds ↔ IsSection kinds s := by
  have h := mem_inLines_iff_from [] kinds s
  simpa using h

theorem mayHoldTask_of_task {body : String} {i : Nat} (h : (lineKinds body)[i]? = some .task) :
    mayHoldTask body = true := by
  have hitem := (lineKinds_fits body).isItem i h
  obtain ⟨mark, hmark, hpiece⟩ := TaskItem.exists_mark_of_isItem hitem
  have hline : (TextLines.ofText body.toList).line i <:+: body.toList := by
    have hi := (List.getElem?_eq_some_iff.1 h).1
    rw [(lineKinds_fits body).length] at hi
    refine infix_of_mem_splitOn ?_
    rw [TextLines.line, List.getD_eq_getElem?_getD, List.getElem?_eq_getElem hi]
    exact List.getElem_mem hi
  have hoccurs := occursIn_iff.2 (hpiece.trans hline)
  simp only [TaskItem.isMark, Bool.or_eq_true, beq_iff_eq] at hmark
  rw [mayHoldTask, List.any_eq_true]
  rcases hmark with (rfl | rfl) | rfl
  · exact ⟨"[ ]", by simp, hoccurs⟩
  · exact ⟨"[x]", by simp, hoccurs⟩
  · exact ⟨"[X]", by simp, hoccurs⟩

/-- Looking for a mark first loses no section. -/
theorem detect_eq (body : String) : detect body = inLines 0 (lineKinds body) := by
  unfold detect
  split_ifs with hmay
  · rfl
  · refine (List.eq_nil_iff_forall_not_mem.2 fun s hs => hmay ?_).symm
    obtain ⟨i, hi⟩ := exists_mem_taskLines (mem_inLines_iff.1 hs).item
    exact mayHoldTask_of_task (mem_taskLines_iff.1 hi).2.1

/-- The task sections of a body are those among its lines, all of them and nothing else. -/
theorem mem_detect_iff {body : String} {s : TaskSection} : s ∈ detect body ↔ IsSection (lineKinds body) s := by
  rw [detect_eq, mem_inLines_iff]

/-! ## Sections of parts of a text -/

theorem sorted_inLines (i : Nat) (kinds : List LineKind) :
    (∀ s ∈ inLines i kinds, i ≤ s.headingLine) ∧
    (inLines i kinds).Pairwise fun s t => s.headingLine < t.headingLine := by
  induction kinds generalizing i with
  | nil => exact ⟨by simp [inLines], List.Pairwise.nil⟩
  | cons kind rest ih =>
    obtain ⟨hle, hsorted⟩ := ih (i + 1)
    have hlater : ∀ s ∈ inLines (i + 1) rest, i ≤ s.headingLine := fun s hs => (Nat.le_succ i).trans (hle s hs)
    cases kind with
    | heading level text anchor explicit =>
      simp only [inLines]
      split_ifs
      · refine ⟨fun s hs => ?_, List.pairwise_cons.2 ⟨fun s hs => hle s hs, hsorted⟩⟩
        rcases List.mem_cons.1 hs with rfl | hs
        · exact le_rfl
        · exact hlater s hs
      · exact ⟨hlater, hsorted⟩
    | _ => exact ⟨hlater, hsorted⟩

theorem nodup_inLines (i : Nat) (kinds : List LineKind) : (inLines i kinds).Nodup :=
  (sorted_inLines i kinds).2.imp fun h heq => absurd (congrArg headingLine heq) (Nat.ne_of_lt h)

/-- Where lines are counted from does not matter to the anchors. -/
theorem anchors_inLines (i j : Nat) (kinds : List LineKind) :
    (inLines i kinds).map (·.anchor) = (inLines j kinds).map (·.anchor) := by
  induction kinds generalizing i j with
  | nil => rfl
  | cons kind rest ih =>
    cases kind with
    | heading level text anchor explicit =>
      simp only [inLines]
      split_ifs
      · rw [List.map_cons, List.map_cons, ih (i + 1) (j + 1)]
      · exact ih _ _
    | _ => exact ih _ _

theorem inLines_of_no_heading {kinds : List LineKind} (h : ∀ k ∈ kinds, k.isHeading = false) (i : Nat) :
    inLines i kinds = [] := by
  refine List.eq_nil_iff_forall_not_mem.2 fun s hs => ?_
  obtain ⟨explicit, hget⟩ := ((mem_inLines_iff_from (List.replicate i .blank) kinds s).1 (by simpa using hs)).2.heading
  obtain ⟨hle, -⟩ := (mem_inLines_iff_from (List.replicate i .blank) kinds s).1 (by simpa using hs)
  rw [List.getElem?_append_right hle] at hget
  exact absurd (h _ (List.mem_of_getElem? hget)) (by simp [isHeading])

/-- Whether lines end the section before them: the first one is a heading, or there is none. -/
def EndsSection (kinds : List LineKind) : Prop := ∀ k ∈ kinds.head?, k.isHeading = true

/-- No section reaches over a heading. -/
theorem inLines_append {before after : List LineKind} (h : EndsSection after) (i : Nat) :
    inLines i (before ++ after) = inLines i before ++ inLines (i + before.length) after := by
  induction before generalizing i with
  | nil => rfl
  | cons kind rest ih =>
    have hlater : inLines (i + 1) (rest ++ after) =
        inLines (i + 1) rest ++ inLines (i + (kind :: rest).length) after := by
      rw [ih (i + 1), List.length_cons, Nat.add_assoc, Nat.add_comm 1]
    have hcontent : (rest ++ after).takeWhile (!·.isHeading) = rest.takeWhile (!·.isHeading) := by
      have hafter : after.takeWhile (!·.isHeading) = [] := by
        cases after with
        | nil => rfl
        | cons k ks => rw [List.takeWhile_cons_of_neg]; simpa using h k rfl
      rw [List.takeWhile_append, hafter, List.append_nil]
      split_ifs with hall
      · rw [(List.takeWhile_prefix _).eq_of_length hall]
      · rfl
    cases kind with
    | heading level text anchor explicit =>
      simp only [List.cons_append, inLines, hcontent, hlater]
      split_ifs <;> rfl
    | _ => exact hlater

/-- The lines after a heading are those of its section and then those after it, which end it. -/
theorem drop_contentUnder (kinds : List LineKind) (heading : Nat) :
    kinds.drop (heading + 1) =
      contentUnder kinds heading ++ kinds.drop (heading + 1 + (contentUnder kinds heading).length) ∧
    EndsSection (kinds.drop (heading + 1 + (contentUnder kinds heading).length)) := by
  rw [← List.drop_drop (i := (contentUnder kinds heading).length), contentUnder]
  generalize kinds.drop (heading + 1) = l
  have hsplit := List.takeWhile_append_dropWhile (p := (!·.isHeading)) (l := l)
  have hrest : l.drop (l.takeWhile (!·.isHeading)).length = l.dropWhile (!·.isHeading) := by
    obtain h := congrArg (List.drop (l.takeWhile (!·.isHeading)).length) hsplit
    rw [← h, List.drop_left]
  rw [hrest]
  refine ⟨hsplit.symm, fun k hk => ?_⟩
  have := List.head?_dropWhile_not (!·.isHeading) l
  rw [Option.mem_def.1 hk] at this
  simpa using this

namespace IsSection

variable {kinds : List LineKind} {s : TaskSection}

/-- From its heading on, a text starts with the lines of a section, and what comes after them ends it. -/
theorem drop_headingLine (hs : IsSection kinds s) :
    ∃ explicit, kinds.drop s.headingLine =
      .heading s.level s.heading s.anchor explicit :: (contentUnder kinds s.headingLine ++ kinds.drop s.endLine) := by
  obtain ⟨explicit, hget⟩ := hs.heading
  obtain ⟨hline, hhead⟩ := List.getElem?_eq_some_iff.1 hget
  refine ⟨explicit, ?_⟩
  rw [hs.endLine, ← (drop_contentUnder kinds s.headingLine).1, ← hhead, List.getElem_cons_drop]

theorem endsSection (hs : IsSection kinds s) : EndsSection (kinds.drop s.endLine) := by
  rw [hs.endLine]
  exact (drop_contentUnder kinds s.headingLine).2

/-- From its heading on, a section is the first one that is found. -/
theorem inLines_drop (hs : IsSection kinds s) :
    inLines s.headingLine (kinds.drop s.headingLine) = s :: inLines s.endLine (kinds.drop s.endLine) := by
  obtain ⟨explicit, hdrop⟩ := hs.drop_headingLine
  have hno : ∀ k ∈ contentUnder kinds s.headingLine, k.isHeading = false :=
    fun k hk => by simpa using List.mem_takeWhile_imp hk
  have hall : (contentUnder kinds s.headingLine).takeWhile (!·.isHeading) = contentUnder kinds s.headingLine :=
    List.takeWhile_eq_self_iff.2 fun k hk => by simp [hno k hk]
  have hcond : ((contentUnder kinds s.headingLine).all (fun k => k == .task || k == .blank) &&
      (contentUnder kinds s.headingLine).contains .task) = true := by
    simpa [List.all_eq_true] using ⟨hs.content, hs.item⟩
  rw [hdrop, ← List.cons_append, inLines_append hs.endsSection, List.length_cons]
  simp only [inLines, hall, hcond, if_true, inLines_of_no_heading hno]
  rw [List.singleton_append, List.cons.injEq]
  refine ⟨?_, by rw [hs.endLine, Nat.add_assoc, Nat.add_comm 1]⟩
  have h1 := hs.firstItem
  have h2 := hs.endLine
  cases s
  simp only [TaskSection.mk.injEq, true_and]
  exact ⟨h1.symm, h2.symm⟩

/-- The first item of a section is on the first of its task lines. -/
theorem head?_taskLines (hs : IsSection kinds s) :
    (taskLines kinds s.headingLine).head? = some s.firstItem := by
  have hlt : (contentUnder kinds s.headingLine).idxOf .task < (contentUnder kinds s.headingLine).length :=
    List.idxOf_lt_length_iff.2 hs.item
  have hitem : kinds[s.firstItem]? = some .task := by
    rw [hs.firstItem, ← getElem?_contentUnder hlt, List.getElem?_eq_getElem hlt, List.getElem_idxOf]
  have hbefore : ∀ i ∈ List.range' (s.headingLine + 1) ((contentUnder kinds s.headingLine).idxOf .task),
      ¬ (kinds[i]? == some .task) = true := by
    intro i hi
    obtain ⟨j, hj, rfl⟩ := List.mem_range'.1 hi
    rw [Nat.one_mul, ← getElem?_contentUnder (hj.trans hlt), List.getElem?_eq_getElem (hj.trans hlt)]
    have := List.not_of_lt_findIdx hj
    simpa using this
  obtain ⟨n, hn⟩ := Nat.exists_eq_add_of_lt hlt
  rw [taskLines, hn, Nat.add_assoc, ← List.range'_append_1, List.filter_append, List.filter_eq_nil_iff.2 hbefore,
    List.nil_append, List.range'_succ, ← hs.firstItem, List.filter_cons_of_pos (by simpa using hitem)]
  rfl

end IsSection

/-- A section found from a line on is one of the whole text. -/
theorem isSection_of_mem_drop {kinds : List LineKind} {next : Nat} {s : TaskSection}
    (hs : s ∈ inLines next (kinds.drop next)) : next ≤ s.headingLine ∧ IsSection kinds s := by
  have hnext : next ≤ kinds.length := by
    by_contra h
    rw [List.drop_eq_nil_of_le (by omega)] at hs
    exact absurd hs List.not_mem_nil
  have htake : (kinds.take next).length = next := List.length_take_of_le hnext
  have h := (mem_inLines_iff_from (kinds.take next) (kinds.drop next) s).1 (by rwa [htake])
  rwa [htake, List.take_append_drop] at h

/-- A section cuts those of a text into the ones before it and the ones from its end on. -/
theorem inLines_eq_cut {kinds : List LineKind} {next : Nat} {s : TaskSection}
    (hs : s ∈ inLines next (kinds.drop next)) :
    inLines next (kinds.drop next) =
      inLines next ((kinds.take s.headingLine).drop next) ++ s :: inLines s.endLine (kinds.drop s.endLine) := by
  obtain ⟨hle, hsection⟩ := isSection_of_mem_drop hs
  obtain ⟨explicit, hdrop⟩ := hsection.drop_headingLine
  have hline : s.headingLine ≤ kinds.length := by
    have h := congrArg List.length hdrop
    rw [List.length_drop, List.length_cons] at h
    omega
  have hcut : kinds.drop next = (kinds.take s.headingLine).drop next ++ kinds.drop s.headingLine := by
    have h := List.take_append_drop (s.headingLine - next) (kinds.drop next)
    rw [List.drop_drop, Nat.add_sub_cancel' hle] at h
    rw [List.drop_take, h]
  conv_lhs => rw [hcut]
  rw [inLines_append (by rw [hdrop]; rintro k ⟨⟩; rfl), List.length_drop, List.length_take_of_le hline,
    Nat.add_sub_cancel' hle, hsection.inLines_drop]

/-! ## Sections with an anchor of their own -/

theorem mem_of_mem_withOwnAnchor {taken : List String} {l : List TaskSection} {s : TaskSection}
    (h : s ∈ withOwnAnchor taken l) : s ∈ l ∧ s.anchor ≠ "" := by
  induction l generalizing taken with
  | nil => exact absurd h List.not_mem_nil
  | cons a l ih =>
    rw [withOwnAnchor] at h
    split_ifs at h with hskip
    · exact ⟨List.mem_cons_of_mem _ (ih h).1, (ih h).2⟩
    · rcases List.mem_cons.1 h with rfl | h
      · refine ⟨List.mem_cons_self, fun hempty => hskip ?_⟩
        simp [hempty]
      · exact ⟨List.mem_cons_of_mem _ (ih h).1, (ih h).2⟩

end TaskSection

end LivePage
