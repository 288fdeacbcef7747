import LivePage.Proofs.Task.Item
import LivePage.Task.Edit
/-!
# Kinds that fit their lines

Whatever the events of a text are, they give each line one kind, and none is taken for a task that does not look like
a task item. So a text cut into lines for editing reads an item from each of its task lines.
-/
namespace LivePage

open Text Markdown

/-- One kind for each line, and task items only where the lines look like them. -/
structure TextLines.Fits (t : TextLines) (kinds : List LineKind) : Prop where
  length : kinds.length = t.lines.length
  isItem : ∀ i, kinds[i]? = some .task → TaskItem.isItem (t.line i) = true

/-- An event, the one with a number, opens a heading that gives a line its kind. Nothing but white space comes before the
heading on the line. -/
structure TextLines.Heads (t : TextLines) (events : List PlacedEvent) (n : Nat) (e : PlacedEvent) (i : Nat)
    (k : LineKind) : Prop where
  event : events[n]? = some e
  opens : ∃ level attributes, e.event = .start (.heading level attributes) ∧
    k = headingKind level attributes (headingText (events.drop (n + 1)))
  first : isBlankText (t.before e.span.start) = true
  line : t.lineOf e.span.start = i

namespace TextLines

theorem Heads.cons {t : TextLines} {events : List PlacedEvent} {n : Nat} {e : PlacedEvent} {i : Nat} {k : LineKind}
    (h : t.Heads events n e i k) (d : PlacedEvent) : t.Heads (d :: events) (n + 1) e i k :=
  ⟨h.event, h.opens, h.first, h.line⟩

theorem getElem?_setKinds (kind : LineKind) (first last : Nat) (kinds : List LineKind) (i : Nat) :
    (setKinds kind first last kinds)[i]? = kinds[i]?.map fun k => if first ≤ i ∧ i ≤ last then kind else k := by
  simp [setKinds]

theorem of_getElem?_setKinds {kind k : LineKind} {first last i : Nat} {kinds : List LineKind}
    (h : (setKinds kind first last kinds)[i]? = some k) : (k = kind ∧ first ≤ i ∧ i ≤ last) ∨ kinds[i]? = some k := by
  rw [getElem?_setKinds, Option.map_eq_some_iff] at h
  obtain ⟨k', hk', rfl⟩ := h
  split_ifs with hbetween
  · exact .inl ⟨rfl, hbetween⟩
  · exact .inr hk'

theorem headingKind_ne_task (level : Nat) (attributes : HeadingAttributes) (words : String) :
    headingKind level attributes words ≠ .task := by
  unfold headingKind
  dsimp only
  split <;> simp

section
variable {t : TextLines} {kinds : List LineKind}

theorem Fits.setKinds (h : t.Fits kinds) {kind : LineKind} {first last : Nat}
    (hkind : kind = .task → ∀ i, first ≤ i → i ≤ last → TaskItem.isItem (t.line i) = true) :
    t.Fits (setKinds kind first last kinds) := by
  refine ⟨by rw [LivePage.setKinds, List.length_mapIdx, h.length], fun i hi => ?_⟩
  rcases of_getElem?_setKinds hi with ⟨hk, hfirst, hlast⟩ | hi
  · exact hkind hk.symm i hfirst hlast
  · exact h.isItem i hi

theorem Fits.markHeading (h : t.Fits kinds) {span : Span} {kind : LineKind} (hkind : kind ≠ .task) :
    t.Fits (markHeading t span kind kinds) := by
  unfold LivePage.markHeading
  split_ifs
  · exact h
  · exact (h.setKinds fun hk => absurd hk hkind).setKinds (by simp)

/-- No event breaks the fit. -/
theorem Fits.markLines (h : t.Fits kinds) (inside : Bool) (events : List PlacedEvent) :
    t.Fits (markLines t inside events kinds) := by
  fun_induction LivePage.markLines t inside events kinds with
  | case1 => exact h
  | case2 e rest kinds ih => exact ih h
  | case3 e rest kinds _ _ ih => exact ih (h.setKinds (by simp))
  | case4 e rest kinds level attributes _ ih => exact ih (h.markHeading (headingKind_ne_task _ _ _))
  | case5 e rest kinds _ _ i ih =>
    refine ih ?_
    split_ifs with hitem
    · refine h.setKinds fun _ j h1 h2 => ?_
      obtain rfl : j = i := Nat.le_antisymm h2 h1
      exact hitem
    · exact h
  | case6 e rest kinds _ _ _ ih => exact ih h

/-- The line of a heading is that of an event which opens the heading. -/
theorem heading_of_markLines {i : Nat} {k : LineKind} (hk : k.isHeading = true) {inside : Bool}
    {events : List PlacedEvent} (h : (LivePage.markLines t inside events kinds)[i]? = some k) :
    kinds[i]? = some k ∨ ∃ n e, t.Heads events n e i k := by
  -- Only headings make lines headings.
  have hset {kind : LineKind} {first last : Nat} {kinds : List LineKind} (hkind : kind.isHeading = false)
      (h : (LivePage.setKinds kind first last kinds)[i]? = some k) : kinds[i]? = some k := by
    refine (of_getElem?_setKinds h).resolve_left fun hk' => ?_
    rw [hk'.1, hkind] at hk
    cases hk
  have hlater {d : PlacedEvent} {rest : List PlacedEvent} :
      (∃ n e, t.Heads rest n e i k) → ∃ n e, t.Heads (d :: rest) n e i k := fun ⟨n, e, hn⟩ => ⟨n + 1, e, hn.cons d⟩
  fun_induction LivePage.markLines t inside events kinds with
  | case1 => exact .inl h
  | case2 e rest kinds ih => exact (ih h).imp_right hlater
  | case3 e rest kinds _ _ ih => exact (ih h).imp (hset rfl) hlater
  | case4 e rest kinds level attributes he ih =>
    rcases ih h with hmark | hrest
    · unfold LivePage.markHeading at hmark
      split_ifs at hmark with hbefore
      · exact .inl hmark
      · refine (of_getElem?_setKinds (hset rfl hmark)).symm.imp_right fun ⟨hkind, hfirst, hlast⟩ => ⟨0, e, ?_⟩
        exact ⟨rfl, ⟨level, attributes, he, hkind⟩, by simpa using hbefore, Nat.le_antisymm hfirst hlast⟩
    · exact .inr (hlater hrest)
  | case5 e rest kinds _ _ _ ih =>
    refine (ih h).imp (fun hmark => ?_) hlater
    split_ifs at hmark
    · exact hset rfl hmark
    · exact hmark
  | case6 e rest kinds _ _ _ ih => exact (ih h).imp_right hlater

theorem fits_plain (t : TextLines) : t.Fits (t.lines.map .plain) where
  length := List.length_map _
  isItem i hi := by
    rw [List.getElem?_map, Option.map_eq_some_iff] at hi
    obtain ⟨line, -, hi⟩ := hi
    unfold LineKind.plain at hi
    split_ifs at hi

end

end TextLines

/-- The kinds of the lines of a text fit the lines. -/
theorem lineKinds_fits (text : String) : (TextLines.ofText text.toList).Fits (lineKinds text) :=
  (TextLines.fits_plain _).markLines _ _

/-- Each heading among the lines of a text is one that an event of the text opens. -/
theorem heading_of_lineKinds {text : String} {i : Nat} {k : LineKind} (hk : k.isHeading = true)
    (h : (lineKinds text)[i]? = some k) : ∃ n e, (TextLines.ofText text.toList).Heads (events text) n e i k := by
  refine (TextLines.heading_of_markLines hk h).resolve_left fun hplain => ?_
  rw [List.getElem?_map, Option.map_eq_some_iff] at hplain
  obtain ⟨line, -, rfl⟩ := hplain
  unfold LineKind.plain at hk
  split_ifs at hk <;> cases hk

namespace EditableText

/-- The number of lines is the number of kinds. -/
theorem length_kinds (text : String) : (ofText text).kinds.length ≤ (ofText text).lines.length :=
  List.length_take_le _ _

/-- A line is taken for a task for editing just where the text has a task line. -/
theorem kinds_eq_task_iff (text : String) (i : Nat) :
    (ofText text).kinds[i]? = some .task ↔ (lineKinds text)[i]? = some .task := by
  have hlast (h : (lineKinds text)[i]? = some .task) : i < (linesWithEnds text.toList).length := by
    by_contra hle
    have hitem := (lineKinds_fits text).isItem i h
    rw [TextLines.line, TextLines.ofText, splitOn_past_end (not_lt.1 hle)] at hitem
    cases hitem
  simp only [ofText, List.getElem?_take]
  split_ifs with hlt
  · exact Iff.rfl
  · exact ⟨by simp, fun h => absurd (hlast h) hlt⟩

/-- From every task line an item is read. -/
theorem itemAt?_eq_some {text : String} {i : Nat} (h : (ofText text).kinds[i]? = some .task) :
    ∃ item parts, (ofText text).itemAt? i = some (item, parts) ∧ item.line = i + 1 := by
  have hitem := (lineKinds_fits text).isItem i ((kinds_eq_task_iff text i).1 h)
  rw [itemAt?, if_pos h, ofText, dropLineEnd_linesWithEnds]
  exact TaskItem.read?_dropLineEnd hitem (i + 1)

theorem itemAt?_eq_none {t : EditableText} {i : Nat} (h : t.kinds[i]? ≠ some .task) : t.itemAt? i = none :=
  if_neg h

/-- The lines of the items that are read are the task lines, counted from one. -/
theorem items_lines (text : String) (heading stop : Nat) :
    ((ofText text).items heading stop).map (·.1.line) =
      ((List.range' (heading + 1) (stop - (heading + 1))).filter
        fun i => (ofText text).kinds[i]? == some .task).map (· + 1) := by
  unfold items
  induction List.range' (heading + 1) (stop - (heading + 1)) with
  | nil => rfl
  | cons i rest ih =>
    by_cases h : (ofText text).kinds[i]? = some .task
    · obtain ⟨item, parts, hread, hline⟩ := itemAt?_eq_some h
      rw [List.filterMap_cons_some hread, List.filter_cons_of_pos (by simpa using h), List.map_cons, List.map_cons, ih,
        hline]
    · rw [List.filterMap_cons_none (itemAt?_eq_none h), List.filter_cons_of_neg (by simpa using h), ih]

end EditableText

end LivePage
