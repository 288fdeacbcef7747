import LivePage.Proofs.Task.Toggle
/-!
# Which item an id reaches

An id is a hash of the text of an item, or what its comment says, so two items of a section may share one. Toggles look
for the first item with an id. They reach the item that was meant if no item before it has its id, and all items if all
ids differ.
-/
namespace LivePage

open EditableText

variable {text anchor id new : String} {items : List TaskItem} {item other : TaskItem}

/-- A toggle by the id of an item changes the mark of this very item. -/
def TaskItem.Reached (text anchor : String) (item : TaskItem) : Prop :=
  ∃ before after new front mark back, toggleTask text anchor item.id = .ok new ∧
    TogglesFirst text anchor item.id new before item after front mark back

theorem sorted_readTasks (h : readTasks text anchor = .ok items) : items.Pairwise fun a b => a.line < b.line := by
  obtain ⟨n, -, rfl⟩ := readTasks_eq_ok.1 h
  exact List.pairwise_map.2 (sorted_itemsUnder text n)

/-- No two items stand on one line. -/
theorem eq_of_line_eq (h : readTasks text anchor = .ok items) (hitem : item ∈ items) (hother : other ∈ items)
    (hline : item.line = other.line) : item = other := by
  have hnodup : (items.map (·.line)).Nodup :=
    List.pairwise_map.2 ((sorted_readTasks h).imp fun hlt => hlt.ne)
  exact List.inj_on_of_nodup_map hnodup hitem hother hline

/-- A toggle by the id of an item that is read succeeds, and changes the first item with this id. -/
theorem exists_togglesFirst (h : readTasks text anchor = .ok items) (hitem : item ∈ items) :
    ∃ before first after new front mark back, toggleTask text anchor item.id = .ok new ∧
      TogglesFirst text anchor item.id new before first after front mark back := by
  obtain ⟨n, hn, rfl⟩ := readTasks_eq_ok.1 h
  obtain ⟨x, hx, rfl⟩ := List.mem_map.1 hitem
  obtain ⟨⟨first, p⟩, hfind⟩ : ∃ y, ((ofText text).itemsUnder n).find? (·.1.id == x.1.id) = some y :=
    Option.isSome_iff_exists.1 (List.find?_isSome.2 ⟨x, hx, beq_self_eq_true _⟩)
  obtain ⟨hid, before, after, hitems, hbefore⟩ := List.find?_eq_some_iff_append.1 hfind
  have hid : first.id = x.1.id := by simpa using hid
  have hbefore : ∀ y ∈ before, y.1.id ≠ x.1.id := by simpa using hbefore
  obtain ⟨linesBefore, rest, linesAfter, hstands⟩ := exists_standsIn (hitems ▸ List.mem_append_cons_self)
  exact ⟨_, first, _, _, _, _, _,
    toggleTask_eq_ok_iff.2 ⟨n, before, first, p, after, hn, hitems, hid, hbefore, rfl⟩,
    togglesFirst_of_itemsUnder hitems hstands hn hid hbefore⟩

/-- The item that a toggle changes is the first of those with its id. -/
theorem TogglesFirst.line_le {before after : List TaskItem} {front back : List Char} {mark : Char}
    (ht : TogglesFirst text anchor id new before item after front mark back)
    (h : readTasks text anchor = .ok items) (hother : other ∈ items) (hid : other.id = id) :
    item.line ≤ other.line := by
  obtain rfl : before ++ item :: after = items := Except.ok.inj (ht.read.symm.trans h)
  have hsorted := sorted_readTasks h
  rw [List.pairwise_append, List.pairwise_cons] at hsorted
  rcases List.mem_append.1 hother with hmem | hmem
  · exact absurd hid (ht.first.2 other hmem)
  · rcases List.mem_cons.1 hmem with rfl | hmem
    · exact Nat.le_refl _
    · exact (hsorted.2.1.1 other hmem).le

theorem TogglesFirst.mem {before after : List TaskItem} {front back : List Char} {mark : Char}
    (ht : TogglesFirst text anchor id new before item after front mark back)
    (h : readTasks text anchor = .ok items) : item ∈ items := by
  obtain rfl : before ++ item :: after = items := Except.ok.inj (ht.read.symm.trans h)
  exact List.mem_append_cons_self

theorem reached_iff (h : readTasks text anchor = .ok items) (hitem : item ∈ items) :
    item.Reached text anchor ↔ ∀ other ∈ items, other.id = item.id → item.line ≤ other.line := by
  constructor
  · rintro ⟨before, after, new, front, mark, back, -, ht⟩ other hother hid
    exact ht.line_le h hother hid
  · intro hfirst
    obtain ⟨before, first, after, new, front, mark, back, htoggle, ht⟩ := exists_togglesFirst h hitem
    have hmem := ht.mem h
    -- The item that is changed has the id too, so it stands neither below the item nor above it.
    have hline : first.line = item.line :=
      Nat.le_antisymm (ht.line_le h hitem rfl) (hfirst first hmem ht.first.1)
    obtain rfl := eq_of_line_eq h hmem hitem hline
    exact ⟨before, after, new, front, mark, back, htoggle, ht⟩

theorem forall_reached_iff (h : readTasks text anchor = .ok items) :
    (∀ item ∈ items, item.Reached text anchor) ↔ (items.map (·.id)).Nodup := by
  constructor
  · intro hreached
    refine List.pairwise_map.2 ((sorted_readTasks h).imp_of_mem fun {a b} ha hb hlt hid => ?_)
    have hle := (reached_iff h hb).1 (hreached b hb) a ha hid
    omega
  · intro hnodup item hitem
    refine (reached_iff h hitem).2 fun other hother hid => ?_
    obtain rfl := List.inj_on_of_nodup_map hnodup hother hitem hid
    exact Nat.le_refl _

/-- **Which item an id reaches.** Of the items that are read, each can be toggled by its id, which changes the mark of
the first item with this id and no other character. This is the item itself just where none before it has its id, and
so for all items just where all ids differ. -/
theorem toggleTask_reaches (h : readTasks text anchor = .ok items) :
    (∀ item ∈ items, ∃ before first after new front mark back, toggleTask text anchor item.id = .ok new ∧
      TogglesFirst text anchor item.id new before first after front mark back) ∧
    (∀ item ∈ items, (item.Reached text anchor ↔ ∀ other ∈ items, other.id = item.id → item.line ≤ other.line)) ∧
    ((∀ item ∈ items, item.Reached text anchor) ↔ (items.map (·.id)).Nodup) :=
  ⟨fun _ hitem => exists_togglesFirst h hitem, fun _ hitem => reached_iff h hitem, forall_reached_iff h⟩

/-- Two items of one text: the second is not reached. -/
theorem toggleTask_reaches_twins :
    let items : List TaskItem := [⟨"e40c292c", "a", false, 2⟩, ⟨"e40c292c", "a", true, 3⟩]
    readTasks "# A\n- [ ] a\n- [x] a\n" "#a" = .ok items ∧
      (∀ item ∈ items, ∃ before first after new front mark back,
        toggleTask "# A\n- [ ] a\n- [x] a\n" "#a" item.id = .ok new ∧
        TogglesFirst "# A\n- [ ] a\n- [x] a\n" "#a" item.id new before first after front mark back) ∧
      ¬ ∀ item ∈ items, item.Reached "# A\n- [ ] a\n- [x] a\n" "#a" := by
  intro items
  have hread : readTasks "# A\n- [ ] a\n- [x] a\n" "#a" = .ok items := by decide +kernel
  obtain ⟨htoggles, -, hall⟩ := toggleTask_reaches hread
  exact ⟨hread, htoggles, fun h => absurd (hall.1 h) (by decide)⟩

/-- Two items of one text share their id, and the toggle that is meant for the second, which is done, changes the
first. -/
theorem toggleTask_misses_twin :
    readTasks "# A\n- [ ] a\n- [x] a\n" "#a" =
      .ok [⟨"e40c292c", "a", false, 2⟩, ⟨"e40c292c", "a", true, 3⟩] ∧
    toggleTask "# A\n- [ ] a\n- [x] a\n" "#a" "e40c292c" = .ok "# A\n- [x] a\n- [x] a\n" := by
  constructor <;> decide +kernel

end LivePage
