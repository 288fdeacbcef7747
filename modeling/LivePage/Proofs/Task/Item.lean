import LivePage.Proofs.Text.Trim
import LivePage.Task.Item
/-!
# Reading task items

A line is cut at its mark in one way only, and what comes after the closing bracket has no say in it. So a line that
looks like a task item is still one without its line end, and an item is read from it. The comment that names an id is
looked for from the end of the line: an item that is written with a text is read with this text, or with what comes
before a comment at its end.
-/
namespace LivePage.TaskItem

open Text

theorem not_isBlank_bullet {c : Char} (h : isBullet c = true) : isBlank c = false := by
  simp only [isBullet, Bool.or_eq_true, beq_iff_eq] at h
  rcases h with (rfl | rfl) | rfl <;> decide

/-- What comes before a mark: white space, a bullet, white space, and the opening bracket. -/
def Opens (before : List Char) : Prop :=
  ∃ indent bullet gap, before = indent ++ bullet :: gap ++ ['['] ∧ (∀ c ∈ indent, isBlank c = true) ∧
    isBullet bullet = true ∧ gap ≠ [] ∧ ∀ c ∈ gap, isBlank c = true

/-- A line is cut where a mark in brackets follows what opens an item. -/
theorem parts?_eq_some_iff {line : List Char} {p : Parts} :
    parts? line = some p ↔ Opens p.before ∧ isMark p.mark = true ∧ line = p.before ++ p.mark :: ']' :: p.after := by
  constructor
  · intro h
    unfold parts? at h
    split at h
    · cases h
    · rename_i bullet rest hrest
      split_ifs at h with hno
      simp only [Bool.or_eq_true, Bool.not_eq_true', not_or, Bool.not_eq_false] at hno
      split at h
      · rename_i mark after hafter
        split_ifs at h with hmark
        obtain rfl := Option.some.inj h
        refine ⟨⟨_, bullet, _, rfl, fun c hc => List.mem_takeWhile_imp hc, hno.1, ?_,
          fun c hc => List.mem_takeWhile_imp hc⟩, hmark, ?_⟩
        · simpa using hno.2
        · have hline := List.takeWhile_append_dropWhile (p := isBlank) (l := line)
          have hgap := List.takeWhile_append_dropWhile (p := isBlank) (l := rest)
          rw [hrest, ← hgap, hafter] at hline
          simpa using hline.symm
      · cases h
  · rintro ⟨⟨indent, bullet, gap, hbefore, hindent, hbullet, hne, hgap⟩, hmark, rfl⟩
    obtain ⟨before, mark, after⟩ := p
    obtain rfl : before = _ := hbefore
    have hline : (indent ++ bullet :: gap ++ ['['] ++ mark :: ']' :: after) =
        indent ++ bullet :: (gap ++ '[' :: mark :: ']' :: after) := by simp
    have hb := not_isBlank_bullet hbullet
    have hbracket : isBlank '[' = false := by decide
    simp only [hline, parts?]
    rw [List.dropWhile_append_of_pos hindent, List.dropWhile_cons_of_neg (by simp [hb]),
      List.takeWhile_append_of_pos hindent, List.takeWhile_cons_of_neg (by simp [hb])]
    simp only [List.dropWhile_append_of_pos hgap, List.takeWhile_append_of_pos hgap,
      List.dropWhile_cons_of_neg (show ¬ isBlank '[' = true by simp [hbracket]),
      List.takeWhile_cons_of_neg (show ¬ isBlank '[' = true by simp [hbracket])]
    simp [hbullet, hne, hmark]

/-- Where a line is cut does not depend on what comes after the closing bracket. -/
theorem parts?_after {line : List Char} {p : Parts} (h : parts? line = some p) (after : List Char) :
    parts? (p.before ++ p.mark :: ']' :: after) = some { p with after } := by
  obtain ⟨hopens, hmark, -⟩ := parts?_eq_some_iff.1 h
  exact parts?_eq_some_iff.2 ⟨hopens, hmark, rfl⟩

/-- Another mark makes no other item of a line, apart from its state. -/
theorem isItem_mark {before after : List Char} {a b : Char} (h : Opens before) (ha : isMark a = true)
    (hb : isMark b = true) : isItem (before ++ a :: ']' :: after) = isItem (before ++ b :: ']' :: after) := by
  have hparts (m : Char) (hm : isMark m = true) : parts? (before ++ m :: ']' :: after) = some ⟨before, m, after⟩ :=
    parts?_eq_some_iff.2 ⟨h, hm, rfl⟩
  rw [isItem, isItem, hparts a ha, hparts b hb]
  rfl

theorem Opens.not_isBlankText {before : List Char} (h : Opens before) : isBlankText before = false := by
  obtain ⟨indent, bullet, gap, rfl, -, hbullet, -⟩ := h
  simp [isBlankText, not_isBlank_bullet hbullet]

/-- An item is what its line is cut into: what comes after the brackets gives the text and perhaps an id, and the mark
tells whether it is done. -/
theorem read?_eq_some_iff {chars : List Char} {n : Nat} {item : TaskItem} {p : Parts} :
    read? chars n = some (item, p) ↔ parts? chars = some p ∧ ∃ text named, content? p.after = some (text, named) ∧
      item = ⟨(named.map String.ofList).getD (contentId (String.ofList text)), String.ofList text, p.mark != ' ', n⟩ := by
  simp only [read?, Option.bind_eq_bind, Option.bind_eq_some_iff]
  constructor
  · rintro ⟨q, hq, ⟨text, named⟩, hcontent, h⟩
    obtain ⟨rfl, rfl⟩ := Prod.mk.inj (Option.some.inj h)
    refine ⟨hq, text, named, hcontent, ?_⟩
    cases named <;> rfl
  · rintro ⟨hp, text, named, hcontent, rfl⟩
    refine ⟨p, hp, (text, named), hcontent, ?_⟩
    cases named <;> rfl

/-- A line that looks like an item holds a mark in brackets. -/
theorem exists_mark_of_isItem {line : List Char} (h : isItem line = true) :
    ∃ mark, isMark mark = true ∧ ['[', mark, ']'] <:+: line := by
  obtain ⟨p, hp, -⟩ := (Option.any_eq_true _ _).1 h
  obtain ⟨⟨indent, bullet, gap, hbefore, -⟩, hmark, hline⟩ := parts?_eq_some_iff.1 hp
  exact ⟨p.mark, hmark, indent ++ bullet :: gap, p.after, by rw [hline, hbefore]; simp⟩

theorem content?_isSome {after : List Char} (h : after.head?.all isBlank = true) : (content? after).isSome = true := by
  unfold content?
  rw [if_pos h]
  dsimp only
  split <;> rfl

/-- An item is read from every line that looks like one, without its line end. -/
theorem read?_dropLineEnd {line : List Char} (h : isItem line = true) (n : Nat) :
    ∃ item parts, read? (dropLineEnd line) n = some (item, parts) ∧ item.line = n := by
  obtain ⟨p, hp, hblank⟩ : ∃ p, parts? line = some p ∧ p.after.head?.all isBlank = true := by
    rwa [isItem, Option.any_eq_true] at h
  have hcut : dropLineEnd line = p.before ++ p.mark :: ']' :: dropLineEnd p.after := by
    have hkept : dropLineEnd ((p.before ++ [p.mark]) ++ ']' :: p.after) =
        (p.before ++ [p.mark]) ++ ']' :: dropLineEnd p.after := dropEndWhile_append rfl
    rw [(parts?_eq_some_iff.1 hp).2.2]
    simpa using hkept
  obtain ⟨content, hcontent⟩ := Option.isSome_iff_exists.1 (content?_isSome (all_head?_dropEndWhile hblank))
  rw [hcut]
  simp only [read?, parts?_after hp, Option.bind_eq_bind, Option.bind_some]
  change ∃ item parts, ((content? (dropEndWhile isLineEnd p.after)).bind _) = some (item, parts) ∧ _
  rw [hcontent]
  exact ⟨_, _, rfl, rfl⟩

/-! ## A comment with an id -/

/-- A text that ends with a comment that names an id, after which only white space comes. -/
def EndsWithId (cs before id : List Char) : Prop :=
  ∃ a b c, (∀ x ∈ a, isBlank x = true) ∧ (∀ x ∈ b, isBlank x = true) ∧ (∀ x ∈ c, isBlank x = true) ∧ id ≠ [] ∧
    (∀ x ∈ id, isWord x = true) ∧
    cs = before ++ ("<!--".toList ++ (a ++ ("id:".toList ++ (id ++ (b ++ ("-->".toList ++ c))))))

/-- The comment is looked for from the end of the text. -/
theorem splitId?_eq_some_iff {cs before id : List Char} : splitId? cs = some (before, id) ↔ EndsWithId cs before id := by
  constructor
  · intro h
    simp only [splitId?, Option.bind_eq_bind, Option.bind_eq_some_iff] at h
    obtain ⟨rest, hclose, h⟩ := h
    split_ifs at h with hid
    · simp at h
    simp only [Option.bind_eq_some_iff, Option.pure_def, Option.some.injEq, Prod.mk.injEq] at h
    obtain ⟨named, hname, front, hopen, rfl, rfl⟩ := h
    have hc := List.takeWhile_append_dropWhile (p := isBlank) (l := cs.reverse)
    have hb := List.takeWhile_append_dropWhile (p := isBlank) (l := rest)
    have hword := List.takeWhile_append_dropWhile (p := isWord) (l := rest.dropWhile isBlank)
    have ha := List.takeWhile_append_dropWhile (p := isBlank) (l := named)
    rw [dropPrefix?_eq_some hopen] at ha
    rw [dropPrefix?_eq_some hname, ← ha] at hword
    rw [← hword] at hb
    rw [dropPrefix?_eq_some hclose, ← hb] at hc
    refine ⟨(named.takeWhile isBlank).reverse, (rest.takeWhile isBlank).reverse, (cs.reverse.takeWhile isBlank).reverse,
      fun x hx => List.mem_takeWhile_imp (List.mem_reverse.1 hx), fun x hx => List.mem_takeWhile_imp (List.mem_reverse.1 hx),
      fun x hx => List.mem_takeWhile_imp (List.mem_reverse.1 hx), by simpa using hid,
      fun x hx => List.mem_takeWhile_imp (List.mem_reverse.1 hx), ?_⟩
    have hcs := congrArg List.reverse hc
    rw [List.reverse_reverse] at hcs
    exact hcs.symm.trans (by simp)
  · rintro ⟨a, b, c, ha, hb, hc, hne, hid, rfl⟩
    have hrev : (before ++ ("<!--".toList ++ (a ++ ("id:".toList ++ (id ++ (b ++ ("-->".toList ++ c))))))).reverse =
        c.reverse ++ '>' :: '-' :: '-' :: (b.reverse ++ (id.reverse ++ ':' :: 'd' :: 'i' :: (a.reverse ++
          '-' :: '-' :: '!' :: '<' :: before.reverse))) := by
      simp
    have hmem {l : List Char} {q : Char → Bool} (h : ∀ x ∈ l, q x = true) : ∀ x ∈ l.reverse, q x = true :=
      fun x hx => h x (List.mem_reverse.1 hx)
    -- The last character of the id is no white space, so all of the id is left when white space is dropped.
    have hnamed (rest : List Char) : (b.reverse ++ (id.reverse ++ rest)).dropWhile isBlank = id.reverse ++ rest := by
      obtain ⟨x, xs, hx⟩ := List.exists_cons_of_ne_nil (List.reverse_ne_nil_iff.2 hne)
      have hxid : x ∈ id := List.mem_reverse.1 (hx ▸ List.mem_cons_self)
      rw [hx, List.cons_append, dropWhile_append_cons (hmem hb) (isBlank_eq_false_of_isWord (hid x hxid))]
    have hcolon : isWord ':' = false := by decide +kernel
    have hword (rest : List Char) : (id.reverse ++ ':' :: rest).takeWhile isWord = id.reverse :=
      takeWhile_append_cons (hmem hid) hcolon rest
    have hname (rest : List Char) : (id.reverse ++ ':' :: rest).dropWhile isWord = ':' :: rest :=
      dropWhile_append_cons (hmem hid) hcolon rest
    have hopen (rest : List Char) : (a.reverse ++ '-' :: rest).dropWhile isBlank = '-' :: rest :=
      dropWhile_append_cons (hmem ha) (by decide) rest
    have hclose := dropWhile_append_cons (hmem hc) (show isBlank '>' = false by decide) ('-' :: '-' :: (b.reverse ++
      (id.reverse ++ ':' :: 'd' :: 'i' :: (a.reverse ++ '-' :: '-' :: '!' :: '<' :: before.reverse))))
    have hne' : id.reverse.isEmpty = false := by simpa using hne
    simp only [splitId?, hrev, hclose]
    rw [show ∀ rest, dropPrefix? ">--".toList ('>' :: '-' :: '-' :: rest) = some rest from
      dropPrefix?_append ">--".toList]
    simp only [Option.bind_eq_bind, Option.bind_some, hnamed, hword, hname, hne', Bool.false_eq_true, if_false]
    rw [show ∀ rest, dropPrefix? ":di".toList (':' :: 'd' :: 'i' :: rest) = some rest from
      dropPrefix?_append ":di".toList]
    simp only [Option.bind_some, hopen]
    rw [show ∀ rest, dropPrefix? "--!<".toList ('-' :: '-' :: '!' :: '<' :: rest) = some rest from
      dropPrefix?_append "--!<".toList]
    simp

section
variable {cs before id before' id' : List Char}

/-- A text ends with one such comment only. -/
theorem EndsWithId.unique (h : EndsWithId cs before id) (h' : EndsWithId cs before' id') :
    before = before' ∧ id = id' := by
  have hsplit := splitId?_eq_some_iff.2 h
  rw [splitId?_eq_some_iff.2 h'] at hsplit
  obtain ⟨rfl, rfl⟩ := Prod.mk.inj (Option.some.inj hsplit)
  exact ⟨rfl, rfl⟩

/-- What comes first has no part in the comment. -/
theorem endsWithId_append {front : List Char} : EndsWithId (front ++ cs) (front ++ before) id ↔ EndsWithId cs before id := by
  simp only [EndsWithId, List.append_assoc, List.append_cancel_left_eq]

theorem EndsWithId.starts (h : EndsWithId cs before id) : before <+: cs := by
  obtain ⟨a, b, c, -, -, -, -, -, rfl⟩ := h
  exact List.prefix_append before _

end

/-! ## An item that is written -/

/-- The number of a line has no part in what is read from it, but that it is noted. -/
theorem read?_number {chars : List Char} {item : TaskItem} {p : Parts} {m : Nat} (h : read? chars m = some (item, p))
    (n : Nat) : read? chars n = some ({ item with line := n }, p) := by
  obtain ⟨hparts, text, named, hcontent, rfl⟩ := read?_eq_some_iff.1 h
  exact read?_eq_some_iff.2 ⟨hparts, text, named, hcontent, rfl⟩

/-- What is read from an open item that is written with a text: the text, and the id that it gives, or what its last
comment says. -/
structure IsWritten (item : TaskItem) (text : List Char) (line : Nat) : Prop where
  isOpen : item.done = false
  line : item.line = line
  plain : (∀ before id, ¬ EndsWithId text before id) →
    item.text = String.ofList text ∧ item.id = contentId (String.ofList text)
  named : ∀ before id, EndsWithId text before id →
    item.text = String.ofList (dropEndWhile isBlank before) ∧ item.id = String.ofList id

section
variable {item : TaskItem} {text before id : List Char} {n : Nat}

theorem IsWritten.eq_plain (h : item.IsWritten text n) (hno : ∀ before id, ¬ EndsWithId text before id) :
    item = ⟨contentId (String.ofList text), String.ofList text, false, n⟩ := by
  obtain ⟨htext, hid⟩ := h.plain hno
  rw [← hid, ← htext, ← h.isOpen, ← h.line]

theorem IsWritten.eq_named (h : item.IsWritten text n) (hends : EndsWithId text before id) :
    item = ⟨String.ofList id, String.ofList (dropEndWhile isBlank before), false, n⟩ := by
  obtain ⟨htext, hid⟩ := h.named before id hends
  rw [← hid, ← htext, ← h.isOpen, ← h.line]

end

/-- An open item with a trimmed text is read back. -/
theorem read?_written {text : List Char} (hstart : text.dropWhile isBlank = text)
    (hend : dropEndWhile isBlank text = text) (n : Nat) :
    ∃ item p, read? ("- [ ] ".toList ++ text) n = some (item, p) ∧ item.IsWritten text n := by
  have hparts : parts? ("- [ ] ".toList ++ text) = some ⟨"- [".toList, ' ', ' ' :: text⟩ :=
    parts?_eq_some_iff.2 ⟨⟨[], '-', [' '], rfl, by simp, rfl, by simp, List.forall_mem_singleton.2 (by decide)⟩, rfl, rfl⟩
  have hbody : (' ' :: text).dropWhile isBlank = text := by
    rw [List.dropWhile_cons_of_pos (by decide), hstart]
  have hhead : (' ' :: text).head?.all isBlank = true := show isBlank ' ' = true by decide
  cases hsplit : splitId? text with
  | none =>
    have hcontent : content? (' ' :: text) = some (text, none) := by
      rw [content?, if_pos hhead]
      simp only [hbody, hsplit, hend]
    refine ⟨_, _, read?_eq_some_iff.2 ⟨hparts, _, _, hcontent, rfl⟩, rfl, rfl, fun _ => ⟨rfl, rfl⟩,
      fun before id h => ?_⟩
    rw [splitId?_eq_some_iff.2 h] at hsplit
    cases hsplit
  | some found =>
    obtain ⟨before, id⟩ := found
    have hcontent : content? (' ' :: text) = some (dropEndWhile isBlank before, some id) := by
      rw [content?, if_pos hhead]
      simp only [hbody, hsplit]
    refine ⟨_, _, read?_eq_some_iff.2 ⟨hparts, _, _, hcontent, rfl⟩, rfl, rfl,
      fun h => absurd (splitId?_eq_some_iff.1 hsplit) (h before id), fun before' id' h => ?_⟩
    obtain ⟨rfl, rfl⟩ := (splitId?_eq_some_iff.1 hsplit).unique h
    exact ⟨rfl, rfl⟩

end LivePage.TaskItem
