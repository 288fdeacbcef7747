import LivePage.Proofs.Task.Section
/-!
# Where new lines come from

The lines of a body in which sections were replaced are lines of the body as written, each with its number there, and
lines of generated blocks. For this no generated line may be two lines, so anchors have to stand on one line.
-/
namespace LivePage

open Text Markdown

/-! ## Anchors -/

/-- Something holds of the anchor of a heading, if a line is one, and of whether the author wrote it. -/
def LineKind.AnchorIs (P : String → Bool → Prop) : LineKind → Prop
  | heading _ _ anchor explicit => P anchor explicit
  | _ => True

variable {P : String → Bool → Prop}

/-- Headings get what holds of every id that an author may write and of every slug. -/
theorem anchorIs_lineKinds (hid : ∀ id : HeadingName, P id.text true) (hslug : ∀ text, P (slugify text) false)
    (body : String) : ∀ k ∈ lineKinds body, k.AnchorIs P := by
  intro k hk
  cases hheading : k.isHeading with
  | false => cases k <;> trivial
  | true =>
    obtain ⟨i, hi⟩ := List.mem_iff_getElem?.1 hk
    obtain ⟨n, e, hheads⟩ := heading_of_lineKinds hheading hi
    obtain ⟨level, attributes, -, rfl⟩ := hheads.opens
    unfold headingKind
    dsimp only
    split
    · exact hid _
    · exact hslug _

namespace TaskSection

variable {body : String} {s : TaskSection}

theorem oneLine_anchor (h : s ∈ detect body) : '\n' ∉ s.anchor.toList := by
  obtain ⟨explicit, hkind⟩ := (mem_detect_iff.1 h).heading
  exact anchorIs_lineKinds (P := fun anchor _ => '\n' ∉ anchor.toList) (·.oneLine) oneLine_slugify body _
    (List.mem_of_getElem? hkind)

theorem oneLine_generated (h : '\n' ∉ s.anchor.toList) (blankAtEnd : Bool) :
    ∀ l ∈ s.generated blankAtEnd, '\n' ∉ l.text.toList := by
  have hname : '\n' ∉ s.sourceName.toList := by simp [sourceName, h]
  have htemplate : ∀ t ∈ template s.sourceName, '\n' ∉ t.toList := by simp [template, hname]
  unfold generated
  simp only [List.cons_append, List.map_cons, List.map_append, List.forall_mem_cons, List.forall_mem_append,
    List.forall_mem_map]
  refine ⟨by simp, by simp, ⟨⟨htemplate, by simp, by simp⟩, ?_⟩⟩
  cases blankAtEnd
  · simp
  · simp

end TaskSection

namespace Synthesis

open TaskSection

/-! ## New lines -/

/-- The lines of a body in which sections are replaced. -/
def newLines (body : String) : List OriginLine :=
  spliced ((splitOn '\n' body.toList).map String.ofList) 0 (replaced body)

/-- Some lines are those of the code block that replaces a section: the first of them after so many others. -/
def HasBlock (new : List OriginLine) (s : TaskSection) (first : Nat) : Prop :=
  ∃ front blankAtEnd back, new = front ++ s.generated blankAtEnd ++ back ∧ first = front.length + 1

/-- How many lines the code block that replaces a section has. -/
def blockLength : Nat := 14

theorem HasBlock.append_left {new : List OriginLine} {s : TaskSection} {first : Nat} (h : HasBlock new s first)
    (more : List OriginLine) : HasBlock (more ++ new) s (more.length + first) := by
  obtain ⟨front, blankAtEnd, back, rfl, rfl⟩ := h
  exact ⟨more ++ front, blankAtEnd, back, by simp, by rw [List.length_append, Nat.add_assoc]⟩

/-- The lines of the code block that replaces a section come from the section's first item. -/
theorem HasBlock.origin {new : List OriginLine} {s : TaskSection} {first k : Nat} (h : HasBlock new s first) (hle : first ≤ k)
    (hlt : k < first + blockLength) : ∃ text, new[k]? = some ⟨text, s.firstItem⟩ := by
  obtain ⟨front, blankAtEnd, back, rfl, rfl⟩ := h
  obtain ⟨j, rfl⟩ : ∃ j, k = front.length + (j + 1) := ⟨k - front.length - 1, by omega⟩
  have hj : j < ("```lvt" :: template s.sourceName ++ ["```"]).length := by
    change j < blockLength
    omega
  refine ⟨("```lvt" :: template s.sourceName ++ ["```"])[j], ?_⟩
  rw [List.append_assoc, List.getElem?_append_right (Nat.le_add_right _ _), Nat.add_sub_cancel_left, generated,
    List.cons_append, List.cons_append, List.getElem?_cons_succ, List.append_assoc,
    List.getElem?_append_left (by rwa [List.length_map]), List.getElem?_map, List.getElem?_eq_getElem hj]
  rfl

theorem HasBlock.opens {new : List OriginLine} {s : TaskSection} {first : Nat} (h : HasBlock new s first) :
    new[first]? = some ⟨"```lvt", s.firstItem⟩ := by
  obtain ⟨front, blankAtEnd, back, rfl, rfl⟩ := h
  rw [List.append_assoc, List.getElem?_append_right (Nat.le_add_right _ 1), Nat.add_sub_cancel_left]
  rfl

variable {lines : List String} {new : List OriginLine} {next first last k : Nat} {ss : List TaskSection} {l : OriginLine}

theorem getElem?_kept (lines : List String) (first last k : Nat) :
    (kept lines first last)[k]? = if first + k < last then lines[first + k]?.map (⟨·, first + k⟩) else none := by
  rw [kept, List.getElem?_map, List.getElem?_drop, List.getElem?_take, List.getElem?_zipIdx]
  split_ifs
  · cases lines[first + k]? <;> simp
  · rfl

theorem getElem?_of_mem_kept (h : l ∈ kept lines first last) : lines[l.origin]? = some l.text := by
  obtain ⟨⟨text, i⟩, hmem, rfl⟩ := List.mem_map.1 h
  exact List.mk_mem_zipIdx_iff_getElem?.1 (List.mem_of_mem_take (List.mem_of_mem_drop hmem))

/-- A generated line belongs to the code block, or is empty. -/
theorem generated_cases {s : TaskSection} {blankAtEnd : Bool} (h : (s.generated blankAtEnd)[k]? = some l) :
    l.text = "" ∨ (1 ≤ k ∧ k < 1 + blockLength) := by
  have hlength : (("```lvt" :: template s.sourceName ++ ["```"]).map fun t : String => OriginLine.mk t s.firstItem).length =
      blockLength := rfl
  unfold generated at h
  dsimp only at h
  cases k with
  | zero =>
    obtain rfl := Option.some.inj h
    exact .inl rfl
  | succ k =>
    rw [List.cons_append, List.getElem?_cons_succ, List.getElem?_append, hlength] at h
    split_ifs at h with hlt hblank
    · exact .inr (by omega)
    · obtain rfl := List.mem_singleton.1 (List.mem_of_getElem? h)
      exact .inl rfl
    · cases h

/-- **Where a new line comes from**: it is a line of the body, an empty line, or a line of a generated code block. -/
theorem spliced_cases (h : (spliced lines next ss)[k]? = some l) :
    lines[l.origin]? = some l.text ∨ l.text = "" ∨
      ∃ s ∈ ss, ∃ first, HasBlock (spliced lines next ss) s first ∧ first ≤ k ∧ k < first + blockLength := by
  induction ss generalizing next k with
  | nil => exact .inl (getElem?_of_mem_kept (List.mem_of_getElem? h))
  | cons s rest ih =>
    rw [spliced] at h ⊢
    generalize hfront : kept lines next (s.headingLine + 1) = front at h ⊢
    generalize hblock : s.generated _ = block at h ⊢
    rw [List.getElem?_append] at h
    split_ifs at h with hlt
    · rw [List.getElem?_append] at h
      split_ifs at h with hlt'
      · exact .inl (getElem?_of_mem_kept (hfront ▸ List.mem_of_getElem? h))
      · subst hblock
        refine .inr ((generated_cases h).imp_right fun hk => ⟨s, List.mem_cons_self, front.length + 1, ?_, ?_⟩)
        · exact ⟨front, _, _, rfl, rfl⟩
        · omega
    · rcases ih h with hkept | hempty | ⟨t, ht, first, hblock, hle, hk⟩
      · exact .inl hkept
      · exact .inr (.inl hempty)
      · refine .inr (.inr ⟨t, List.mem_cons_of_mem _ ht, _, hblock.append_left _, ?_⟩)
        omega

/-- What holds of the lines of a body and of generated lines holds of the new ones. -/
theorem forall_mem_spliced {P : String → Prop} (hlines : ∀ t ∈ lines, P t)
    (hgenerated : ∀ s ∈ ss, ∀ blankAtEnd, ∀ l ∈ s.generated blankAtEnd, P l.text) :
    ∀ l ∈ spliced lines next ss, P l.text := by
  have hkept (first last : Nat) (l : OriginLine) (h : l ∈ kept lines first last) : P l.text :=
    hlines _ (List.mem_of_getElem? (getElem?_of_mem_kept h))
  induction ss generalizing next with
  | nil => exact hkept _ _
  | cons s rest ih =>
    rw [List.forall_mem_cons] at hgenerated
    rw [spliced]
    simp only [List.forall_mem_append]
    exact ⟨⟨hkept _ _, hgenerated.1 _⟩, ih hgenerated.2⟩

/-! ## Bodies -/

variable {body file : String}

/-- A body stays as it is, or its new lines make up the new one. -/
theorem synthesize_cases (body file : String) :
    ((synthesize body file).body = body ∧ (synthesize body file).origins = none) ∨
      newLines body ≠ [] ∧ (synthesize body file).body = "\n".intercalate ((newLines body).map (·.text)) ∧
        (synthesize body file).origins = some ((newLines body).map (·.origin)) := by
  unfold newLines synthesize
  cases replaced body with
  | nil => exact .inl ⟨rfl, rfl⟩
  | cons s rest =>
    dsimp only
    refine .inr ⟨fun h => ?_, rfl, rfl⟩
    rw [spliced, List.append_eq_nil_iff, List.append_eq_nil_iff] at h
    exact nomatch h.1.2

theorem map_text_kept (lines : List String) : (kept lines 0 lines.length).map (·.text) = lines := by
  rw [kept, List.drop_zero, List.take_of_length_le (by simp), List.map_map]
  exact List.zipIdx_map_fst 0 lines

/-- The characters of a body are those of its new lines, whether or not a section is replaced. -/
theorem toList_body_synthesize (body file : String) :
    (synthesize body file).body.toList = ['\n'].intercalate ((newLines body).map (·.text.toList)) := by
  have hlines : (newLines body).map (·.text.toList) = ((newLines body).map (·.text)).map String.toList := by
    rw [List.map_map]
    rfl
  rw [hlines]
  unfold newLines synthesize
  cases replaced body with
  | nil =>
    have hpieces : ((splitOn '\n' body.toList).map String.ofList).map String.toList = splitOn '\n' body.toList := by simp
    rw [spliced, map_text_kept, hpieces]
    exact (List.intercalate_splitOn '\n').symm
  | cons s rest => exact String.toList_intercalate

/-- The lines of a new body are the new lines, for none of them is two. -/
theorem splitOn_newLines (h : newLines body ≠ []) :
    splitOn '\n' ("\n".intercalate ((newLines body).map (·.text))).toList = (newLines body).map (·.text.toList) := by
  have hlines : ∀ l ∈ newLines body, '\n' ∉ l.text.toList := by
    refine forall_mem_spliced (P := fun t => '\n' ∉ t.toList) (fun t ht hmem => ?_) fun s hs b => ?_
    · obtain ⟨line, hline, rfl⟩ := List.mem_map.1 ht
      rw [String.toList_ofList] at hmem
      simpa using eq_false_of_mem_splitOnP hline _ hmem
    · exact oneLine_generated (oneLine_anchor (mem_of_mem_withOwnAnchor hs).1) b
  rw [splitOn_intercalate (by simpa using h) (List.forall_mem_map.2 hlines), List.map_map]
  rfl

/-- **Origins are right.** Without its end, a line of the new body is the line of the body that it names as its origin,
unless nothing is left of it or it belongs to a generated code block. -/
theorem origin_of_line {k : Nat} {line : List Char} {origins : List Nat}
    (horigins : (synthesize body file).origins = some origins)
    (hline : (linesWithEnds (synthesize body file).body.toList)[k]? = some line) (hne : dropLineEnd line ≠ []) :
    (∃ i l, origins[k]? = some i ∧ (linesWithEnds body.toList)[i]? = some l ∧ dropLineEnd l = dropLineEnd line) ∨
      ∃ s ∈ replaced body, ∃ first, HasBlock (newLines body) s first ∧ first ≤ k ∧ k < first + blockLength := by
  rcases synthesize_cases body file with ⟨-, hnone⟩ | ⟨hnew, hbody, hsome⟩
  · rw [hnone] at horigins
    cases horigins
  rw [hsome, Option.some.injEq] at horigins
  subst horigins
  -- The line of the new body is the new line with its number.
  have hdrop := dropLineEnd_linesWithEnds (synthesize body file).body.toList k
  rw [List.getD_eq_getElem?_getD, hline, hbody, splitOn_newLines hnew, List.getD_eq_getElem?_getD, List.getElem?_map,
    Option.getD_some] at hdrop
  cases hl : (newLines body)[k]? with
  | none => rw [hdrop, hl] at hne; exact absurd rfl hne
  | some l =>
    rw [hl, Option.map_some, Option.getD_some] at hdrop
    rcases spliced_cases hl with hkept | hempty | hblock
    · refine .inl ?_
      have hpiece : (splitOn '\n' body.toList).getD l.origin [] = l.text.toList := by
        rw [List.getElem?_map] at hkept
        obtain ⟨piece, hpiece, htext⟩ := Option.map_eq_some_iff.1 hkept
        rw [List.getD_eq_getElem?_getD, hpiece, ← htext, String.toList_ofList, Option.getD_some]
      rw [hdrop, ← hpiece] at hne
      obtain ⟨written, hwritten, heq⟩ := getElem?_linesWithEnds hne
      exact ⟨l.origin, written, by rw [List.getElem?_map, hl]; rfl, hwritten, by rw [heq, hpiece, hdrop]⟩
    · rw [hdrop, hempty] at hne
      exact absurd rfl hne
    · exact .inr hblock

end Synthesis

end LivePage
