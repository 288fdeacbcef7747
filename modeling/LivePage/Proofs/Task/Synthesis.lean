import LivePage.Proofs.Markdown.Digits
import LivePage.Proofs.Task.Origin
/-!
# Synthesis after synthesis

A second synthesis finds the sections that the first one passed over. It does nothing where all of them have no
anchor: as long as lines that are kept stay of their kinds, where no two sections share an anchor.
-/
namespace LivePage

open Text LineKind

namespace TaskSection

/-! ## Sections with an anchor of their own -/

theorem withOwnAnchor_sublist (taken : List String) (l : List TaskSection) : (withOwnAnchor taken l).Sublist l := by
  induction l generalizing taken with
  | nil => exact List.Sublist.refl _
  | cons a l ih =>
    rw [withOwnAnchor]
    split_ifs
    · exact (ih taken).cons a
    · exact (ih _).cons_cons a

/-- No two sections among some share an anchor, except that sections may have none. -/
def OwnAnchors (l : List TaskSection) : Prop := l.Pairwise fun s t => s.anchor = t.anchor → s.anchor = ""

instance : DecidablePred OwnAnchors := fun l => inferInstanceAs (Decidable (l.Pairwise _))

/-- All sections with an anchor are kept where no two share one, and none has one that is taken. -/
theorem ownAnchors_iff {taken : List String} {l : List TaskSection} (hl : l.Nodup) :
    (∀ s ∈ l, s ∉ withOwnAnchor taken l → s.anchor = "") ↔
      OwnAnchors l ∧ ∀ s ∈ l, s.anchor ∈ taken → s.anchor = "" := by
  induction l generalizing taken with
  | nil => simp [OwnAnchors]
  | cons a l ih =>
    obtain ⟨ha, hl⟩ := List.nodup_cons.1 hl
    rw [OwnAnchors, List.pairwise_cons, withOwnAnchor]
    simp only [List.forall_mem_cons]
    by_cases hskip : a.anchor = "" ∨ a.anchor ∈ taken
    · rw [if_pos (by simpa using hskip), ih hl, OwnAnchors]
      -- No section comes twice, so one that is passed over is not kept further on.
      have hmem : a ∉ withOwnAnchor taken l := fun h => ha ((withOwnAnchor_sublist _ _).mem h)
      constructor
      · rintro ⟨h, hpair, htaken⟩
        exact ⟨⟨fun _ _ _ => h hmem, hpair⟩, fun _ => h hmem, htaken⟩
      · rintro ⟨⟨-, hpair⟩, h, htaken⟩
        exact ⟨fun _ => hskip.elim id h, hpair, htaken⟩
    · obtain ⟨hne, hfree⟩ := not_or.1 hskip
      have hkept (s : TaskSection) (hs : s ∈ l) :
          s ∉ a :: withOwnAnchor (a.anchor :: taken) l ↔ s ∉ withOwnAnchor (a.anchor :: taken) l := by
        rw [List.mem_cons, not_or, and_iff_right]
        rintro rfl
        exact ha hs
      rw [if_neg (by simpa using hskip), forall₂_congr fun s hs => imp_congr_left (hkept s hs), ih hl, OwnAnchors]
      constructor
      · rintro ⟨-, hpair, htaken⟩
        refine ⟨⟨fun s hs heq => ?_, hpair⟩, fun h => absurd h hfree, fun s hs h => ?_⟩
        · rw [heq]
          exact htaken s hs (by rw [heq]; exact List.mem_cons_self)
        · exact htaken s hs (List.mem_cons_of_mem _ h)
      · rintro ⟨⟨hown, hpair⟩, -, htaken⟩
        refine ⟨fun h => absurd List.mem_cons_self h, hpair, fun s hs h => ?_⟩
        rcases List.mem_cons.1 h with heq | h
        · exact absurd (hown s hs heq.symm) hne
        · exact htaken s hs h

theorem withOwnAnchor_eq_nil {l : List TaskSection} : withOwnAnchor [] l = [] ↔ ∀ s ∈ l, s.anchor = "" := by
  induction l with
  | nil => simp [withOwnAnchor]
  | cons a l ih =>
    rw [withOwnAnchor, List.forall_mem_cons]
    split_ifs with hskip
    · rw [ih, and_iff_right]
      simpa using hskip
    · simp only [false_iff, not_and]
      intro hempty
      simp [hempty] at hskip

end TaskSection

namespace Synthesis

open TaskSection

/-- A synthesis that has left its body alone. -/
def Unchanged (r : Synthesis) (body : String) : Prop := r.body = body ∧ r.sources = [] ∧ r.origins = none

theorem unchanged_iff {body file : String} :
    (synthesize body file).Unchanged body ↔ ∀ s ∈ detect body, s.anchor = "" := by
  rw [← withOwnAnchor_eq_nil]
  change _ ↔ replaced body = []
  unfold synthesize
  cases hreplaced : replaced body with
  | nil => exact ⟨fun _ => rfl, fun _ => ⟨rfl, rfl, rfl⟩⟩
  | cons s rest =>
    refine ⟨fun h => ?_, fun h => absurd h (List.cons_ne_nil s rest)⟩
    have horigins := h.2.2
    cases horigins

/-! ## What replacing does to kinds -/

/-- The kinds of the lines that replace what stands under a heading: a blank line and a block of code. -/
def generatedKinds (blankAtEnd : Bool) : List LineKind :=
  .blank :: List.replicate 14 .code ++ if blankAtEnd then [.blank] else []

/-- The kinds of the new lines from a line of the body on, if kept lines stay of their kinds. -/
def splicedKinds (kinds : List LineKind) (blankAtEnd : TaskSection → Bool) : Nat → List TaskSection → List LineKind
  | next, [] => kinds.drop next
  | next, s :: rest =>
    (kinds.take (s.headingLine + 1)).drop next ++ generatedKinds (blankAtEnd s) ++
      splicedKinds kinds blankAtEnd s.endLine rest

section
variable {kinds : List LineKind} {blankAtEnd : TaskSection → Bool} {next : Nat} {ss : List TaskSection}

/-- A heading over generated lines is over no task section. -/
theorem inLines_generated {k : LineKind} (b : Bool) (i : Nat) : inLines i (k :: generatedKinds b) = [] := by
  have hlater : inLines (i + 1) (generatedKinds b) = [] :=
    inLines_of_no_heading (by cases b <;> decide) _
  cases k with
  | heading level text anchor explicit =>
    have hno : (((generatedKinds b).takeWhile (!·.isHeading)).all fun k => k == .task || k == .blank) = false := by
      cases b <;> decide
    simp only [inLines, hno, Bool.false_and, Bool.false_eq_true, if_false, hlater]
  | _ => exact hlater

/-- New lines end a section where the lines that they come from do. -/
theorem endsSection_splicedKinds (h : EndsSection (kinds.drop next)) (hss : ss.Sublist (inLines next (kinds.drop next))) :
    EndsSection (splicedKinds kinds blankAtEnd next ss) := by
  cases ss with
  | nil => exact h
  | cons s rest =>
    obtain ⟨hle, hsection⟩ := isSection_of_mem_drop (hss.mem List.mem_cons_self)
    obtain ⟨explicit, hget⟩ := hsection.heading
    have hlt := (List.getElem?_eq_some_iff.1 hget).1
    intro k hk
    refine h k ?_
    rw [splicedKinds, List.append_assoc, List.drop_take] at hk
    obtain ⟨a, l, hal⟩ := List.exists_cons_of_ne_nil (List.ne_nil_of_length_pos
      (by rw [List.length_drop]; omega : 0 < (kinds.drop next).length))
    obtain ⟨n, hn⟩ : ∃ n, s.headingLine + 1 - next = n + 1 := ⟨s.headingLine - next, by omega⟩
    rw [hal, hn, List.take_succ_cons] at hk
    rw [hal]
    exact hk

/-- Of some sections in order, those after the first lie after its end. -/
theorem sublist_inLines_endLine {s : TaskSection} {rest : List TaskSection}
    (hss : (s :: rest).Sublist (inLines next (kinds.drop next))) :
    rest.Sublist (inLines s.endLine (kinds.drop s.endLine)) := by
  have hsorted := (sorted_inLines next (kinds.drop next)).2
  have hcut := inLines_eq_cut (hss.mem List.mem_cons_self)
  rw [hcut] at hss hsorted
  obtain ⟨-, -, hearlier⟩ := List.pairwise_append.1 hsorted
  obtain ⟨r1, r2, hr, h1, h2⟩ := List.sublist_append_iff.1 hss
  cases r1 with
  | nil =>
    obtain rfl : s :: rest = r2 := hr
    exact List.cons_sublist_cons.1 h2
  | cons a r1 =>
    obtain rfl := (List.cons.inj hr).1
    exact absurd (hearlier s (h1.mem List.mem_cons_self) s List.mem_cons_self) (Nat.lt_irrefl _)

variable (blankAtEnd) in
/-- Of the new lines, those before the first replaced section and those after it can hold sections. -/
theorem inLines_splicedKinds {s : TaskSection} {rest : List TaskSection}
    (hss : (s :: rest).Sublist (inLines next (kinds.drop next))) (i : Nat) :
    ∃ j, inLines i (splicedKinds kinds blankAtEnd next (s :: rest)) =
      inLines i ((kinds.take s.headingLine).drop next) ++
        inLines j (splicedKinds kinds blankAtEnd s.endLine rest) := by
  obtain ⟨hle, hsection⟩ := isSection_of_mem_drop (hss.mem List.mem_cons_self)
  obtain ⟨explicit, hget⟩ := hsection.heading
  obtain ⟨hlt, hhead⟩ := List.getElem?_eq_some_iff.1 hget
  have htake : (kinds.take (s.headingLine + 1)).drop next =
      (kinds.take s.headingLine).drop next ++ [kinds[s.headingLine]] := by
    rw [List.take_succ_eq_append_getElem hlt, List.drop_append_of_le_length (by rw [List.length_take]; omega)]
  refine ⟨i + ((kinds.take s.headingLine).drop next).length +
    (kinds[s.headingLine] :: generatedKinds (blankAtEnd s)).length, ?_⟩
  rw [splicedKinds, htake, List.append_assoc, List.append_assoc,
    inLines_append (by rintro k ⟨⟩; rw [hhead]; rfl), List.singleton_append, ← List.cons_append,
    inLines_append (endsSection_splicedKinds hsection.endsSection (sublist_inLines_endLine hss)),
    inLines_generated, List.nil_append]

/-- **What is found among the new lines**: the sections that were not replaced, under the anchors that they had. -/
theorem exists_anchor_splicedKinds (hss : ss.Sublist (inLines next (kinds.drop next))) (i : Nat) (anchor : String) :
    (∃ s ∈ inLines i (splicedKinds kinds blankAtEnd next ss), s.anchor = anchor) ↔
      ∃ s ∈ inLines next (kinds.drop next), s ∉ ss ∧ s.anchor = anchor := by
  have hanchors (i j : Nat) (l : List LineKind) :
      (∃ s ∈ inLines i l, s.anchor = anchor) ↔ ∃ s ∈ inLines j l, s.anchor = anchor := by
    rw [← List.mem_map, ← List.mem_map, anchors_inLines i j]
  -- The sections found between replaced ones are found again, under other numbers, so only anchors are compared.
  induction ss generalizing next i with
  | nil =>
    rw [splicedKinds, hanchors i next]
    exact exists_congr fun s => and_congr_right fun _ => (and_iff_right List.not_mem_nil).symm
  | cons s rest ih =>
    obtain ⟨j, hnew⟩ := inLines_splicedKinds blankAtEnd hss i
    have hrest := sublist_inLines_endLine hss
    have hsorted := (sorted_inLines next (kinds.drop next)).2
    rw [inLines_eq_cut (hss.mem List.mem_cons_self)] at hsorted ⊢
    obtain ⟨-, hlater, hearlier⟩ := List.pairwise_append.1 hsorted
    have hafter (t : TaskSection) (ht : t ∈ inLines s.endLine (kinds.drop s.endLine)) : t ≠ s := by
      rintro rfl
      exact absurd ((List.pairwise_cons.1 hlater).1 t ht) (Nat.lt_irrefl _)
    have hbefore (t : TaskSection) (ht : t ∈ inLines next ((kinds.take s.headingLine).drop next)) : t ∉ s :: rest := by
      intro h
      have hmem : t ∈ s :: inLines s.endLine (kinds.drop s.endLine) := (hrest.cons_cons s).mem h
      exact absurd (hearlier t ht t hmem) (Nat.lt_irrefl _)
    rw [hnew]
    constructor
    · rintro ⟨t, ht, heq⟩
      rcases List.mem_append.1 ht with ht | ht
      · obtain ⟨u, hu, heq⟩ := (hanchors i next _).1 ⟨t, ht, heq⟩
        exact ⟨u, List.mem_append_left _ hu, hbefore u hu, heq⟩
      · obtain ⟨u, hu, hno, heq⟩ := (ih hrest _).1 ⟨t, ht, heq⟩
        exact ⟨u, List.mem_append_right _ (List.mem_cons_of_mem _ hu), by simp [hafter u hu, hno], heq⟩
    · rintro ⟨t, ht, hno, heq⟩
      rw [List.mem_cons, not_or] at hno
      rcases List.mem_append.1 ht with ht | ht
      · obtain ⟨u, hu, heq⟩ := (hanchors next i _).1 ⟨t, ht, heq⟩
        exact ⟨u, List.mem_append_left _ hu, heq⟩
      · have ht := (List.mem_cons.1 ht).resolve_left hno.1
        obtain ⟨u, hu, heq⟩ := (ih hrest _).2 ⟨t, ht, hno.2, heq⟩
        exact ⟨u, List.mem_append_right _ hu, heq⟩

end

/-! ## The second synthesis -/

/-- The characters of a body after synthesis, from the bytes of its lines. -/
def newChars (body : String) : List Char := ['\n'].intercalate ((newLines body).map (byteChars ·.text))

theorem newChars_eq (body file : String) : newChars body = (synthesize body file).body.toList := by
  simp only [newChars, byteChars_eq, ← toList_body_synthesize body file]

/-- The kinds of a body after synthesis are those that its lines have: what is kept stays of its kind, and each
generated block is a block of code. -/
def KindsStay (body file : String) : Prop :=
  let lines := (splitOn '\n' body.toList).map String.ofList
  lineKinds (synthesize body file).body =
    splicedKinds (lineKinds body) (fun s => s.endLine < lines.length || lines.getLast?.any (·.isEmpty)) 0
      (replaced body)

/-- What the kinds are is computed from the new lines. -/
instance (body file : String) : Decidable (KindsStay body file) :=
  let lines := (splitOn '\n' body.toList).map String.ofList
  decidable_of_iff
    (digitKinds (newChars body) =
      splicedKinds (lineKinds body) (fun s => s.endLine < lines.length || lines.getLast?.any (·.isEmpty)) 0
        (replaced body))
    (by rw [newChars_eq body file, ← lineKinds_ofList, String.ofList_toList]; rfl)

/-- If kinds stay, what is found in a body after synthesis is what was not replaced. -/
theorem KindsStay.exists_anchor {body file : String} (h : KindsStay body file) (anchor : String) :
    (∃ s ∈ detect (synthesize body file).body, s.anchor = anchor) ↔
      ∃ s ∈ detect body, s ∉ replaced body ∧ s.anchor = anchor := by
  have hss : (replaced body).Sublist (inLines 0 ((lineKinds body).drop 0)) := by
    rw [List.drop_zero, ← detect_eq]
    exact withOwnAnchor_sublist [] _
  rw [detect_eq, detect_eq, h]
  exact exists_anchor_splicedKinds hss 0 anchor

/-- **When a second synthesis changes nothing.** It leaves a body alone just where every section that is still found
has no anchor. If kinds stay, that is where no two sections of the first body shared an anchor: of those that did, the
first was replaced, and the next one is now the first. -/
theorem second_synthesis_unchanged_iff (body file : String) :
    ((synthesize (synthesize body file).body file).Unchanged (synthesize body file).body ↔
      ∀ s ∈ detect (synthesize body file).body, s.anchor = "") ∧
    (KindsStay body file →
      ((synthesize (synthesize body file).body file).Unchanged (synthesize body file).body ↔
        OwnAnchors (detect body))) := by
  refine ⟨unchanged_iff, fun hstay => unchanged_iff.trans ?_⟩
  have hnodup : (detect body).Nodup := by rw [detect_eq]; exact nodup_inLines 0 _
  have hown : (∀ s ∈ detect body, s ∉ replaced body → s.anchor = "") ↔ OwnAnchors (detect body) := by
    rw [replaced, ownAnchors_iff hnodup]
    simp
  rw [← hown]
  constructor
  · intro h s hs hno
    obtain ⟨t, ht, heq⟩ := (hstay.exists_anchor s.anchor).2 ⟨s, hs, hno, rfl⟩
    rw [← heq]
    exact h t ht
  · intro h s hs
    obtain ⟨t, ht, hno, heq⟩ := (hstay.exists_anchor s.anchor).1 ⟨s, hs, rfl⟩
    rw [← heq]
    exact h t ht hno

/-- A section without an anchor is found again, and it is left alone again. -/
theorem namelessSection_unchanged_next :
    let body := "# A\n- [ ] a\n# !\n- [ ] b"
    KindsStay body "" ∧ OwnAnchors (detect body) ∧ (replaced body).length = 1 ∧ (detect body).length = 2 ∧
      (synthesize (synthesize body "").body "").Unchanged (synthesize body "").body := by
  intro body
  have hstay : KindsStay body "" := by decide +kernel
  have hown : OwnAnchors (detect body) := by decide +kernel
  exact ⟨hstay, hown, by decide +kernel, by decide +kernel, ((second_synthesis_unchanged_iff body "").2 hstay).2 hown⟩

/-- Two sections share an anchor here, and a second synthesis replaces the second one. -/
theorem repeated_section_replaced_next :
    let body := "# A\n- [ ] a\n# A\n- [ ] b"
    replaced body = [⟨"A", "a", 1, 0, 1, 2⟩] ∧ ⟨"A", "a", 1, 2, 3, 4⟩ ∈ detect body ∧ KindsStay body "" ∧
      ¬ (synthesize (synthesize body "").body "").Unchanged (synthesize body "").body := by
  intro body
  have hreplaced : replaced body = [⟨"A", "a", 1, 0, 1, 2⟩] := by decide +kernel
  have hsecond : ⟨"A", "a", 1, 2, 3, 4⟩ ∈ detect body := by decide +kernel
  have hstay : KindsStay body "" := by decide +kernel
  refine ⟨hreplaced, hsecond, hstay, fun h => ?_⟩
  obtain ⟨s, hs, heq⟩ := (hstay.exists_anchor "a").2 ⟨_, hsecond, by rw [hreplaced]; decide, rfl⟩
  have hempty := unchanged_iff.1 h s hs
  rw [heq] at hempty
  exact absurd hempty (by decide)

end Synthesis

end LivePage
