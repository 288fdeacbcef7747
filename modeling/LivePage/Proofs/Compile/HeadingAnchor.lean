import LivePage.Proofs.Anchor
import LivePage.Proofs.Compile
import LivePage.Proofs.Task.Binding
/-!
# Headings and the anchors of their sections

The block that replaces a section is bound to a source with the section's anchor, and readers of the page follow the
anchor to a heading by its id. Anchors are taken section by section, while ids are made different over all headings of
a page. So a section's heading may get another id than the section's anchor: just where the anchor comes from the words
of the heading, and some other heading has it as id.
-/
namespace LivePage

open Text Markdown

/-! ## The place of a heading -/

def headingOpen (events : List Event) : Bool := events.foldl (fun opened e => e.headingAfter opened) false

section
variable {events before rest : List Event} {level : Nat} {h : HeadingAttributes}

/-- A heading without an id that is open after an event is a heading that is open. -/
theorem headingAfter_of_namelessAfter {e : Event} {inside opened : Bool} (himp : inside = true → opened = true)
    (h : e.namelessAfter inside = true) : e.headingAfter opened = true := by
  cases e with
  | start tag => cases tag <;> simp_all [Event.namelessAfter, Event.headingAfter]
  | _ => simp_all [Event.namelessAfter, Event.headingAfter]

theorem headingOpen_of_namelessOpen (h : HeadingId.namelessOpen before = true) : headingOpen before = true := by
  have hfold (inside opened : Bool) (himp : inside = true → opened = true) :
      before.foldl (fun opened e => e.namelessAfter opened) inside = true →
        before.foldl (fun opened e => e.headingAfter opened) opened = true := by
    clear h
    induction before generalizing inside opened with
    | nil => exact himp
    | cons e before ih => exact ih _ _ (headingAfter_of_namelessAfter himp)
  exact hfold false false id h

theorem namelessOpen_eq_false (h : headingOpen before = false) : HeadingId.namelessOpen before = false :=
  eq_false_of_ne_true fun hopen => by
    rw [headingOpen_of_namelessOpen hopen] at h
    cases h

theorem assignHeadingIds_explicit (hevents : events = before ++ .start (.heading level h) :: rest)
    (hopen : headingOpen before = false) {id : HeadingName} (hid : h.id = some id) :
    ∃ front back, assignHeadingIds events = front ++ .start (.heading level { h with id := some id }) :: back ∧
      front.length = before.length ∧ List.Forall₂ GainsId rest back := by
  obtain ⟨front, taken, hassign, hlength, -, -⟩ := assignHeadingIds_append hevents
  rw [namelessOpen_eq_false hopen] at hassign
  have hheading : HeadingId.assign taken false (.start (.heading level h) :: rest) =
      .start (.heading level { h with id := some id }) :: HeadingId.assign taken false rest := by
    simp only [HeadingId.assign, hid]
    rw [← hid]
  exact ⟨front, _, hassign.trans (by rw [hheading]), hlength, HeadingId.assign_gainsId _ _ _⟩

/-- What is taken by others when a heading gets its id, and what they have in the end: an anchor is free just where no
other heading has it as id. -/
theorem fresh_eq_self_iff_of_others {front : List Event} {taken : List String} {anchor : String}
    (hgains : List.Forall₂ GainsId before front)
    (htaken : ∀ a, a ∈ taken ↔
      (a ∈ HeadingId.explicit before ∨ a ∈ HeadingId.explicit rest) ∨ a ∈ HeadingId.explicit front) :
    HeadingId.fresh taken anchor = anchor ↔ anchor ∉ HeadingId.explicit front ∧
      anchor ∉ HeadingId.explicit (HeadingId.assign (HeadingId.fresh taken anchor :: taken) true rest) := by
  rw [HeadingId.fresh_eq_self_iff]
  constructor
  · intro hfree
    refine ⟨fun hfront => hfree ((htaken _).2 (.inr hfront)), fun hback => ?_⟩
    rcases HeadingId.mem_explicit_assign hback with hrest | hnot
    · exact hfree ((htaken _).2 (.inl (.inr hrest)))
    · rw [HeadingId.fresh_eq_self_iff.2 hfree] at hnot
      exact hnot List.mem_cons_self
  · rintro ⟨hfront, hback⟩ hmem
    rcases (htaken _).1 hmem with (hbefore | hrest) | hmem
    · exact hfront (HeadingId.explicit_subset_of_gainsId hgains hbefore)
    · exact hback (HeadingId.explicit_subset_of_gainsId (HeadingId.assign_gainsId _ _ _) hrest)
    · exact hfront hmem

/-- **The id of a heading without one.** A heading that stands in no other one and has words gets its anchor with a
number, which is left out just where no other heading of the page has the anchor as its id. -/
theorem assignHeadingIds_heading (hevents : events = before ++ .start (.heading level h) :: rest)
    (hopen : headingOpen before = false) (hid : h.id = none) (hwords : slugify (HeadingId.words rest) ≠ "") :
    ∃ front id back n, assignHeadingIds events = front ++ .start (.heading level { h with id := some id }) :: back ∧
      front.length = before.length ∧ List.Forall₂ GainsId rest back ∧
      id.text = HeadingId.numbered (slugify (HeadingId.words rest)) n ∧
      (id.text = slugify (HeadingId.words rest) ↔
        slugify (HeadingId.words rest) ∉ HeadingId.explicit front ∧
        slugify (HeadingId.words rest) ∉ HeadingId.explicit back) := by
  obtain ⟨front, taken, hassign, hlength, hgains, htaken⟩ := assignHeadingIds_append hevents
  rw [namelessOpen_eq_false hopen] at hassign
  obtain ⟨id, hfresh, hheading⟩ := HeadingId.assign_heading taken level hid hwords
  obtain ⟨n, hn, -⟩ := HeadingId.exists_least taken (slugify (HeadingId.words rest))
  have hexplicit : ∀ a, a ∈ HeadingId.explicit events ↔
      a ∈ HeadingId.explicit before ∨ a ∈ HeadingId.explicit rest := fun a => by
    rw [hevents, HeadingId.explicit_append, HeadingId.explicit_cons, List.mem_append, List.mem_append]
    simp [HeadingId.explicit, hid]
  simp only [hexplicit] at htaken
  rw [hheading, hfresh] at hassign
  refine ⟨front, id, _, n, hassign, hlength, HeadingId.assign_gainsId _ _ _, hfresh.trans hn, ?_⟩
  rw [hfresh]
  exact fresh_eq_self_iff_of_others hgains htaken

end

/-! ## Headings over generated blocks -/

/-- Whether an event stands in running text: it bounds neither a heading nor a code block. -/
def Markdown.Event.IsRunning (e : Event) : Prop :=
  (∀ level h, e ≠ .start (.heading level h)) ∧ e.closesHeading = false ∧ e.closesCode = false

namespace Synthesis

open TaskSection

/-- Events show a section: after some events its heading, which stands in no other one, and after that the code block
that replaces the section. No heading and no code is between the two, so what is there only closes what the heading
stands in. The heading is of the kind that the section was found by. -/
structure ShowsUnder (placed : List PlacedEvent) (s : TaskSection) (h : HeadingAttributes)
    (before content between after : List PlacedEvent) : Prop where
  split : ∃ opening closing fence, placed = before ++ opening :: (content ++ closing :: (between ++ fence :: after)) ∧
    opening.event = .start (.heading s.level h) ∧ closing.event = .stop (.heading s.level) ∧
    fence.event = .start (.codeBlock (some "lvt"))
  apart : headingOpen (before.map (·.event)) = false
  running : ∀ e ∈ content ++ between, e.event.IsRunning
  kind : ∃ explicit, headingKind s.level h (headingText content) = .heading s.level s.heading s.anchor explicit
  template : codeContent after = s.templateText

section
variable {placed before content between after : List PlacedEvent} {s : TaskSection} {h : HeadingAttributes}
  {level : Nat} {events rest back : List Event}

theorem ShowsUnder.shows (hshown : ShowsUnder placed s h before content between after) :
    Shows placed s (before.length + 1 + content.length + 1 + between.length) := by
  obtain ⟨opening, closing, fence, rfl, -, -, hfence⟩ := hshown.split
  exact ⟨before ++ opening :: content ++ closing :: between, fence, after, by simp, by simp +arith, hfence,
    hshown.template⟩

theorem words_eq_headingText (hrunning : ∀ e ∈ content, e.event.IsRunning) :
    HeadingId.words (content.map (·.event) ++ .stop (.heading level) :: rest) = headingText content := by
  have hopen : ∀ e ∈ content, (!e.event.closesHeading) = true := fun e he => by rw [(hrunning e he).2.1]; rfl
  rw [HeadingId.words, headingText, List.takeWhile_append_of_pos (by simpa using fun e he => (hrunning e he).2.1),
    List.takeWhile_cons_of_neg (by simp [Event.closesHeading]), List.append_nil, List.takeWhile_eq_self_iff.2 hopen,
    List.map_map]
  rfl

/-- Events that open no heading stay when ids are given, and no ids are in them. -/
theorem exists_append_of_gainsId (hno : ∀ e ∈ events, ∀ level h, e ≠ .start (.heading level h))
    (hgains : List.Forall₂ GainsId (events ++ rest) back) :
    ∃ back', back = events ++ back' ∧ HeadingId.explicit back = HeadingId.explicit back' := by
  induction events generalizing back with
  | nil => exact ⟨back, rfl, rfl⟩
  | cons e events ih =>
    rw [List.cons_append] at hgains
    obtain ⟨e', back', he, hrest, rfl⟩ := List.forall₂_cons_left_iff.1 hgains
    have hheading := hno e List.mem_cons_self
    obtain ⟨back'', rfl, hexplicit⟩ := ih (fun x hx => hno x (List.mem_cons_of_mem _ hx)) hrest
    cases he with
    | same => exact ⟨back'', rfl, (HeadingId.explicit_cons_of_ne hheading _).trans hexplicit⟩
    | id hnone id => exact absurd rfl (hheading _ _)

/-- What stands from the words of a section's heading on, up to the code block. -/
def insideHeading (s : TaskSection) (content between : List PlacedEvent) : List Event :=
  content.map (·.event) ++ .stop (.heading s.level) :: between.map (·.event)

theorem mem_insideHeading (hshown : ShowsUnder placed s h before content between after) {e : Event}
    (he : e ∈ insideHeading s content between) :
    (∀ level h, e ≠ .start (.heading level h)) ∧ e.closesCode = false := by
  rw [insideHeading, List.mem_append, List.mem_cons, List.mem_map, List.mem_map] at he
  rcases he with ⟨e, he, rfl⟩ | rfl | ⟨e, he, rfl⟩
  · obtain ⟨hheading, -, hcode⟩ := hshown.running e (List.mem_append_left _ he)
    exact ⟨hheading, hcode⟩
  · exact ⟨nofun, rfl⟩
  · obtain ⟨hheading, -, hcode⟩ := hshown.running e (List.mem_append_right _ he)
    exact ⟨hheading, hcode⟩

/-- The heading of a section with an id, and what stands from it on up to the code block. -/
def headingEvents (s : TaskSection) (h : HeadingAttributes) (id : HeadingName) (content between : List PlacedEvent) :
    List Event :=
  .start (.heading s.level { h with id := some id }) :: insideHeading s content between

/-- The heading of a section has an id. What stands before it and from the code block on is given with ids, too. -/
structure HeadingWithId (placed : List PlacedEvent) (s : TaskSection) (h : HeadingAttributes)
    (before content between : List PlacedEvent) (front : List Event) (id : HeadingName) (back : List Event) : Prop where
  split : assignHeadingIds (placed.map (·.event)) = front ++ (headingEvents s h id content between ++ back)
  length : front.length = before.length
  /-- The id is the section's anchor with a number, if any. -/
  numbered : ∃ n, id.text = HeadingId.numbered s.anchor n
  /-- It is the anchor itself just where the author wrote it, or no other heading of the page has it. -/
  eq_anchor_iff : id.text = s.anchor ↔ h.id.isSome ∨
    s.anchor ∉ HeadingId.explicit front ∧ s.anchor ∉ HeadingId.explicit back

/-- **The id of a section's heading.** It is the section's anchor if the author wrote it. Else it is the anchor with a
number, which is left out just where no other heading of the page has the anchor as its id. -/
theorem ShowsUnder.exists_id (hshown : ShowsUnder placed s h before content between after) (hanchor : s.anchor ≠ "") :
    ∃ front id back, HeadingWithId placed s h before content between front id back := by
  obtain ⟨opening, closing, fence, hplaced, hopening, hclosing, -⟩ := hshown.split
  obtain ⟨explicit, hkind⟩ := hshown.kind
  have hevents : placed.map (·.event) = before.map (·.event) ++ .start (.heading s.level h) ::
      (insideHeading s content between ++ (fence :: after).map (·.event)) := by
    simp [hplaced, hopening, hclosing, insideHeading]
  have hno : ∀ e ∈ insideHeading s content between, ∀ level h, e ≠ .start (.heading level h) := fun e he =>
    (mem_insideHeading hshown he).1
  -- An id of the author is the anchor itself; else the anchor is the slug from which the id is made.
  cases hid : h.id with
  | some id =>
    obtain ⟨front, back, hassign, hlength, hgains⟩ := assignHeadingIds_explicit hevents hshown.apart hid
    rw [List.length_map] at hlength
    obtain ⟨back, rfl, -⟩ := exists_append_of_gainsId hno hgains
    have htext : id.text = s.anchor := by
      simp only [headingKind, hid, LineKind.heading.injEq] at hkind
      exact hkind.2.2.1
    exact ⟨front, id, back, hassign, hlength, ⟨0, htext⟩, by simp [hid, htext]⟩
  | none =>
    have hslug : slugify (HeadingId.words (insideHeading s content between ++ (fence :: after).map (·.event))) =
        s.anchor := by
      simp only [headingKind, hid, LineKind.heading.injEq] at hkind
      have hcontent : ∀ e ∈ content, e.event.IsRunning := fun e he => hshown.running e (List.mem_append_left _ he)
      rw [insideHeading, List.append_assoc, List.cons_append, words_eq_headingText hcontent, ← hkind.2.2.1,
        slugify_trim]
    obtain ⟨front, id, back, n, hassign, hlength, hgains, hn, hiff⟩ :=
      assignHeadingIds_heading hevents hshown.apart hid (by rwa [hslug])
    rw [List.length_map] at hlength
    obtain ⟨back, rfl, hexplicit⟩ := exists_append_of_gainsId hno hgains
    rw [hslug] at hn hiff
    rw [hexplicit] at hiff
    exact ⟨front, id, back, hassign, hlength, ⟨n, hn⟩, by simpa [hid] using hiff⟩

end

/-! ## Pages -/

section
variable {p : Event → Bool} {first gap front last : List Event}

/-- What comes after events that end with one of a class reaches back over all events at the end that are not of it. -/
theorem exists_gap_suffix (h : first ++ gap = front ++ last) (hfirst : ∀ e, first.getLast? = some e → p e = true)
    (hlast : ∀ e ∈ last, p e = false) : ∃ before, gap = before ++ last := by
  rcases List.append_eq_append_iff.1 h with ⟨before, -, hgap⟩ | ⟨between, rfl, rfl⟩
  · exact ⟨before, hgap⟩
  · rcases List.eq_nil_or_concat between with rfl | ⟨init, e, rfl⟩
    · exact ⟨[], rfl⟩
    · have he : p e = true := hfirst e (by simp)
      rw [hlast e (by simp)] at he
      cases he

end

section
variable {s : TaskSection} {h : HeadingAttributes} {before content between after placed : List PlacedEvent}
  {front back out : List Event} {id : HeadingName} {lines : LineMap} {blocks : List CodeBlock}

/-- The container of the block that replaces a section stands right after the section's heading. -/
theorem HeadingWithId.exists_placeholder (hheading : HeadingWithId placed s h before content between front id back)
    (hshown : ShowsUnder placed s h before content between after) (hcode : CodeApart false placed)
    (hcollect : collectBlocks lines placed = .ok blocks)
    (hattaches : Attaches 0 (blocks.zip (CodeBlock.resolved blocks)) (assignHeadingIds (placed.map (·.event))) out) :
    ∃ o₁ o₂ b, out = o₁ ++ (headingEvents s h id content between ++ .html (Block.interactive b).placeholder :: o₂) ∧
      .interactive b ∈ CodeBlock.resolved blocks ∧ b.sourceRef = some ("_auto_" ++ s.readAnchor) := by
  obtain ⟨cb, hcb, hindex, htype, hmetadata⟩ := exists_block_of_shows hcode hcollect hshown.shows
  obtain ⟨j, hj, rfl⟩ := List.getElem_of_mem hcb
  have hpair := List.mem_of_getElem? (getElem_zip_resolved hj)
  have hblock := (List.of_mem_zip hpair).2
  obtain ⟨b, hb⟩ :
      ∃ b, blocks[j].resolve (blocks[j].idAt j) (CodeBlock.lastServer (blocks.take j)) = .interactive b := by
    rw [CodeBlock.resolve, htype]
    exact ⟨_, rfl⟩
  rw [hb] at hpair hblock
  obtain ⟨first, gap, code, rest, first', rest', hevents, hout, hplace, hlast⟩ := hattaches.exists_gap hpair
  -- The code block stands right after the heading and what is between them, so both ways to cut it off are the same.
  have hsplit : first ++ gap = front ++ headingEvents s h id content between := by
    have hboth : (first ++ gap) ++ (code ++ rest) = (front ++ headingEvents s h id content between) ++ back := by
      rw [List.append_assoc, ← hevents, hheading.split, List.append_assoc]
    refine (List.append_inj hboth ?_).1
    rw [← Nat.zero_add (first ++ gap).length, ← hplace, hindex, List.length_append, hheading.length]
    simp +arith [headingEvents, insideHeading]
  have hheadingCode : ∀ e ∈ headingEvents s h id content between, e.closesCode = false :=
    List.forall_mem_cons.2 ⟨rfl, fun e he => (mem_insideHeading hshown he).2⟩
  obtain ⟨g, rfl⟩ := exists_gap_suffix hsplit hlast hheadingCode
  refine ⟨first' ++ g, rest', b, ?_, hblock, (faultOf?_resolve hmetadata hb).1⟩
  have hattached : (Block.interactive b).attached code = [.html (Block.interactive b).placeholder] := if_pos rfl
  rw [hout, hattached]
  simp

/-- A page shows a block under the heading of its section. The placeholder of an interactive block that is bound by the
section's anchor comes after the heading, with no other heading between, and the heading has an id. The anchor leads to
it, as the first heading with that id, just where no earlier heading has the anchor and the author wrote it here or no
later heading has it. -/
def UnderHeading (placed : List PlacedEvent) (s : TaskSection) (h : HeadingAttributes)
    (before content between : List PlacedEvent) (blocks : List Block) (html : String) : Prop :=
  ∃ front id back o₁ o₂ b, HeadingWithId placed s h before content between front id back ∧
    html = Html.render
      (o₁ ++ (headingEvents s h id content between ++ .html (Block.interactive b).placeholder :: o₂)) ∧
    .interactive b ∈ blocks ∧ b.sourceRef = some ("_auto_" ++ s.readAnchor) ∧
    (id.text = s.anchor ∧ s.anchor ∉ HeadingId.explicit front ↔
      s.anchor ∉ HeadingId.explicit front ∧ (h.id.isSome ∨ s.anchor ∉ HeadingId.explicit back))

/-- A page whose events show a section is rendered with the section's block under its heading. -/
theorem ShowsUnder.exists_page (hshown : ShowsUnder placed s h before content between after) (hanchor : s.anchor ≠ "")
    (hcode : CodeApart false placed) (hclose : CodeBlocksClose (placed.map (·.event)))
    (hcollect : collectBlocks lines placed = .ok blocks) :
    ∃ html, renderPage (placed.map (·.event)) blocks (CodeBlock.resolved blocks) true = .ok html ∧
      UnderHeading placed s h before content between (CodeBlock.resolved blocks) html := by
  obtain ⟨front, id, back, hheading⟩ := hshown.exists_id hanchor
  obtain ⟨out, hout, hattaches⟩ := exists_attachFrom true hclose hcollect
  have hhtml := renderPage_of_attachBlocks (attachBlocks_of_attachFrom hout)
  rw [headed, if_pos rfl] at hattaches
  obtain ⟨o₁, o₂, b, rfl, hb, hsource⟩ := hheading.exists_placeholder hshown hcode hcollect hattaches
  refine ⟨_, hhtml, front, id, back, o₁, o₂, b, hheading, rfl, hb, hsource, ?_⟩
  rw [hheading.eq_anchor_iff]
  tauto

/-- **Whether a section's heading has its anchor as id.** Where events show the block that replaces a section under its
heading, the page has the block's placeholder after that heading, with no other one between. The id of the heading is
the section's anchor with a number, if any. It is the anchor itself just where the author wrote it as this heading's id,
or no other heading of the page has it as id: neither one that an author gave it to, anywhere, nor an earlier one that
got it. So it is on every compiled page. -/
theorem headingId_eq_anchor_iff {body : String} (hs : s ∈ replaced body) (hcode : CodeApart false placed)
    (hclose : CodeBlocksClose (placed.map (·.event))) (hcollect : collectBlocks lines placed = .ok blocks)
    (hshown : ShowsUnder placed s h before content between after) :
    (∃ html, renderPage (placed.map (·.event)) blocks (CodeBlock.resolved blocks) true = .ok html ∧
      UnderHeading placed s h before content between (CodeBlock.resolved blocks) html) ∧
    ∀ decode source file schedule x c, extractWith decode source = .ok x →
      compileWith decode source file { schedule := schedule } = .ok c →
      c.page.markdown = (synthesize x.body file).body ∧
      ∀ t ∈ replaced x.body, ∀ h before content between after,
        ShowsUnder (events c.page.markdown) t h before content between after →
        UnderHeading (events c.page.markdown) t h before content between c.page.blockSet.blocks c.page.html := by
  refine ⟨hshown.exists_page (mem_of_mem_withOwnAnchor hs).2 hcode hclose hcollect, ?_⟩
  intro decode source file schedule x c hx hc
  obtain ⟨x', hx', hc⟩ := compileWith_eq_ok hc
  obtain rfl := Except.ok.inj (hx.symm.trans hx')
  obtain ⟨collected, scan, hcollected, -, hbuild, hrender, hmarkdown, -⟩ := compileExtracted_eq_ok hc
  refine ⟨hmarkdown, fun t ht h before content between after hshown => ?_⟩
  rw [← hmarkdown] at hcollected
  rw [← hmarkdown, (BlockSet.holds_of_build hbuild).blocks] at hrender
  obtain ⟨html, hhtml, hunder⟩ := hshown.exists_page (mem_of_mem_withOwnAnchor ht).2 (codeApart_events _)
    (codeBlocksClose_events _) hcollected
  obtain rfl := Except.ok.inj (hrender.symm.trans hhtml)
  rwa [(BlockSet.holds_of_build hbuild).blocks]

end

/-- Events of a section under the heading `A`: the heading, and the block that replaces the section's items. -/
def sectionEvents (s : TaskSection) (span : Span) : List PlacedEvent :=
  [⟨.start (.heading s.level {}), span⟩, ⟨.text "A", span⟩, ⟨.stop (.heading s.level), span⟩] ++ blockEvents s span

theorem showsUnder_sectionEvents (before : List PlacedEvent) {s : TaskSection} (hheading : s.heading = "A")
    (hanchor : s.anchor = "a") (hopen : headingOpen (before.map (·.event)) = false) (span : Span) :
    ∃ after, ShowsUnder (before ++ sectionEvents s span) s {} before [⟨.text "A", span⟩] [] after := by
  obtain ⟨_, e, after, hblock, hlength, he, htemplate⟩ := shows_blockEvents s span
  obtain rfl := List.length_eq_zero_iff.1 hlength.symm
  have htext : headingText (⟨.text "A", span⟩ :: []) = "A" := rfl
  have htrim : String.ofList (trim "A".toList) = "A" := by decide
  have hslug : slugify "A" = "a" := by decide
  refine ⟨after, ⟨⟨⟨.start (.heading s.level {}), span⟩, ⟨.stop (.heading s.level), span⟩, e, ?_, rfl, rfl, he⟩, hopen,
    by simp [Event.IsRunning, Event.closesHeading, Event.closesCode], ⟨false, ?_⟩, htemplate⟩⟩
  · rw [sectionEvents, hblock]
    rfl
  · rw [headingKind, htext, htrim, hslug, hheading, hanchor]

/-- One block is collected from events of a section that come after events outside code. -/
theorem collectFrom_sectionEvents (before : List PlacedEvent) (hbefore : ∀ e ∈ before, e.event.opensCode = false)
    (lines : LineMap) (i : Nat) (s : TaskSection) (span : Span) :
    CodeApart false (before ++ sectionEvents s span) ∧
    CodeBlocksClose ((before ++ sectionEvents s span).map (·.event)) ∧
    ∃ cb, collectFrom lines i false (before ++ sectionEvents s span) = .ok [cb] := by
  induction before generalizing i with
  | nil =>
    have hparse : InfoString.parse "lvt" = .ok { language := "lvt", type := some .lvt } := by decide
    refine ⟨(collectBlocks_blockEvents lines s span).1, ?_, ?_⟩
    · simp [sectionEvents, blockEvents, template, CodeBlocksClose, Event.opensCode, Event.closesCode]
    · simp only [sectionEvents, blockEvents, collectFrom, List.cons_append, List.nil_append, hparse]
      exact ⟨_, rfl⟩
  | cons e before ih =>
    obtain ⟨he, hbefore⟩ := List.forall_mem_cons.1 hbefore
    obtain ⟨hcode, hclose, cb, hcollect⟩ := ih hbefore (i + 1)
    refine ⟨by rwa [List.cons_append, CodeApart, he], codeBlocksClose_cons he hclose, cb, ?_⟩
    rw [List.cons_append, collectFrom]
    split
    · rename_i text hevent
      rw [hevent] at he
      cases he
    · rename_i hevent
      rw [hevent] at he
      cases he
    · exact hcollect

/-- The section of a page that is a heading `A` with one task. -/
def openTask : TaskSection := ⟨"A", "a", 1, 0, 1, 2⟩

/-- Without another heading the heading of a section has its anchor. -/
theorem openTask_hasAnchor :
    openTask ∈ replaced "# A\n- [ ] t" ∧
    ∃ blocks after html, collectBlocks (.identity "" 1) (sectionEvents openTask ⟨0, 492⟩) = .ok blocks ∧
      ShowsUnder (sectionEvents openTask ⟨0, 492⟩) openTask {} [] [⟨.text "A", ⟨0, 492⟩⟩] [] after ∧
      renderPage ((sectionEvents openTask ⟨0, 492⟩).map (·.event)) blocks (CodeBlock.resolved blocks) true = .ok html ∧
      UnderHeading (sectionEvents openTask ⟨0, 492⟩) openTask {} [] [⟨.text "A", ⟨0, 492⟩⟩] []
        (CodeBlock.resolved blocks) html ∧
      HeadingId.explicit (assignHeadingIds ((sectionEvents openTask ⟨0, 492⟩).map (·.event))) = [openTask.anchor] := by
  have hreplaced : openTask ∈ replaced "# A\n- [ ] t" := by decide +kernel
  obtain ⟨after, hshown⟩ := showsUnder_sectionEvents [] (s := openTask) rfl rfl rfl ⟨0, 492⟩
  obtain ⟨hcode, hclose, cb, hcollect⟩ :=
    collectFrom_sectionEvents [] nofun (.identity "" 1) 0 openTask ⟨0, 492⟩
  obtain ⟨html, hhtml, hunder⟩ := (headingId_eq_anchor_iff hreplaced hcode hclose hcollect hshown).1
  exact ⟨hreplaced, [cb], after, html, hcollect, hshown, hhtml, hunder, by decide +kernel⟩

/-- The second section of a page with a heading `A` over a paragraph and a heading `A` over a task. -/
def sameHeading : TaskSection := ⟨"A", "a", 1, 3, 4, 6⟩

def firstEvents : List PlacedEvent :=
  [⟨.start (.heading 1 {}), ⟨0, 4⟩⟩, ⟨.text "A", ⟨2, 3⟩⟩, ⟨.stop (.heading 1), ⟨0, 4⟩⟩,
    ⟨.start .paragraph, ⟨4, 9⟩⟩, ⟨.text "text", ⟨4, 8⟩⟩, ⟨.stop .paragraph, ⟨4, 9⟩⟩]

/-- **The heading of a section has a number.** The anchor of the section is `a`, and no section before it is replaced.
Its block stands under a heading with the id `a-1`, for the heading `A` before that has got `a`. -/
theorem sameHeading_numbered :
    replaced "# A\ntext\n\n# A\n- [ ] two\n" = [sameHeading] ∧
    ∃ blocks after html,
      collectBlocks (.identity "" 1) (firstEvents ++ sectionEvents sameHeading ⟨10, 502⟩) = .ok blocks ∧
      ShowsUnder (firstEvents ++ sectionEvents sameHeading ⟨10, 502⟩) sameHeading {} firstEvents
        [⟨.text "A", ⟨10, 502⟩⟩] [] after ∧
      renderPage ((firstEvents ++ sectionEvents sameHeading ⟨10, 502⟩).map (·.event)) blocks (CodeBlock.resolved blocks)
        true = .ok html ∧
      ∃ id : HeadingName, id.text = "a-1" ∧ id.text ≠ sameHeading.anchor ∧ ∃ o₁ o₂ b, html = Html.render
        (o₁ ++ (headingEvents sameHeading {} id [⟨.text "A", ⟨10, 502⟩⟩] [] ++
          .html (Block.interactive b).placeholder :: o₂)) := by
  have hreplaced : replaced "# A\ntext\n\n# A\n- [ ] two\n" = [sameHeading] := by decide +kernel
  obtain ⟨after, hshown⟩ := showsUnder_sectionEvents firstEvents (s := sameHeading) rfl rfl rfl ⟨10, 502⟩
  obtain ⟨hcode, hclose, cb, hcollect⟩ :=
    collectFrom_sectionEvents firstEvents (by decide) (.identity "" 1) 0 sameHeading ⟨10, 502⟩
  obtain ⟨html, hhtml, front, id, back, o₁, o₂, b, hheading, hrender, -⟩ :=
    hshown.exists_page (by decide) hcode hclose hcollect
  have hids : HeadingId.explicit ((assignHeadingIds
      ((firstEvents ++ sectionEvents sameHeading ⟨10, 502⟩).map (·.event))).drop firstEvents.length) = ["a-1"] := by
    decide +kernel
  have hid : id.text :: HeadingId.explicit back = ["a-1"] := by
    rw [← hids, hheading.split, List.drop_left' hheading.length]
    rfl
  have htext := (List.cons.inj hid).1
  exact ⟨hreplaced, [cb], after, html, hcollect, hshown, hhtml, id, htext, by rw [htext]; decide, o₁, o₂, b, hrender⟩

end Synthesis

end LivePage
