import LivePage.Compile
import LivePage.Proofs.Block.Collect
import LivePage.Proofs.Block.Resolve
import LivePage.Proofs.Task.Origin
/-!
# What generated blocks are bound to

The anchor of a section that is replaced goes three ways: into the name of a source, into the template of the block as
the name of that source, and from the template back into the block's metadata. The last step reads up to the first
quotation mark, so the block gets its own source just where the anchor holds none.
-/
namespace LivePage

open Text Markdown

/-! ## Sources -/

/-- A name among merged sources stands for what the author declared under it, else for what was made. -/
theorem find?_mergeSources (declared synthetic : Dictionary SourceConfig) (name : String) :
    (mergeSources declared synthetic).find? name = (declared.find? name).or (synthetic.find? name) := by
  unfold mergeSources
  induction synthetic generalizing declared with
  | nil => simp [Dictionary.find?]
  | cons p rest ih =>
    obtain ⟨n, source⟩ := p
    rw [List.foldl_cons, ih]
    dsimp only
    by_cases hname : n = name
    · subst hname
      have hself : Dictionary.find? ((n, source) :: rest) n = some source := by simp [Dictionary.find?]
      rw [hself]
      cases hdeclared : declared.find? n with
      | none =>
        rw [Dictionary.contains, hdeclared, Option.isSome_none, if_neg Bool.false_ne_true, Dictionary.find?_insert_self]
        rfl
      | some _ =>
        rw [Dictionary.contains, hdeclared, Option.isSome_some, if_pos rfl, hdeclared]
        rfl
    · have hrest : Dictionary.find? ((n, source) :: rest) name = Dictionary.find? rest name := by
        rw [Dictionary.find?, List.lookup_cons, beq_eq_false_iff_ne.2 (Ne.symm hname)]
        rfl
      rw [hrest]
      split_ifs
      · rfl
      · rw [Dictionary.find?_insert_ne (Ne.symm hname)]

namespace TaskSection

variable {s t : TaskSection}

theorem sourceName_inj : s.sourceName = t.sourceName ↔ s.anchor = t.anchor := by
  rw [sourceName, sourceName, String.append_right_inj]

/-- No two sections that are kept share an anchor, and none has one that is taken. -/
theorem pairwise_withOwnAnchor (taken : List String) (l : List TaskSection) :
    (withOwnAnchor taken l).Pairwise (·.anchor ≠ ·.anchor) ∧ ∀ s ∈ withOwnAnchor taken l, s.anchor ∉ taken := by
  induction l generalizing taken with
  | nil => exact ⟨List.Pairwise.nil, by simp [withOwnAnchor]⟩
  | cons a l ih =>
    rw [withOwnAnchor]
    split_ifs with hskip
    · exact ih taken
    · obtain ⟨hpair, hfree⟩ := ih (a.anchor :: taken)
      refine ⟨List.pairwise_cons.2 ⟨fun s hs heq => hfree s hs (heq ▸ List.mem_cons_self), hpair⟩, ?_⟩
      rintro s hs
      rcases List.mem_cons.1 hs with rfl | hs
      · simp only [Bool.or_eq_true, not_or] at hskip
        simpa using hskip.2
      · exact fun hmem => hfree s hs (List.mem_cons_of_mem _ hmem)

end TaskSection

namespace Synthesis

open TaskSection BlockSet

variable {body file name : String} {s : TaskSection} {ss : List TaskSection} {d : Dictionary SourceConfig}

theorem find?_foldl_insert (h : ∀ s ∈ ss, s.sourceName ≠ name) :
    (ss.foldl (fun d s => d.insert s.sourceName (.markdownSection file s.anchor)) d).find? name = d.find? name := by
  induction ss generalizing d with
  | nil => rfl
  | cons s ss ih =>
    rw [List.forall_mem_cons] at h
    rw [List.foldl_cons, ih h.2, Dictionary.find?_insert_ne (Ne.symm h.1)]

/-- A section's name stands for its source, for no later section has its anchor. -/
theorem find?_foldl_insert_of_mem (hs : s ∈ ss) (hpair : ss.Pairwise (·.anchor ≠ ·.anchor)) :
    (ss.foldl (fun d s => d.insert s.sourceName (.markdownSection file s.anchor)) d).find? s.sourceName =
      some (.markdownSection file s.anchor) := by
  induction ss generalizing d with
  | nil => cases hs
  | cons t ss ih =>
    obtain ⟨hfirst, hpair⟩ := List.pairwise_cons.1 hpair
    rw [List.foldl_cons]
    rcases List.mem_cons.1 hs with rfl | hs
    · rw [find?_foldl_insert fun u hu heq => hfirst u hu (sourceName_inj.1 heq).symm, Dictionary.find?_insert_self]
    · exact ih hs hpair

theorem find?_sources (hs : s ∈ replaced body) :
    (synthesize body file).sources.find? s.sourceName = some (.markdownSection file s.anchor) := by
  have hpair : (replaced body).Pairwise (·.anchor ≠ ·.anchor) := (pairwise_withOwnAnchor [] (detect body)).1
  unfold synthesize
  cases hreplaced : replaced body with
  | nil => rw [hreplaced] at hs; cases hs
  | cons t ss =>
    rw [hreplaced] at hs hpair
    exact find?_foldl_insert_of_mem hs hpair

theorem find?_sources_eq_none (h : ∀ s ∈ replaced body, s.sourceName ≠ name) :
    (synthesize body file).sources.find? name = none := by
  unfold synthesize
  cases hreplaced : replaced body with
  | nil => rfl
  | cons t ss =>
    rw [hreplaced] at h
    exact find?_foldl_insert h

/-- The names that references may use: those that the author declared and those of the sections. -/
theorem contains_mergeSources {declared : Dictionary SourceConfig} :
    (mergeSources declared (synthesize body file).sources).contains name = true ↔
      name ∈ declared.names ∨ ∃ t ∈ replaced body, t.sourceName = name := by
  rw [← Dictionary.contains_iff, Dictionary.contains, Dictionary.contains, find?_mergeSources, Option.isSome_or,
    Bool.or_eq_true]
  refine or_congr_right ⟨fun h => ?_, ?_⟩
  · by_contra hno
    rw [find?_sources_eq_none fun t ht heq => hno ⟨t, ht, heq⟩] at h
    cases h
  · rintro ⟨t, ht, rfl⟩
    rw [find?_sources ht]
    rfl

end Synthesis

/-! ## Templates -/

/-- The source that a text names which starts like a template. -/
theorem templateSource?_template {source after : List Char} (h : source.takeWhile (!isQuote ·) ≠ []) :
    templateSource? ("<div class=\"livedoc-tasks\" lvt-source=\"".toList ++ (source ++ '"' :: after)) =
      some (source.takeWhile (!isQuote ·)) := by
  have hskip (c : Char) (cs : List Char) (h : dropPrefix? "lvt-source".toList (c :: cs) = none) :
      templateSource? (c :: cs) = templateSource? cs := by
    rw [templateSource?, h]
    rfl
  have hprefix (cs : List Char) : dropPrefix? "lvt-source".toList
      ('l' :: 'v' :: 't' :: '-' :: 's' :: 'o' :: 'u' :: 'r' :: 'c' :: 'e' :: cs) = some cs := rfl
  simp only [String.reduceToList, List.cons_append, List.nil_append]
  -- The name of the attribute does not occur in what stands before it.
  iterate 27 rw [hskip _ _ rfl]
  rw [templateSource?, hprefix, Option.bind_some, quotedValue?_quoted h]
  rfl

namespace TaskSection

variable {s : TaskSection}

/-- The text of the code block that replaces a section. -/
def templateText (s : TaskSection) : String := String.join ((template s.sourceName).map (· ++ "\n"))

/-- An anchor up to its first quotation mark. -/
def readAnchor (s : TaskSection) : String := String.ofList (s.anchor.toList.takeWhile (!isQuote ·))

/-- An anchor holds no quotation mark. -/
def Unquoted (s : TaskSection) : Prop := ∀ c ∈ s.anchor.toList, isQuote c = false

theorem readAnchor_eq_iff : s.readAnchor = s.anchor ↔ s.Unquoted := by
  rw [readAnchor, ← String.toList_inj, String.toList_ofList, List.takeWhile_eq_self_iff]
  simp [Unquoted]

/-- The anchor that a heading gets from its words holds no quotation mark. -/
theorem unquoted_of_slug {body : String} {level : Nat} {text : String}
    (h : (lineKinds body)[s.headingLine]? = some (.heading level text s.anchor false)) : s.Unquoted := by
  have hkinds := anchorIs_lineKinds
    (P := fun anchor explicit => explicit = false → ∀ c ∈ anchor.toList, isQuote c = false) (fun _ h => nomatch h)
    (fun text _ c hc => ?_) body _ (List.mem_of_getElem? h)
  · exact hkinds rfl
  · rw [slugify, String.toList_ofList] at hc
    refine eq_false_of_ne_true fun hquote => ?_
    simp only [isQuote, Bool.or_eq_true, beq_iff_eq] at hquote
    rcases hquote with rfl | rfl
    · exact (mem_slugChars hc).elim (by decide) (by decide)
    · exact (mem_slugChars hc).elim (by decide) (by decide)

/-- **What a template gives back**: the name of the source up to the first quotation mark of the anchor. -/
theorem templateSource?_templateText (s : TaskSection) :
    templateSource? s.templateText.toList = some ("_auto_" ++ s.readAnchor).toList := by
  have hread : s.sourceName.toList.takeWhile (!isQuote ·) = ("_auto_" ++ s.readAnchor).toList := by
    rw [sourceName, readAnchor, String.toList_append, String.toList_append, String.toList_ofList,
      List.takeWhile_append_of_pos (by simp [isQuote]), String.toList_ofList]
  obtain ⟨later, hlater⟩ : ∃ later, template s.sourceName =
      ("<div class=\"livedoc-tasks\" " ++ ("lvt-source=\"" ++ s.sourceName ++ "\"") ++ ">") :: later := ⟨_, rfl⟩
  obtain ⟨after, hafter⟩ : ∃ after, s.templateText.toList =
      "<div class=\"livedoc-tasks\" lvt-source=\"".toList ++ (s.sourceName.toList ++ '"' :: after) := by
    rw [templateText, String.toList_join, hlater, List.map_cons, List.flatMap_cons]
    simp only [String.toList_append, String.reduceToList, List.append_assoc, List.cons_append, List.nil_append]
    exact ⟨_, rfl⟩
  rw [hafter, templateSource?_template (by simp [hread]), hread]

end TaskSection

/-! ## Blocks -/

namespace Synthesis

open TaskSection BlockSet

variable {body file : String} {s : TaskSection} {placed : List PlacedEvent} {lines : LineMap} {blocks : List CodeBlock}
  {cb : CodeBlock} {i : Nat}

/-- Events show the code block that replaces a section: at some place they open a fence with the section's template as
content. -/
def Shows (placed : List PlacedEvent) (s : TaskSection) (i : Nat) : Prop :=
  ∃ before e content, placed = before ++ e :: content ∧ i = before.length ∧
    e.event = .start (.codeBlock (some "lvt")) ∧ codeContent content = s.templateText

/-- The events of a code block that replaces a section, line by line. -/
def blockEvents (s : TaskSection) (span : Span) : List PlacedEvent :=
  ⟨.start (.codeBlock (some "lvt")), span⟩ :: (template s.sourceName).map (fun line => ⟨.text (line ++ "\n"), span⟩) ++
    [⟨.stop .codeBlock, span⟩]

theorem shows_blockEvents (s : TaskSection) (span : Span) : Shows (blockEvents s span) s 0 := by
  refine ⟨[], _, _, rfl, rfl, rfl, ?_⟩
  rw [codeContent, List.append_eq, List.takeWhile_append_of_pos (by simp [Event.closesCode]),
    List.takeWhile_cons_of_neg (by simp [Event.closesCode]), List.append_nil, List.map_map]
  rfl

/-- One block is collected from the events of one. -/
theorem collectBlocks_blockEvents (lines : LineMap) (s : TaskSection) (span : Span) :
    CodeApart false (blockEvents s span) ∧ ∃ cb, collectBlocks lines (blockEvents s span) = .ok [cb] := by
  have hparse : InfoString.parse "lvt" = .ok { language := "lvt", type := some .lvt } := by decide
  refine ⟨by simp [blockEvents, template, CodeApart, Event.opensCode, Event.isCode, Event.closesCode], ?_⟩
  simp only [collectBlocks, blockEvents, collectFrom, List.cons_append, hparse]
  exact ⟨_, rfl⟩

/-- **What is collected of a generated block**: the anchor is that of the section up to its first quotation mark. -/
theorem exists_block_of_shows (hcode : CodeApart false placed) (hblocks : collectBlocks lines placed = .ok blocks)
    (h : Shows placed s i) : ∃ cb ∈ blocks, cb.eventIndex = i ∧ cb.type = .lvt ∧
      cb.metadata = [("lvt-source", "_auto_" ++ s.readAnchor)] := by
  obtain ⟨before, e, content, rfl, rfl, he, hcontent⟩ := h
  have hparse : InfoString.parse "lvt" = .ok { language := "lvt", type := some .lvt } := by decide
  refine ⟨{ type := .lvt, language := "lvt", flags := [], metadata := [("lvt-source", "_auto_" ++ s.readAnchor)],
            content := s.templateText, line := lines.lineOf e.span.start, eventIndex := 0 + before.length },
    mem_of_collectFrom hcode hblocks he hparse ?_, Nat.zero_add _, rfl, rfl⟩
  simp only [InfoString.toBlock?, Option.map_some, hcontent, templateSource?_templateText, String.ofList_toList]
  rw [if_pos (by decide)]
  rfl

/-- A block with a source and without a state of its own has no fault just where the source is there. -/
theorem faultOf?_resolve {b : InteractiveBlock} {id name : String} {last : Option String}
    (hcb : cb.metadata = [("lvt-source", name)]) (hb : cb.resolve id last = .interactive b) :
    b.sourceRef = some name ∧ ∀ set sources, faultOf? set sources b = none ↔ sources.contains name = true := by
  have hlvt : cb.type = .lvt := by
    have htype : (cb.resolve id last).type = cb.type := CodeBlock.type_resolve
    rw [← htype, hb]
    rfl
  have hsource : cb.sourceRef = some name := by
    rw [CodeBlock.sourceRef, hcb]
    rfl
  have hstate : cb.stateRef last = none := by
    rw [CodeBlock.stateRef, hsource, hcb]
    rfl
  rw [CodeBlock.resolve, hlvt, Block.interactive.injEq] at hb
  subst hb
  refine ⟨hsource, fun set sources => ?_⟩
  simp only [faultOf?, hsource, hstate, Option.bind_some]
  cases sources.contains name <;> simp

/-- A block is bound to the source of a section: it has the name under which that source is made, its reference holds
whatever else is on the page, and the name leads to that source unless the author declares one of this very name. -/
structure BoundToOwn (body file : String) (s : TaskSection) (cb : CodeBlock) : Prop where
  named : cb.metadata.find? "lvt-source" = some s.sourceName
  made : (synthesize body file).sources.find? s.sourceName = some (.markdownSection file s.anchor)
  noFault : ∀ declared set id last b, cb.resolve id last = .interactive b →
    faultOf? set (mergeSources declared (synthesize body file).sources) b = none
  leads : ∀ declared, (mergeSources declared (synthesize body file).sources).find? s.sourceName =
    some ((declared.find? s.sourceName).getD (.markdownSection file s.anchor))

/-- **Generated blocks are bound to their own sources unless anchors hold quotation marks.** Where events show the block
that replaces a section, a block is collected. It is bound to the section's source just where the anchor holds no
quotation mark, as no slug does. Else the name that it has ends before the mark, and it has a fault unless the author
declares that name or another section has what comes before the mark as its anchor. -/
theorem boundToOwn_iff_unquoted (file : String) (hs : s ∈ replaced body) (hcode : CodeApart false placed)
    (hblocks : collectBlocks lines placed = .ok blocks) (hshown : Shows placed s i) :
    (∃ cb ∈ blocks, cb.eventIndex = i ∧ cb.type = .lvt ∧ (BoundToOwn body file s cb ↔ s.Unquoted) ∧
      ∀ declared set id last b, cb.resolve id last = .interactive b →
        b.sourceRef = some ("_auto_" ++ s.readAnchor) ∧
        (faultOf? set (mergeSources declared (synthesize body file).sources) b = none ↔
          "_auto_" ++ s.readAnchor ∈ declared.names ∨ ∃ t ∈ replaced body, t.anchor = s.readAnchor)) ∧
    (∀ level text, (lineKinds body)[s.headingLine]? = some (.heading level text s.anchor false) → s.Unquoted) ∧
    CodeApart false (events (synthesize body file).body) := by
  obtain ⟨cb, hcb, hi, htype, hmetadata⟩ := exists_block_of_shows hcode hblocks hshown
  have hname : cb.metadata.find? "lvt-source" = some ("_auto_" ++ s.readAnchor) := by
    rw [hmetadata]
    rfl
  have hfault (declared set id last b) (hb : cb.resolve id last = .interactive b) :
      b.sourceRef = some ("_auto_" ++ s.readAnchor) ∧
      (faultOf? set (mergeSources declared (synthesize body file).sources) b = none ↔
        "_auto_" ++ s.readAnchor ∈ declared.names ∨ ∃ t ∈ replaced body, t.anchor = s.readAnchor) := by
    obtain ⟨hsource, hiff⟩ := faultOf?_resolve hmetadata hb
    refine ⟨hsource, ((hiff _ _).trans contains_mergeSources).trans (or_congr_right (exists_congr fun t => ?_))⟩
    rw [sourceName, String.append_right_inj]
  refine ⟨⟨cb, hcb, hi, htype, ⟨fun h => ?_, fun h => ?_⟩, hfault⟩, fun level text => unquoted_of_slug,
    codeApart_events _⟩
  · have heq := Option.some.inj (hname.symm.trans h.named)
    rw [sourceName, String.append_right_inj] at heq
    exact readAnchor_eq_iff.1 heq
  · have hread : s.readAnchor = s.anchor := readAnchor_eq_iff.2 h
    refine ⟨by rw [hname, hread]; rfl, find?_sources hs, fun declared set id last b hb => ?_, fun declared => ?_⟩
    · exact (hfault declared set id last b hb).2.2 (.inr ⟨s, hs, hread.symm⟩)
    · rw [find?_mergeSources, find?_sources hs]
      cases declared.find? s.sourceName <;> rfl

/-- A section without quotation marks in its anchor is served by its own source. -/
theorem openTask_boundToOwn :
    ⟨"A", "a", 1, 0, 1, 2⟩ ∈ replaced "# A\n- [ ] t" ∧
    ∃ cb, collectBlocks (.identity "" 1) (blockEvents ⟨"A", "a", 1, 0, 1, 2⟩ ⟨5, 600⟩) = .ok [cb] ∧
      BoundToOwn "# A\n- [ ] t" "page.md" ⟨"A", "a", 1, 0, 1, 2⟩ cb := by
  have hreplaced : ⟨"A", "a", 1, 0, 1, 2⟩ ∈ replaced "# A\n- [ ] t" := by decide +kernel
  obtain ⟨hcode, cb, hblocks⟩ := collectBlocks_blockEvents (.identity "" 1) ⟨"A", "a", 1, 0, 1, 2⟩ ⟨5, 600⟩
  obtain ⟨cb', hcb, -, -, hiff, -⟩ :=
    (boundToOwn_iff_unquoted "page.md" hreplaced hcode hblocks (shows_blockEvents _ _)).1
  obtain rfl := List.mem_singleton.1 hcb
  exact ⟨hreplaced, cb', hblocks, hiff.2 (by simp [Unquoted, isQuote])⟩

/-- The block of this section is bound to `_auto_a`, which is nothing here: the section's source is `_auto_a"b`. -/
theorem quotedAnchor_not_bound :
    ⟨"A", "a\"b", 1, 0, 1, 2⟩ ∈ replaced "# A \x7b#a\"b\x7d\n- [ ] t" ∧
    ∃ cb b, collectBlocks (.identity "" 1) (blockEvents ⟨"A", "a\"b", 1, 0, 1, 2⟩ ⟨14, 600⟩) = .ok [cb] ∧
      cb.resolve "lvt-0" none = .interactive b ∧ b.sourceRef = some "_auto_a" ∧
      ∀ set, faultOf? set (mergeSources [] (synthesize "# A \x7b#a\"b\x7d\n- [ ] t" "page.md").sources) b ≠ none := by
  have hreplaced : replaced "# A \x7b#a\"b\x7d\n- [ ] t" = [⟨"A", "a\"b", 1, 0, 1, 2⟩] := by decide +kernel
  obtain ⟨hcode, cb, hblocks⟩ := collectBlocks_blockEvents (.identity "" 1) ⟨"A", "a\"b", 1, 0, 1, 2⟩ ⟨14, 600⟩
  obtain ⟨cb', hcb, -, htype, hmetadata⟩ := exists_block_of_shows hcode hblocks (shows_blockEvents _ _)
  obtain rfl := List.mem_singleton.1 hcb
  have hresolve : ∃ b, cb'.resolve "lvt-0" none = .interactive b := by
    rw [CodeBlock.resolve, htype]
    exact ⟨_, rfl⟩
  obtain ⟨b, hb⟩ := hresolve
  refine ⟨by rw [hreplaced]; exact List.mem_cons_self, cb', b, hblocks, hb,
    (faultOf?_resolve hmetadata hb).1, fun set hnone => ?_⟩
  rcases contains_mergeSources.1 (((faultOf?_resolve hmetadata hb).2 _ _).1 hnone) with hdeclared | ⟨t, ht, hname⟩
  · cases hdeclared
  · rw [hreplaced, List.mem_singleton] at ht
    subst ht
    exact absurd hname (by decide)

end Synthesis

end LivePage
