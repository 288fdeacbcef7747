import LivePage.Proofs.Markdown.BlockNesting
import LivePage.Proofs.Markdown.CodeBlock
/-!
# What is open around a heading

The events of a document tell what is open at each of them. At an event that opens a heading, every container that is
open has put on the line what it needs before the heading.
-/
namespace LivePage.Markdown

/-- What is open after some events, innermost first, given what was open before them. -/
def openTags : List Tag → List PlacedEvent → List Tag
  | tags, [] => tags
  | tags, e :: rest =>
    match e.event with
    | .start tag => openTags (tag :: tags) rest
    | .stop _ => openTags tags.tail rest
    | _ => openTags tags rest

/-- What stands on a line before a block within what a tag opens. -/
def Tag.Admits (b : Buffer) (j : Nat) : Tag → Prop
  | .blockQuote => b.Inked j
  | .item | .footnoteDefinition _ => b.Indented j
  | _ => True

/-- Headings that events open stand where all that is open around them admits them. -/
def HeadingsWithin (b : Buffer) : List Tag → List PlacedEvent → Prop
  | _, [] => True
  | tags, e :: rest =>
    (∀ level attributes, e.event = .start (.heading level attributes) → ∀ tag ∈ tags, tag.Admits b e.span.start) ∧
      HeadingsWithin b (openTags tags [e]) rest

/-! ## Inlines -/

section
variable {b c : Buffer} {o : Outline}

theorem Body.not_admits_of_holdsText {body : Body} (h : Node.holdsText body = true) (j : Nat) : ¬ body.Admits b j := by
  cases body <;> first | exact fun hadmits => absurd (h.symm.trans hadmits) (by decide) | cases h

mutual

theorem headingsAt_readInlines {P : Nat → Prop} (spine : List Body) (n : Node) (h : HeadingsAt b P n) :
    HeadingsAt b P (Node.readInlines c o spine n) := by
  obtain ⟨body, start, stop, children⟩ := n
  obtain ⟨own, inner⟩ := headingsAt_iff.1 h
  unfold Node.readInlines
  dsimp only at own inner ⊢
  split_ifs with htext
  · -- Nothing in a block of text is a heading, whatever its inlines turn out to be.
    refine ⟨own, fun d hd => NoHeading.headingsAt ?_ _⟩
    refine Node.noHeading_findInlines _ (fun m hm => ?_) d hd
    exact (inner m hm).noHeading fun j hj => Body.not_admits_of_holdsText htext j hj.2
  · exact ⟨own, headingsAt_readInlinesOfAll _ children inner⟩

theorem headingsAt_readInlinesOfAll {P : Nat → Prop} (spine : List Body) (nodes : List Node)
    (h : ∀ n ∈ nodes, HeadingsAt b P n) :
    ∀ n ∈ Node.readInlinesOfAll c o spine nodes, HeadingsAt b P n := by
  cases nodes with
  | nil => simp [Node.readInlinesOfAll]
  | cons n rest =>
    rw [List.forall_mem_cons] at h
    rw [Node.readInlinesOfAll]
    exact List.forall_mem_cons.2 ⟨headingsAt_readInlines spine n h.1, headingsAt_readInlinesOfAll spine rest h.2⟩

end

end

/-! ## Events -/

section
variable {b c : Buffer}

theorem Body.Admits.tag {body : Body} {tag : Tag} {j : Nat} (h : body.Admits b j) (htag : body.tag? = some tag) :
    tag.Admits b j := by
  cases body <;> first | cases htag; exact h | (cases htag; trivial) | cases htag

/-- A node without content has one event, which opens and closes nothing. -/
theorem headingsWithin_bodyEvent {tags : List Tag} {rest : List PlacedEvent} (body : Body) (piece : String) (span : Span)
    (h : HeadingsWithin b tags rest) : HeadingsWithin b tags (⟨body.event piece, span⟩ :: rest) := by
  cases body <;> exact ⟨by simp [Body.event], h⟩

theorem headingsWithin_codeEvents {tags : List Tag} {rest : List PlacedEvent} (children : List Node)
    (h : HeadingsWithin b tags rest) :
    HeadingsWithin b tags (children.map (Node.codeEvent c) ++ rest) := by
  induction children with
  | nil => exact h
  | cons n children ih =>
    obtain ⟨text, span, hevent⟩ := isText_codeEvent c n
    rw [List.map_cons, List.cons_append, hevent]
    exact ⟨by simp, ih⟩

mutual

theorem headingsWithin_node {P : Nat → Prop} {tags : List Tag} {rest : List PlacedEvent} (n : Node)
    (hn : HeadingsAt b P n) (hP : ∀ j, P j → ∀ tag ∈ tags, tag.Admits b j) (h : HeadingsWithin b tags rest) :
    HeadingsWithin b tags (n.events c ++ rest) := by
  obtain ⟨body, start, stop, children⟩ := n
  obtain ⟨own, inner⟩ := headingsAt_iff.1 hn
  dsimp only at own inner
  rw [Node.events]
  split
  · rw [List.cons_append, List.append_assoc]
    exact ⟨by simp, headingsWithin_codeEvents children ⟨by simp, h⟩⟩
  · rename_i tag _ htag
    rw [List.cons_append, List.append_assoc]
    refine ⟨fun level attributes heq => ?_, ?_⟩
    · obtain rfl := Event.start.inj heq
      refine hP start (own ?_)
      cases body <;> first | rfl | cases htag
    · refine headingsWithin_nodes children inner (fun j hj => ?_) ⟨by simp, h⟩
      exact List.forall_mem_cons.2 ⟨hj.2.tag htag, hP j hj.1⟩
  · split_ifs
    · exact headingsWithin_nodes children inner (fun j hj => hP j hj.1) h
    · rw [List.singleton_append]
      exact headingsWithin_bodyEvent _ _ _ h

theorem headingsWithin_nodes {P : Nat → Prop} {tags : List Tag} {rest : List PlacedEvent} (nodes : List Node)
    (hn : ∀ n ∈ nodes, HeadingsAt b P n) (hP : ∀ j, P j → ∀ tag ∈ tags, tag.Admits b j) (h : HeadingsWithin b tags rest) :
    HeadingsWithin b tags (Node.eventsOfAll c nodes ++ rest) := by
  cases nodes with
  | nil => exact h
  | cons n nodes =>
    rw [List.forall_mem_cons] at hn
    rw [Node.eventsOfAll, List.append_assoc]
    exact headingsWithin_node n hn.1 hP (headingsWithin_nodes nodes hn.2 hP h)

end

end

/-- **Headings stand within what is open around them**: after the marker of a quote on their line, and not at the start
of the line within an item or a footnote definition. -/
theorem headingsWithin_events (source : String) : HeadingsWithin (Buffer.ofString source) [] (events source) := by
  rw [events, ← List.append_nil (Node.eventsOfAll _ _)]
  refine headingsWithin_nodes _ (headingsAt_readInlinesOfAll _ _ (headingsAt_read _)) (fun j _ => by simp) trivial

theorem HeadingsWithin.admits {b : Buffer} {tags : List Tag} {before after : List PlacedEvent} {e : PlacedEvent}
    {level : Nat} {attributes : HeadingAttributes} (h : HeadingsWithin b tags (before ++ e :: after))
    (he : e.event = .start (.heading level attributes)) : ∀ tag ∈ openTags tags before, tag.Admits b e.span.start := by
  induction before generalizing tags with
  | nil => exact h.1 level attributes he
  | cons d before ih =>
    have hrest := ih h.2
    rw [openTags] at hrest ⊢
    split at hrest <;> simpa [*, openTags] using hrest

end LivePage.Markdown
