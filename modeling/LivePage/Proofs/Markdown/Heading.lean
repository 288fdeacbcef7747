import LivePage.Proofs.Markdown.OpenTags
/-!
# Headings do not nest

A heading runs from the event that opens it to the next one that closes a heading. In a document there is no other
heading between the two, since what a heading holds is inlines.
-/
namespace LivePage.Markdown

namespace Event

def opensHeading : Event → Bool
  | start (.heading _ _) => true
  | _ => false

theorem opensHeading_bodyEvent (piece : String) (body : Body) : (body.event piece).opensHeading = false := by
  cases body <;> rfl

theorem closesHeading_bodyEvent (piece : String) (body : Body) : (body.event piece).closesHeading = false := by
  cases body <;> rfl

theorem closesHeading_stop_toEnd (tag : Tag) : (stop tag.toEnd).closesHeading = (start tag).opensHeading := by
  cases tag <;> rfl

end Event

/-- No heading opens within another; the flag tells whether one is open at the start. -/
def HeadingsApart : Bool → List PlacedEvent → Prop
  | _, [] => True
  | true, e :: rest => e.event.opensHeading = false ∧ HeadingsApart (!e.event.closesHeading) rest
  | false, e :: rest => HeadingsApart e.event.opensHeading rest

section
variable {opened : Bool} {rest : List PlacedEvent} {e : PlacedEvent}

/-- An event that neither opens nor closes a heading leaves it open or not. -/
theorem headingsApart_cons (hopens : e.event.opensHeading = false) (hcloses : e.event.closesHeading = false)
    (h : HeadingsApart opened rest) : HeadingsApart opened (e :: rest) := by
  cases opened with
  | true =>
    refine ⟨hopens, ?_⟩
    rw [hcloses]
    exact h
  | false =>
    unfold HeadingsApart
    rw [hopens]
    exact h

theorem headingsApart_codeEvents (c : Buffer) (children : List Node) (h : HeadingsApart opened rest) :
    HeadingsApart opened (children.map (Node.codeEvent c) ++ rest) := by
  induction children with
  | nil => exact h
  | cons n children ih =>
    obtain ⟨text, span, hevent⟩ := isText_codeEvent c n
    rw [List.map_cons, List.cons_append, hevent]
    exact headingsApart_cons rfl rfl ih

end

section
variable {b c : Buffer}

mutual

/-- Where a heading is open, no other is admitted; what a node holds is admitted by the node, too. -/
theorem headingsApart_node {P : Nat → Prop} {opened : Bool} {rest : List PlacedEvent} (n : Node)
    (hn : HeadingsAt b P n) (hP : opened = true → ∀ j, ¬ P j) (h : HeadingsApart opened rest) :
    HeadingsApart opened (n.events c ++ rest) := by
  obtain ⟨body, start, stop, children⟩ := n
  obtain ⟨own, inner⟩ := headingsAt_iff.1 hn
  dsimp only at own inner
  rw [Node.events]
  split
  · rw [List.cons_append, List.append_assoc]
    exact headingsApart_cons rfl rfl (headingsApart_codeEvents c children (headingsApart_cons rfl rfl h))
  · rename_i tag _ htag
    rw [List.cons_append, List.append_assoc]
    cases hheading : (Event.start tag).opensHeading with
    | true =>
      -- A heading is admitted here, so none is open, and what it holds admits no other.
      have hbody : body.isHeading = true := by cases body <;> cases htag <;> first | rfl | cases hheading
      have hclosed : opened = false := eq_false_of_ne_true fun hopen => hP hopen start (own hbody)
      have htext : Node.holdsText body = true := by cases body <;> first | rfl | cases hbody
      subst hclosed
      unfold HeadingsApart
      rw [hheading]
      refine headingsApart_nodes children inner (fun _ j hj => Body.not_admits_of_holdsText htext j hj.2) ⟨?_, ?_⟩
      · rfl
      · rw [Event.closesHeading_stop_toEnd, hheading]
        exact h
    | false =>
      refine headingsApart_cons hheading rfl (headingsApart_nodes children inner (fun hopen j hj => hP hopen j hj.1) ?_)
      exact headingsApart_cons rfl ((Event.closesHeading_stop_toEnd tag).trans hheading) h
  · split_ifs
    · exact headingsApart_nodes children inner (fun hopen j hj => hP hopen j hj.1) h
    · rw [List.singleton_append]
      exact headingsApart_cons (Event.opensHeading_bodyEvent _ _) (Event.closesHeading_bodyEvent _ _) h

theorem headingsApart_nodes {P : Nat → Prop} {opened : Bool} {rest : List PlacedEvent} (nodes : List Node)
    (hn : ∀ n ∈ nodes, HeadingsAt b P n) (hP : opened = true → ∀ j, ¬ P j) (h : HeadingsApart opened rest) :
    HeadingsApart opened (Node.eventsOfAll c nodes ++ rest) := by
  cases nodes with
  | nil => exact h
  | cons n nodes =>
    rw [List.forall_mem_cons] at hn
    rw [Node.eventsOfAll, List.append_assoc]
    exact headingsApart_node n hn.1 hP (headingsApart_nodes nodes hn.2 hP h)

end

end

/-- **In a document there is no heading within a heading.** -/
theorem headingsApart_events (source : String) : HeadingsApart false (events source) := by
  rw [events, ← List.append_nil (Node.eventsOfAll _ _)]
  exact headingsApart_nodes _ (headingsAt_readInlinesOfAll _ _ (headingsAt_read _))
    (fun hopened => absurd hopened Bool.false_ne_true) trivial

end LivePage.Markdown
