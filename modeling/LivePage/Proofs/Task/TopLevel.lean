import LivePage.Proofs.Markdown.OpenTags
import LivePage.Proofs.Markdown.SourceText
import LivePage.Proofs.Task.Section
/-!
# Sections and containers

A heading opens a section only where it comes first on its line. So it is not in a quote, which puts its marker on
every line, but it may be in an item or in a footnote definition, which go on by indentation alone.
-/
namespace LivePage

open Text Markdown

namespace Markdown

/-- Whether a tag opens a block that holds blocks of its own, other than a list. -/
def Tag.isContainer : Tag → Bool
  | .blockQuote | .item | .footnoteDefinition _ => true
  | _ => false

/-- No container is open. -/
def TopLevel (tags : List Tag) : Prop := ∀ tag ∈ tags, tag.isContainer = false

instance (tags : List Tag) : Decidable (TopLevel tags) := inferInstanceAs (Decidable (∀ tag ∈ tags, _))

/-- What is open before an event, the one with a number, of a source. -/
def openAt (source : String) (n : Nat) : List Tag := openTags [] ((events source).take n)

end Markdown

namespace TextLines.Heads

variable {source : String} {n i : Nat} {e : PlacedEvent} {k : LineKind}

theorem admits (h : (ofText source.toList).Heads (events source) n e i k) :
    ∀ tag ∈ openAt source n, tag.Admits (Buffer.ofString source) e.span.start := by
  obtain ⟨level, attributes, he, -⟩ := h.opens
  obtain ⟨hn, rfl⟩ := List.getElem?_eq_some_iff.1 h.event
  have hwithin := headingsWithin_events source
  rw [← List.take_append_drop n (events source), List.drop_eq_getElem_cons hn] at hwithin
  exact hwithin.admits he

/-- A heading that comes first on its line is not in a quote. -/
theorem blockQuote_not_mem (h : (ofText source.toList).Heads (events source) n e i k) :
    .blockQuote ∉ openAt source n := by
  intro hmem
  have hinked : (Buffer.ofString source).Inked e.span.start := h.admits _ hmem
  exact Bool.false_ne_true (hinked.not_isBlankText_before.symm.trans h.first)

/-- A heading with nothing before it on its line is in no container. -/
theorem topLevel (h : (ofText source.toList).Heads (events source) n e i k)
    (hstart : (ofText source.toList).before e.span.start = []) : TopLevel (openAt source n) := by
  intro tag htag
  cases hcontainer : tag.isContainer with
  | false => rfl
  | true =>
    refine absurd hstart (Buffer.Indented.before_ne_nil ?_)
    have hadmits := h.admits tag htag
    cases tag <;> first | exact hadmits | exact hadmits.indented | cases hcontainer

end TextLines.Heads

namespace TaskSection

variable {body : String} {s : TaskSection}

/-- **What sections are headed by**: a heading which an event opens on the section's heading line, with nothing but white
space before it. It is never in a quote. If nothing at all comes before it on its line, it is in no container. -/
theorem detect_headed (h : s ∈ detect body) :
    ∃ n e explicit,
      (TextLines.ofText body.toList).Heads (events body) n e s.headingLine (.heading s.level s.heading s.anchor explicit) ∧
        .blockQuote ∉ openAt body n ∧
        ((TextLines.ofText body.toList).before e.span.start = [] → TopLevel (openAt body n)) := by
  obtain ⟨explicit, hkind⟩ := (mem_detect_iff.1 h).heading
  obtain ⟨n, e, hheads⟩ := heading_of_lineKinds rfl hkind
  exact ⟨n, e, explicit, hheads, hheads.blockQuote_not_mem, hheads.topLevel⟩

theorem flushHeading_headed :
    ∃ n e explicit,
      (TextLines.ofText "# A\n- [ ] t\n".toList).Heads (events "# A\n- [ ] t\n") n e 0 (.heading 1 "A" "a" explicit) ∧
        .blockQuote ∉ openAt "# A\n- [ ] t\n" n ∧
        ((TextLines.ofText "# A\n- [ ] t\n".toList).before e.span.start = [] → TopLevel (openAt "# A\n- [ ] t\n" n)) :=
  detect_headed (s := ⟨"A", "a", 1, 0, 1, 3⟩) (by decide +kernel)

/-- The heading of a section may be in an item, which nothing but white space puts on the heading's line. -/
theorem indentedHeading_nested :
    ∃ s ∈ detect "- a\n\n  # B\n  - [ ] t\n", ∀ n e explicit,
      (TextLines.ofText "- a\n\n  # B\n  - [ ] t\n".toList).Heads (events "- a\n\n  # B\n  - [ ] t\n") n e s.headingLine
        (.heading s.level s.heading s.anchor explicit) → ¬ TopLevel (openAt "- a\n\n  # B\n  - [ ] t\n" n) := by
  refine ⟨⟨"B", "b", 1, 2, 3, 5⟩, by decide +kernel, fun n e explicit h => ?_⟩
  -- Events that open nothing but a list, an item or a paragraph are not the heading's, and an item is open at all others.
  have hothers : ∀ p ∈ (events "- a\n\n  # B\n  - [ ] t\n").zipIdx,
      (∀ tag ∈ openTags [] [p.1], tag ∈ [.list none, .item, .paragraph]) ∨
        ¬ TopLevel (openAt "- a\n\n  # B\n  - [ ] t\n" p.2) := by
    decide +kernel
  obtain ⟨level, attributes, he, -⟩ := h.opens
  refine (hothers (e, n) (List.mk_mem_zipIdx_iff_getElem?.2 h.event)).resolve_left fun hopens => ?_
  have hheading : openTags [] [e] = [.heading level attributes] := by simp [openTags, he]
  rw [hheading, List.forall_mem_singleton] at hopens
  simp at hopens

end TaskSection

end LivePage
