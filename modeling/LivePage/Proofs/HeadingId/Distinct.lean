import LivePage.Proofs.HeadingId
import LivePage.Proofs.Markdown.Heading
/-!
# Which ids headings get

Ids are given from left to right. A heading gets its anchor with the least number that makes it differ from all ids
that authors wrote, anywhere on the page, and from those of the headings before it. The headings after it keep clear
of it in turn, so an id that was given is never that of another heading.
-/
namespace LivePage

open Markdown

namespace HeadingId

/-- An anchor with the least number that makes it free. It has no number where it is free as it is. -/
def IsLeastFree (used : String → Prop) (anchor id : String) : Prop :=
  ∃ n, id = numbered anchor n ∧ ¬ used id ∧ ∀ m < n, used (numbered anchor m)

section
variable {used : String → Prop} {taken : List String} {inside : Bool} {h : HeadingAttributes} {rest : List Event}

theorem isLeastFree_fresh (htaken : ∀ a, a ∈ taken ↔ used a) (anchor : String) :
    IsLeastFree used anchor (fresh taken anchor) := by
  obtain ⟨n, hn, hfree, hleast⟩ := exists_least taken anchor
  rw [hn]
  exact ⟨n, rfl, fun hused => hfree ((htaken _).2 hused), fun m hm => (htaken _).1 (hleast m hm)⟩

/-- A heading stays as it is if it has an id or no anchor, or is content of a heading without an id. -/
theorem exists_assign_kept (taken : List String) (level : Nat)
    (h' : h.id.isSome ∨ slugify (words rest) = "" ∨ inside = true) :
    ∃ back, assign taken inside (.start (.heading level h) :: rest) = .start (.heading level h) :: back := by
  cases inside with
  | true => exact ⟨_, rfl⟩
  | false =>
    cases hid : h.id with
    | some id => exact ⟨assign taken false rest, by simp only [assign, hid]⟩
    | none =>
      have hwords : slugify (words rest) = "" := by simpa [hid] using h'
      exact ⟨_, assign_wordless taken level hid hwords⟩

end

/-! ## Headings of a document -/

/-- A heading without an id is open after an event that opens a heading, or it stays open. -/
theorem opens_or_stays {e : Event} {inside : Bool} (h : e.namelessAfter inside = true) :
    e.opensHeading = true ∨ inside = true ∧ e.closesHeading = false := by
  unfold Event.namelessAfter at h
  split at h
  · exact .inl rfl
  · exact .inr (by simpa using h)

/-- Where headings do not nest, a heading is never content of another one. -/
theorem foldl_namelessAfter_eq_false {inside opened : Bool} {before after : List PlacedEvent} {e : PlacedEvent}
    (hapart : HeadingsApart opened (before ++ e :: after)) (he : e.event.opensHeading = true)
    (himp : inside = true → opened = true) :
    (before.map (·.event)).foldl (fun opened e => e.namelessAfter opened) inside = false := by
  induction before generalizing inside opened with
  | nil =>
    cases opened with
    | true =>
      rw [hapart.1] at he
      cases he
    | false => exact eq_false_of_ne_true fun hinside => Bool.false_ne_true (himp hinside)
  | cons d before ih =>
    cases opened with
    | true =>
      refine ih hapart.2 fun hafter => ?_
      rcases opens_or_stays hafter with hopens | ⟨-, hcloses⟩
      · exact absurd (hapart.1.symm.trans hopens) Bool.false_ne_true
      · rw [hcloses]
        rfl
    | false =>
      refine ih hapart fun hafter => ?_
      rcases opens_or_stays hafter with hopens | ⟨hinside, -⟩
      · exact hopens
      · exact absurd (himp hinside) Bool.false_ne_true

theorem namelessOpen_of_document {source : String} {before rest : List Event} {level : Nat} {h : HeadingAttributes}
    (hevents : (events source).map (·.event) = before ++ .start (.heading level h) :: rest) :
    namelessOpen before = false := by
  obtain ⟨front, back, hsplit, rfl, hback⟩ := List.map_eq_append_iff.1 hevents
  obtain ⟨e, after, rfl, he, -⟩ := List.map_eq_cons_iff.1 hback
  have hapart := headingsApart_events source
  rw [hsplit] at hapart
  exact foldl_namelessAfter_eq_false hapart (by rw [he]; rfl) id

end HeadingId

open HeadingId

/-- **Ids of headings.** Whatever the events, giving ids changes nothing but the ids of headings that have none. A
heading keeps the id that its author wrote, and without an anchor it gets none. Else it gets its anchor with the least
number, if any, that makes it differ from all ids that authors wrote and those of the headings before it, and then no
heading after it has that id. What stands in an open heading without an id is its content and stays as it is; in a
document this is never another heading. -/
theorem assignHeadingIds_distinct (events : List Event) :
    List.Forall₂ GainsId events (assignHeadingIds events) ∧
    (∀ before level h rest, events = before ++ .start (.heading level h) :: rest →
      ∃ front h' back, assignHeadingIds events = front ++ .start (.heading level h') :: back ∧
        front.length = before.length ∧
        (h.id.isSome ∨ slugify (words rest) = "" ∨ namelessOpen before = true → h' = h) ∧
        (h.id = none → slugify (words rest) ≠ "" → namelessOpen before = false →
          ∃ id, h' = { h with id := some id } ∧
            IsLeastFree (fun a => a ∈ explicit events ∨ a ∈ explicit front) (slugify (words rest)) id.text ∧
            id.text ∉ explicit back)) ∧
    ∀ source before level h rest,
      (Markdown.events source).map (·.event) = before ++ .start (.heading level h) :: rest →
        namelessOpen before = false := by
  refine ⟨assign_gainsId _ _ _, fun before level h rest hevents => ?_, fun source before level h rest hevents =>
    namelessOpen_of_document hevents⟩
  obtain ⟨front, taken, hassign, hlength, -, htaken⟩ := assignHeadingIds_append hevents
  by_cases hkept : h.id.isSome ∨ slugify (words rest) = "" ∨ namelessOpen before = true
  · obtain ⟨back, hback⟩ := exists_assign_kept taken level hkept
    rw [hback] at hassign
    refine ⟨front, h, back, hassign, hlength, fun _ => rfl, fun hid hwords hopen => ?_⟩
    rw [hid, hopen] at hkept
    exact absurd hkept (by simp [hwords])
  · simp only [not_or, Bool.not_eq_true, Option.isSome_eq_false_iff, Option.isNone_iff_eq_none] at hkept
    obtain ⟨hid, hwords, hopen⟩ := hkept
    obtain ⟨id, hfresh, hheading⟩ := assign_heading taken level hid hwords
    rw [hopen, hheading] at hassign
    refine ⟨front, _, _, hassign, hlength, fun hkept => ?_, fun _ _ _ => ⟨id, rfl, ?_, fun hback => ?_⟩⟩
    · rw [hid, hopen] at hkept
      exact absurd hkept (by simp [hwords])
    · rw [hfresh]
      exact isLeastFree_fresh htaken _
    · rcases mem_explicit_assign hback with hrest | hnot
      · -- An author's id further down is among those that the search for a free one has left out.
        refine fresh_not_mem taken (slugify (words rest)) (hfresh ▸ (htaken _).2 (.inl ?_))
        rw [hevents, explicit_append, explicit_cons]
        exact List.mem_append_right _ (List.mem_append_right _ hrest)
      · exact hnot List.mem_cons_self

/-- Two headings with the same words, and one further down whose author wrote the id that the second would get. -/
def setupPage : List Event :=
  [.start (.heading 1 {}), .text "Setup", .stop (.heading 1), .start (.heading 2 {}), .text "Setup", .stop (.heading 2),
    .start (.heading 2 { id := some ⟨"setup-1", by decide⟩ }), .text "Later", .stop (.heading 2)]

/-- The second heading passes over the number that makes it the id of the third. -/
theorem setupPage_distinct :
    ∃ front h' back, assignHeadingIds setupPage = front ++ .start (.heading 2 h') :: back ∧ front.length = 3 ∧
      ∃ id : HeadingName, h' = { id := some id } ∧
        IsLeastFree (fun a => a ∈ explicit setupPage ∨ a ∈ explicit front) "setup" id.text ∧ id.text = "setup-2" ∧
        id.text ∉ explicit back := by
  obtain ⟨front, h', back, hassign, hlength, -, hgiven⟩ :=
    (assignHeadingIds_distinct setupPage).2.1 (setupPage.take 3) 2 {} (setupPage.drop 4) rfl
  have hwords : slugify (words (setupPage.drop 4)) = "setup" := by decide +kernel
  rw [hwords] at hgiven
  obtain ⟨id, hh', hleast, hback⟩ := hgiven rfl (by decide) (by decide)
  have hids : explicit ((assignHeadingIds setupPage).drop 3) = ["setup-2", "setup-1"] := by decide +kernel
  rw [hassign, List.drop_left' (show front.length = 3 from hlength), explicit_cons, hh'] at hids
  exact ⟨front, h', back, hassign, hlength, id, hh', hleast, (List.cons.inj hids).1, hback⟩

end LivePage
