import LivePage.Block.Collect
import LivePage.Proofs.Markdown.CodeBlock
import LivePage.Proofs.Text.Bytes
/-!
# Ranges without schedules

The ranges in which no schedule is looked for lie on boundaries if the ranges of the events do, and every code block
is among them.
-/
namespace LivePage

open Text Markdown

variable {body piece cs : List Char} {offset : Nat}

/-- A piece of a text does not stand further back in it as well. -/
def StandsLast (piece before after : List Char) : Prop :=
  ∀ b a, before ++ piece ++ after = b ++ piece ++ a → b.length ≤ before.length

theorem lastOffset?_isSome (hne : piece ≠ []) (before after : List Char) :
    (lastOffset? piece offset (before ++ piece ++ after)).isSome := by
  induction before generalizing offset with
  | nil =>
    obtain ⟨c, rest, rfl⟩ := List.exists_cons_of_ne_nil hne
    have hpre : (c :: rest).isPrefixOf (c :: (rest ++ after)) = true := List.isPrefixOf_iff_prefix.2 ⟨after, rfl⟩
    rw [List.nil_append, List.cons_append, lastOffset?, if_pos hpre, Option.isSome_or, Option.isSome_some, Bool.or_true]
  | cons c before ih => rw [List.cons_append, List.cons_append, lastOffset?, Option.isSome_or, ih, Bool.true_or]

/-- **The last place at which a piece occurs.** -/
theorem lastOffset?_eq_some_iff {place : Nat} (hne : piece ≠ []) : lastOffset? piece offset cs = some place ↔
    ∃ before after, cs = before ++ piece ++ after ∧ StandsLast piece before after ∧ offset + byteLength before = place := by
  induction cs generalizing offset place with
  | nil => simp [lastOffset?, hne]
  | cons c cs ih =>
    rw [lastOffset?, Option.or_eq_some_iff]
    constructor
    · rintro (h | ⟨hnone, h⟩)
      · obtain ⟨before, after, rfl, hlast, rfl⟩ := ih.1 h
        refine ⟨c :: before, after, rfl, fun b a hb => ?_, by rw [byteLength_cons, Nat.add_assoc]⟩
        cases b with
        | nil => exact Nat.zero_le _
        | cons d b => exact Nat.succ_le_succ (hlast b a (List.cons.inj hb).2)
      · split_ifs at h with hpre
        obtain ⟨after, hafter⟩ := List.isPrefixOf_iff_prefix.1 hpre
        refine ⟨[], after, hafter.symm, fun b a hb => ?_, Option.some.inj h⟩
        cases b with
        | nil => exact Nat.le_refl _
        | cons d b =>
          -- A piece that stands in the rest is found there.
          rw [(List.cons.inj (hafter.symm.trans hb)).2] at hnone
          exact absurd hnone (Option.isSome_iff_ne_none.1 (lastOffset?_isSome hne b a))
    · rintro ⟨before, after, hcs, hlast, rfl⟩
      cases before with
      | nil =>
        refine .inr ⟨Option.eq_none_iff_forall_ne_some.2 fun place hplace => ?_, ?_⟩
        · obtain ⟨b, a, hb, -, -⟩ := ih.1 hplace
          exact absurd (hlast (c :: b) a (hcs.symm.trans (congrArg (c :: ·) hb))) (Nat.not_succ_le_zero _)
        · exact if_pos (List.isPrefixOf_iff_prefix.2 ⟨after, hcs.symm⟩)
      | cons d before =>
        obtain ⟨rfl, rfl⟩ := List.cons.inj hcs
        refine .inl (ih.2 ⟨before, after, rfl, fun b a hb => ?_, by rw [byteLength_cons, Nat.add_assoc]⟩)
        exact Nat.le_of_succ_le_succ (hlast (c :: b) a (congrArg (c :: ·) hb))

theorem destinationSpan?_onBoundaries {span s : Span} {target : LinkTarget} (h : span.OnBoundaries body)
    (hs : destinationSpan? body span target = some s) : s.OnBoundaries body := by
  unfold destinationSpan? at hs
  split at hs
  · exact Option.some.inj hs ▸ h
  · exact Option.some.inj hs ▸ h
  · dsimp only at hs
    split_ifs at hs with hempty
    obtain ⟨start, hstart, rfl⟩ := Option.map_eq_some_iff.1 hs
    obtain ⟨link, hlink, hlast⟩ := Option.bind_eq_some_iff.1 hstart
    obtain ⟨before, after, rfl, hbefore, -⟩ := sliceBytes?_eq_some_iff.1 hlink
    obtain ⟨text, rest, rfl, -, htext⟩ := (lastOffset?_eq_some_iff (by simpa using hempty)).1 hlast
    have hplace : byteLength (before ++ text) = span.start + byteLength text := by rw [byteLength_append, hbefore]
    refine ⟨Nat.le_add_right _ _, isBoundary_iff.2 ⟨before ++ text, target.destination.toList ++ rest ++ after, ?_, ?_⟩,
      isBoundary_iff.2 ⟨before ++ text ++ target.destination.toList, rest ++ after, ?_, ?_⟩⟩
    · simp
    · rw [hplace, htext]
    · simp
    · rw [byteLength_append, hplace, htext]
  · cases hs

/-- **Ranges without schedules lie on boundaries** if the ranges of the events do. -/
theorem skipRanges_onBoundaries {inside : Bool} {events : List PlacedEvent}
    (h : ∀ e ∈ events, e.span.OnBoundaries body) : ∀ r ∈ skipRanges body inside events, r.OnBoundaries body := by
  have hlink {e : PlacedEvent} {rest : List PlacedEvent} {target : LinkTarget} (he : e.span.OnBoundaries body)
      (ih : ∀ r ∈ skipRanges body false rest, r.OnBoundaries body) :
      ∀ r ∈ (destinationSpan? body e.span target).toList ++ skipRanges body false rest, r.OnBoundaries body := by
    simp only [List.mem_append, Option.mem_toList]
    rintro r (hr | hr)
    · exact destinationSpan?_onBoundaries he hr
    · exact ih r hr
  have hcode {e : PlacedEvent} {ranges : List Span} (he : e.span.OnBoundaries body)
      (ih : ∀ r ∈ ranges, r.OnBoundaries body) : ∀ r ∈ e.span :: ranges, r.OnBoundaries body := by
    simpa using ⟨he, ih⟩
  fun_induction skipRanges body inside events with
  | case1 => simp
  | case2 e rest ih => exact ih fun x hx => h x (List.mem_cons_of_mem _ hx)
  | case3 e rest info hev ih =>
    exact hcode (h e List.mem_cons_self) (ih fun x hx => h x (List.mem_cons_of_mem _ hx))
  | case4 e rest text hev ih =>
    exact hcode (h e List.mem_cons_self) (ih fun x hx => h x (List.mem_cons_of_mem _ hx))
  | case5 e rest target hev ih =>
    exact hlink (h e List.mem_cons_self) (ih fun x hx => h x (List.mem_cons_of_mem _ hx))
  | case6 e rest target hev ih =>
    exact hlink (h e List.mem_cons_self) (ih fun x hx => h x (List.mem_cons_of_mem _ hx))
  | case7 e rest _ _ _ _ ih => exact ih fun x hx => h x (List.mem_cons_of_mem _ hx)

/-! ## Code blocks -/

/-- The ranges of the code blocks among events. Inside a code block, which the flag tells, nothing starts one. -/
def codeSpans : Bool → List PlacedEvent → List Span
  | _, [] => []
  | true, e :: rest => codeSpans (!e.event.closesCode) rest
  | false, e :: rest => if e.event.opensCode then e.span :: codeSpans true rest else codeSpans false rest

/-- The ranges after an event stay ranges, where nothing is within a code block that it opens. -/
theorem skipRanges_rest_subset (body : List Char) (e : PlacedEvent) (rest : List PlacedEvent) :
    skipRanges body e.event.opensCode rest ⊆ skipRanges body false (e :: rest) := by
  obtain ⟨event, span⟩ := e
  cases event with
  | start tag =>
    cases tag with
    | codeBlock info => exact List.subset_cons_self _ _
    | link target => exact List.subset_append_right _ _
    | image target => exact List.subset_append_right _ _
    | _ => exact List.Subset.refl _
  | code text => exact List.subset_cons_self _ _
  | _ => exact List.Subset.refl _

theorem codeSpans_subset (body : List Char) (inside : Bool) (events : List PlacedEvent) :
    codeSpans inside events ⊆ skipRanges body inside events := by
  induction events generalizing inside with
  | nil => simp [codeSpans]
  | cons e rest ih =>
    cases inside with
    | true => exact ih _
    | false =>
      have hrest := skipRanges_rest_subset body e rest
      cases hopen : e.event.opensCode with
      | true =>
        obtain ⟨event, span⟩ := e
        obtain ⟨info, rfl⟩ := Event.opensCode_iff.1 hopen
        exact List.cons_subset_cons _ (ih true)
      | false =>
        rw [hopen] at hrest
        rw [codeSpans, hopen]
        exact List.Subset.trans (ih false) hrest

/-- All code is a range without schedules, but for what stands within an open code block. -/
theorem mem_skipRanges_of_isCode (body : List Char) {inside : Bool} {events : List PlacedEvent}
    (h : CodeApart inside events) {e : PlacedEvent} (he : e ∈ events) (hcode : e.event.isCode = true) :
    e.span ∈ skipRanges body inside events := by
  induction events generalizing inside with
  | nil => cases he
  | cons x rest ih =>
    cases inside with
    | true =>
      rcases List.mem_cons.1 he with rfl | he
      · rw [h.1] at hcode
        cases hcode
      · exact ih h.2 he
    | false =>
      rcases List.mem_cons.1 he with rfl | he
      · obtain ⟨event, span⟩ := e
        rcases Event.isCode_iff.1 hcode with ⟨info, rfl⟩ | ⟨text, rfl⟩ <;> exact List.mem_cons_self
      · exact skipRanges_rest_subset body x rest (ih h he)

/-! ## Links -/

/-- The target of the link or image that an event opens. -/
def Markdown.Event.linkTarget? : Event → Option LinkTarget
  | .start (.link target) | .start (.image target) => some target
  | _ => none

/-- The range of a piece of a text, after so much of what stands in a range. -/
def Span.pieceAt (span : Span) (before piece : List Char) : Span :=
  ⟨span.start + byteLength before, span.start + byteLength before + byteLength piece⟩

/-- Where the destination of an inline link is looked for: at the last place in the link that reads like it. -/
theorem destinationSpan?_inline {span r : Span} {target : LinkTarget} {link : List Char} (hkind : target.kind = .inline)
    (hlink : sliceBytes? body span.start span.length = some link) : destinationSpan? body span target = some r ↔
      target.destination ≠ "" ∧ ∃ before after, link = before ++ target.destination.toList ++ after ∧
        StandsLast target.destination.toList before after ∧ r = span.pieceAt before target.destination.toList := by
  have hne : target.destination ≠ "" ↔ target.destination.toList ≠ [] := by simp
  unfold destinationSpan?
  rw [hkind]
  dsimp only
  split_ifs with hempty
  · exact iff_of_false (by simp) fun h => absurd (List.isEmpty_iff.1 hempty) (hne.1 h.1)
  · have hpiece : target.destination.toList ≠ [] := by simpa using hempty
    rw [and_iff_right (hne.2 hpiece), hlink, Option.bind_some, Option.map_eq_some_iff]
    simp only [lastOffset?_eq_some_iff hpiece]
    constructor
    · rintro ⟨_, ⟨before, after, hcut, hlast, rfl⟩, rfl⟩
      exact ⟨before, after, hcut, hlast, rfl⟩
    · rintro ⟨before, after, hcut, hlast, rfl⟩
      exact ⟨_, ⟨before, after, hcut, hlast, rfl⟩, rfl⟩

/-- Where no link stands within code, what is looked for as a destination is a range without schedules. -/
theorem mem_skipRanges_of_link {inside : Bool} {events : List PlacedEvent} {e : PlacedEvent} {target : LinkTarget} {r : Span}
    (h : OutOfCode (·.linkTarget?.isSome) inside events) (he : e ∈ events) (ht : e.event.linkTarget? = some target)
    (hr : destinationSpan? body e.span target = some r) : r ∈ skipRanges body inside events := by
  induction events generalizing inside with
  | nil => cases he
  | cons x rest ih =>
    cases inside with
    | true =>
      rcases List.mem_cons.1 he with rfl | he
      · have hno : e.event.linkTarget?.isSome = false := h.1
        rw [ht] at hno
        cases hno
      · exact ih h.2 he
    | false =>
      rcases List.mem_cons.1 he with rfl | he
      · have hmem : r ∈ (destinationSpan? body e.span target).toList := Option.mem_toList.2 hr
        obtain ⟨event, span⟩ := e
        unfold Event.linkTarget? at ht
        dsimp only at ht
        split at ht
        · obtain rfl := Option.some.inj ht
          exact List.mem_append_left _ hmem
        · obtain rfl := Option.some.inj ht
          exact List.mem_append_left _ hmem
        · cases ht
      · exact skipRanges_rest_subset body x rest (ih h he)

end LivePage
