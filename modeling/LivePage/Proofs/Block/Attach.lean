import LivePage.Block.Attach
import LivePage.Proofs.Block.Resolve
import LivePage.Proofs.HeadingId
/-!
# Where containers go

Blocks are collected, headings get ids, and containers are attached in three passes over the same events, with indexes
to tie them together. Here the passes meet: every collected block is reached at the code block that declared it, and
nothing else changes. The text in an interactive block is not looked at, except for the source that it may name.
-/
namespace LivePage

open Markdown

/-- What becomes of the code block of a live block: a placeholder instead of it, or a container around it. -/
def Block.attached (b : Block) (code : List Event) : List Event :=
  if b.type = .lvt then [.html b.placeholder] else .html b.wrapperOpen :: code ++ [.html Block.wrapperClose]

/-- Events from an index on with the blocks that are left in them attached: each at the code block whose opening event
has the block's index, in order, and all other events as they were. -/
inductive Attaches : Nat → List PendingBlock → List Event → List Event → Prop
  | rest (i : Nat) (events : List Event) : Attaches i [] events events
  | block {i : Nat} {cb : CodeBlock} {b : Block} {pending : List PendingBlock} (before : List Event)
      {code events out : List Event} {opening : Event} (hi : cb.eventIndex = i + before.length) (htype : b.type = cb.type)
      (hcode : IsCodeBlock opening code) (h : Attaches (i + before.length + code.length) pending events out) :
      Attaches i ((cb, b) :: pending) (before ++ code ++ events) (before ++ b.attached code ++ out)

/-- Blocks that are left are those that the events from an index on declare. -/
def Awaits (i : Nat) (pending : List PendingBlock) (events : List Event) : Prop :=
  List.Forall₂ (fun d p => p.1.eventIndex = d.1 ∧ d.2.type = some p.1.type ∧ p.2.type = p.1.type)
    (declared i false events) pending

variable {i : Nat} {pending : List PendingBlock} {before code content events rest out : List Event} {opening e close : Event}
  {cb : CodeBlock} {b : Block}

theorem Attaches.append_left (h : Attaches (i + before.length) pending events out) :
    Attaches i pending (before ++ events) (before ++ out) := by
  cases h with
  | rest => exact .rest i _
  | @block _ cb b pending before' code events out opening hi htype hcode h =>
    have h' := Attaches.block (i := i) (before ++ before') (by rw [hi, List.length_append, Nat.add_assoc]) htype hcode
      (by rwa [List.length_append, ← Nat.add_assoc])
    simpa using h'

/-- An attached block stands after the same events as before, back to the end of another code block. -/
theorem Attaches.exists_gap (h : Attaches i pending events out) (hp : (cb, b) ∈ pending) :
    ∃ before gap code rest before' rest', events = before ++ (gap ++ (code ++ rest)) ∧
      out = before' ++ (gap ++ (b.attached code ++ rest')) ∧ cb.eventIndex = i + (before ++ gap).length ∧
      ∀ x, before.getLast? = some x → x.closesCode = true := by
  induction h with
  | rest => cases hp
  | @block i first firstBlock pending before code events out opening hi htype hcode h ih =>
    rcases List.mem_cons.1 hp with heq | hp
    · obtain ⟨rfl, rfl⟩ := Prod.mk.inj heq
      exact ⟨[], before, code, events, [], out, by simp, by simp, hi, nofun⟩
    · obtain ⟨before₂, gap, code₂, rest, before', rest', rfl, rfl, hindex, hlast⟩ := ih hp
      refine ⟨before ++ (code ++ before₂), gap, code₂, rest, before ++ firstBlock.attached code ++ before', rest',
        by simp, by simp, by rw [hindex]; simp only [List.length_append]; omega, fun x hx => ?_⟩
      obtain ⟨-, content, close, rfl, hclose, -⟩ := hcode
      rw [List.getLast?_append, List.getLast?_append] at hx
      cases hbefore₂ : before₂.getLast? with
      | some y =>
        rw [hbefore₂] at hx
        exact hlast x (hbefore₂.trans hx)
      | none =>
        rw [hbefore₂, List.getLast?_concat] at hx
        obtain rfl := Option.some.inj hx
        exact hclose

/-! ## Runs of the pass -/

theorem map_after_after (a b : List Event) (r : Except (AttachFault × Nat) Attached) :
    (r.map (Attached.after b)).map (Attached.after a) = r.map (Attached.after (a ++ b)) := by
  cases r with
  | error => rfl
  | ok x => simp [Except.map, Attached.after]

theorem attachFrom_copy (h : ∀ p ∈ pending, i + before.length ≤ p.1.eventIndex) :
    attachFrom i .outside pending (before ++ rest) =
      (attachFrom (i + before.length) .outside pending rest).map (Attached.after before) := by
  induction before generalizing i with
  | nil =>
    cases hrest : attachFrom i .outside pending rest <;> simp [hrest, Except.map, Attached.after]
  | cons e before ih =>
    have hnext : ∀ p ∈ pending, i + 1 + before.length ≤ p.1.eventIndex := fun p hp => by
      have := h p hp
      rw [List.length_cons] at this
      omega
    have hcopy : attachFrom i .outside pending (e :: (before ++ rest)) =
        (attachFrom (i + 1) .outside pending (before ++ rest)).map (Attached.after [e]) := by
      cases pending with
      | nil => rfl
      | cons p pending =>
        have hi : p.1.eventIndex ≠ i := fun heq => by
          have := h p List.mem_cons_self
          rw [List.length_cons] at this
          omega
        exact if_pos hi
    have hlength : i + (e :: before).length = i + 1 + before.length := by simp +arith
    rw [List.cons_append, hcopy, ih hnext, map_after_after, hlength]
    rfl

theorem attachFrom_keep (hclose : close.closesCode = true) (h : ∀ x ∈ content, x.closesCode = false) :
    attachFrom i .keep pending (content ++ close :: rest) =
      (attachFrom (i + content.length + 1) .outside pending rest).map
        (Attached.after (content ++ [close, .html Block.wrapperClose])) := by
  induction content generalizing i with
  | nil => rw [List.nil_append, attachFrom, if_pos hclose]; rfl
  | cons x content ih =>
    have hlength : i + (x :: content).length + 1 = i + 1 + content.length + 1 := by simp +arith
    rw [List.cons_append, attachFrom, if_neg (by simp [h x List.mem_cons_self]),
      ih fun y hy => h y (List.mem_cons_of_mem _ hy), map_after_after, hlength]
    rfl

theorem attachFrom_drop (hclose : close.closesCode = true) (h : ∀ x ∈ content, x.closesCode = false) :
    attachFrom i .drop pending (content ++ close :: rest) = attachFrom (i + content.length + 1) .outside pending rest := by
  induction content generalizing i with
  | nil => rw [List.nil_append, attachFrom, if_pos hclose]; rfl
  | cons x content ih =>
    have hlength : i + (x :: content).length + 1 = i + 1 + content.length + 1 := by simp +arith
    rw [List.cons_append, attachFrom, if_neg (by simp [h x List.mem_cons_self]),
      ih fun y hy => h y (List.mem_cons_of_mem _ hy), hlength]

/-- A block is attached to the code block that its index leads to. -/
theorem attachFrom_block (hcode : IsCodeBlock opening code) (hi : cb.eventIndex = i) :
    attachFrom i .outside ((cb, b) :: pending) (code ++ rest) =
      (attachFrom (i + code.length) .outside pending rest).map (Attached.after (b.attached code)) := by
  obtain ⟨hopen, content, close, rfl, hclose, hcontent⟩ := hcode
  have hnext : i + (opening :: content ++ [close]).length = i + 1 + content.length + 1 := by simp +arith
  have hclosed (x : Event) (hx : x ∈ content) : x.closesCode = false := (hcontent x hx).2
  obtain ⟨info, rfl⟩ := Event.opensCode_iff.1 hopen
  rw [hnext, List.append_assoc, List.cons_append, List.singleton_append, attachFrom, if_neg (not_not_intro hi)]
  unfold Block.attached
  split_ifs with hlvt
  · rw [attachFrom_drop hclose hclosed]
  · rw [attachFrom_keep hclose hclosed, map_after_after]
    simp

theorem Awaits.le {p : PendingBlock} (h : Awaits i pending events) (hp : p ∈ pending) : i ≤ p.1.eventIndex := by
  obtain ⟨d, hd, hdp⟩ : ∃ d ∈ declared i false events, p.1.eventIndex = d.1 := by
    unfold Awaits at h
    generalize declared i false events = ds at h
    induction h with
    | nil => cases hp
    | @cons d q ds pending hq _ ih =>
      rcases List.mem_cons.1 hp with rfl | hp
      · exact ⟨d, List.mem_cons_self, hq.1⟩
      · obtain ⟨d', hd', h'⟩ := ih hp
        exact ⟨d', List.mem_cons_of_mem _ hd', h'⟩
  exact hdp ▸ le_of_mem_declared hd

/-- **Every block is attached, where it was declared.** -/
theorem attachFrom_spec (h : Segmented events) (hawaits : Awaits i pending events) :
    ∃ out, attachFrom i .outside pending events = .ok (out, []) ∧ Attaches i pending events out := by
  have hcopied (before : List Event) {rest : List Event} {i : Nat} {pending : List PendingBlock}
      (hbefore : Awaits (i + before.length) pending rest)
      (ih : ∃ out, attachFrom (i + before.length) .outside pending rest = .ok (out, []) ∧
        Attaches (i + before.length) pending rest out) :
      ∃ out, attachFrom i .outside pending (before ++ rest) = .ok (out, []) ∧ Attaches i pending (before ++ rest) out := by
    obtain ⟨out, hout, hattaches⟩ := ih
    exact ⟨before ++ out, by rw [attachFrom_copy fun p hp => hbefore.le hp, hout]; rfl, hattaches.append_left⟩
  -- By segments: what declares no block is copied, and a code block that declares one takes the first that is left.
  induction h generalizing i pending with
  | nil =>
    obtain rfl : pending = [] := List.forall₂_nil_left_iff.1 hawaits
    exact ⟨[], rfl, .rest i []⟩
  | @other e rest he h ih =>
    unfold Awaits at hawaits
    rw [declared_other he] at hawaits
    exact hcopied [e] hawaits (ih hawaits)
  | @block opening code rest hcode h ih =>
    unfold Awaits at hawaits
    rw [declared_code hcode] at hawaits
    cases hd : opening.info?.filter (·.type.isSome) with
    | none =>
      rw [hd] at hawaits
      exact hcopied _ hawaits (ih hawaits)
    | some info =>
      rw [hd] at hawaits
      obtain ⟨p, pending, ⟨hi, -, htype⟩, hrest, rfl⟩ := List.forall₂_cons_left_iff.1 hawaits
      obtain ⟨out, hout, hattaches⟩ := ih hrest
      refine ⟨p.2.attached code ++ out, by rw [attachFrom_block hcode hi, hout]; rfl, ?_⟩
      exact Attaches.block [] hi htype hcode hattaches

/-! ## Text in interactive blocks -/

namespace Markdown.Event

/-- An event with its text left out, if that is to be hidden. -/
def blank (hidden : Bool) : Event → Event
  | .text s => .text (if hidden then "" else s)
  | e => e

/-- Whether a heading is open after an event. -/
def headingAfter (heading : Bool) : Event → Bool
  | .start (.heading _ _) => true
  | e => heading && !e.closesHeading

end Markdown.Event

namespace HeadingId

end HeadingId

/-- The references of an interactive block: its state and its source. -/
def Block.refs : Block → Option (Option String × Option String)
  | .interactive b => some (b.stateRef, b.sourceRef)
  | _ => none

/-- The pairs of a page: each collected block with what it resolves to at its place. -/
theorem getElem_zip_resolved {blocks : List CodeBlock} {j : Nat} (h : j < blocks.length) :
    (blocks.zip (CodeBlock.resolved blocks))[j]? =
      some (blocks[j], blocks[j].resolve (blocks[j].idAt j) (CodeBlock.lastServer (blocks.take j))) := by
  rw [List.getElem?_zip_eq_some, CodeBlock.getElem?_resolved, List.getElem?_eq_getElem h]
  exact ⟨rfl, rfl⟩

theorem length_resolved (blocks : List CodeBlock) : (CodeBlock.resolved blocks).length = blocks.length := by
  rw [CodeBlock.resolved, List.length_mapIdx]

theorem awaits_resolved {blocks : List CodeBlock} (h : List.Forall₂ Declares (declared i false events) blocks) :
    Awaits i (blocks.zip (CodeBlock.resolved blocks)) events := by
  have hlength := h.length_eq
  refine List.forall₂_iff_get.2 ⟨by simp [length_resolved, hlength], fun j hd hp => ?_⟩
  have hj : j < blocks.length := hlength ▸ hd
  obtain ⟨_, _, hblock⟩ := (List.forall₂_iff_get.1 h).2 j hd hj
  obtain ⟨htype, hi, -⟩ := toBlock?_eq_some hblock
  have hget := getElem_zip_resolved hj
  rw [List.getElem?_eq_getElem hp, Option.some.injEq] at hget
  rw [List.get_eq_getElem, List.get_eq_getElem, hget]
  exact ⟨hi, htype, CodeBlock.type_resolve⟩

/-- The events of a page with ids for its headings, if they are asked for. -/
def headed (headingIds : Bool) (events : List Event) : List Event :=
  if headingIds then assignHeadingIds events else events

theorem headed_gainsId (headingIds : Bool) (events : List Event) : List.Forall₂ GainsId events (headed headingIds events) := by
  cases headingIds with
  | true => exact HeadingId.assign_gainsId _ _ _
  | false => exact List.forall₂_same.2 fun e _ => .same e

theorem declared_headed (headingIds : Bool) (events : List Event) :
    declared i false (headed headingIds events) = declared i false events :=
  (declared_congr (map_shape_of_gainsId (headed_gainsId headingIds events))).symm

theorem segmented_headed (headingIds : Bool) (h : CodeBlocksClose events) : Segmented (headed headingIds events) :=
  (codeBlocksClose_congr (map_shape_of_gainsId (headed_gainsId headingIds events)) h).segmented

theorem attachBlocks_of_attachFrom {blocks : List CodeBlock}
    (h : attachFrom 0 .outside (blocks.zip (CodeBlock.resolved blocks)) events = .ok (out, [])) :
    attachBlocks events blocks (CodeBlock.resolved blocks) = .ok out := by
  rw [attachBlocks, h]
  simp [length_resolved]

theorem renderPage_of_attachBlocks {collected : List CodeBlock} {blocks : List Block} {headingIds : Bool}
    (h : attachBlocks (headed headingIds events) collected blocks = .ok out) :
    renderPage events collected blocks headingIds = .ok (Html.render out) := by
  change (attachBlocks (headed headingIds events) collected blocks).map Html.render = _
  rw [h]
  rfl

/-- The blocks that are collected from events in which code blocks close are all attached. -/
theorem exists_attachFrom {placed : List PlacedEvent} {lines : LineMap} {collected : List CodeBlock} (headingIds : Bool)
    (hclose : CodeBlocksClose (placed.map (·.event))) (hcollect : collectBlocks lines placed = .ok collected) :
    ∃ out, attachFrom 0 .outside (collected.zip (CodeBlock.resolved collected)) (headed headingIds (placed.map (·.event))) =
        .ok (out, []) ∧
      Attaches 0 (collected.zip (CodeBlock.resolved collected)) (headed headingIds (placed.map (·.event))) out := by
  have hdeclares := collectFrom_declared hcollect
  have hawaits := awaits_resolved ((declared_headed headingIds _).symm ▸ hdeclares)
  exact attachFrom_spec (segmented_headed headingIds hclose) hawaits

theorem exists_renderPage {source : String} {lines : LineMap} {collected : List CodeBlock}
    {sources : Dictionary SourceConfig} {set : BlockSet} (headingIds : Bool)
    (hcollect : collectBlocks lines (Markdown.events source) = .ok collected) (hbuild : BlockSet.build collected sources = .ok set) :
    ∃ html, renderPage ((Markdown.events source).map (·.event)) collected set.blocks headingIds = .ok html := by
  obtain ⟨out, hout, -⟩ := exists_attachFrom headingIds (codeBlocksClose_events source) hcollect
  rw [(BlockSet.holds_of_build hbuild).blocks]
  exact ⟨_, renderPage_of_attachBlocks (attachBlocks_of_attachFrom hout)⟩

end LivePage
