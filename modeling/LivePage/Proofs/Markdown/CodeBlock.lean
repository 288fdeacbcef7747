import LivePage.Markdown.Document
import Mathlib.Data.List.Basic
import Mathlib.Tactic.SplitIfs
/-!
# Code blocks among events

A code block runs from the event that opens it to the next one that closes a code block. Here is what it takes that
no block is open when another one opens, or at the end. In a document every block closes, and there is
nothing but text between the two.
-/
namespace LivePage.Markdown

namespace Event

def opensCode : Event → Bool
  | start (.codeBlock _) => true
  | _ => false

theorem opensCode_iff {e : Event} : e.opensCode = true ↔ ∃ info, e = .start (.codeBlock info) := by
  constructor
  · intro h
    unfold opensCode at h
    split at h
    · exact ⟨_, rfl⟩
    · cases h
  · rintro ⟨info, rfl⟩
    rfl

end Event

/-- The events of a code block: one that opens it, its content, and one that closes it. -/
structure IsCodeBlock (opening : Event) (code : List Event) : Prop where
  opens : opening.opensCode = true
  exists_eq : ∃ content close, code = opening :: content ++ [close] ∧ close.closesCode = true ∧
    ∀ x ∈ content, x.opensCode = false ∧ x.closesCode = false

/-- Events outside code blocks and whole code blocks, one after the other. -/
inductive Segmented : List Event → Prop
  | nil : Segmented []
  | other {e : Event} {rest : List Event} (he : e.opensCode = false) (h : Segmented rest) : Segmented (e :: rest)
  | block {opening : Event} {code rest : List Event} (hcode : IsCodeBlock opening code) (h : Segmented rest) :
      Segmented (code ++ rest)

/-- After every event that opens a code block comes one that closes it, before another opens. -/
def CodeBlocksClose : List Event → Prop
  | [] => True
  | e :: rest =>
    (e.opensCode = true → ∃ x ∈ rest.takeWhile (!·.opensCode), x.closesCode = true) ∧ CodeBlocksClose rest

namespace CodeBlocksClose

def decide : (events : List Event) → Decidable (CodeBlocksClose events)
  | [] => inferInstanceAs (Decidable True)
  | _ :: rest => @instDecidableAnd _ _ inferInstance (decide rest)

instance : DecidablePred CodeBlocksClose := decide

variable {e : Event} {events rest : List Event}

theorem exists_content (h : ∃ x ∈ rest.takeWhile (!·.opensCode), x.closesCode = true) :
    ∃ content close after, rest = content ++ close :: after ∧ close.closesCode = true ∧
      ∀ x ∈ content, x.opensCode = false ∧ x.closesCode = false := by
  induction rest with
  | nil => simp at h
  | cons e rest ih =>
    obtain ⟨x, hx, hclose⟩ := h
    cases hopen : e.opensCode with
    | true => simp [hopen] at hx
    | false =>
      rw [List.takeWhile_cons_of_pos (by simp [hopen])] at hx
      cases he : e.closesCode with
      | true => exact ⟨[], e, rest, rfl, he, by simp⟩
      | false =>
        have hx : x ∈ rest.takeWhile (!·.opensCode) := (List.mem_cons.1 hx).resolve_left fun heq => by
          rw [heq, he] at hclose
          cases hclose
        obtain ⟨content, close, after, rfl, hafter, hcontent⟩ := ih ⟨x, hx, hclose⟩
        exact ⟨e :: content, close, after, rfl, hafter, by simpa [hopen, he] using hcontent⟩

theorem of_append {before after : List Event} (h : CodeBlocksClose (before ++ after)) : CodeBlocksClose after := by
  induction before with
  | nil => exact h
  | cons e before ih => exact ih h.2

/-- Events in which code blocks close fall into events outside code blocks and whole code blocks. -/
theorem segmented (events : List Event) (h : CodeBlocksClose events) : Segmented events := by
  cases events with
  | nil => exact .nil
  | cons e rest =>
    cases he : e.opensCode with
    | false => exact .other he (segmented rest h.2)
    | true =>
      obtain ⟨content, close, after, rfl, hclose, hcontent⟩ := exists_content (h.1 he)
      have hafter := segmented after (of_append h.2).2
      simpa using Segmented.block ⟨he, content, close, rfl, hclose, hcontent⟩ hafter
termination_by events.length
decreasing_by all_goals simp +arith [*]

end CodeBlocksClose

/-! ## Code in a document -/

/-- Whether an event is code: one that opens a block of it, or a span. -/
def Event.isCode : Event → Bool
  | start (.codeBlock _) | code _ => true
  | _ => false

theorem Event.isCode_iff {e : Event} :
    e.isCode = true ↔ (∃ info, e = .start (.codeBlock info)) ∨ ∃ text, e = .code text := by
  constructor
  · intro h
    unfold isCode at h
    split at h
    · exact .inl ⟨_, rfl⟩
    · exact .inr ⟨_, rfl⟩
    · cases h
  · rintro (⟨info, rfl⟩ | ⟨text, rfl⟩) <;> rfl

/-- No event of a kind stands within an open code block; the flag tells whether one is open at the start. -/
def OutOfCode (p : Event → Bool) : Bool → List PlacedEvent → Prop
  | _, [] => True
  | true, e :: rest => p e.event = false ∧ OutOfCode p (!e.event.closesCode) rest
  | false, e :: rest => OutOfCode p e.event.opensCode rest

/-- No code stands within an open code block; the flag tells whether one is open at the start. -/
def CodeApart : Bool → List PlacedEvent → Prop
  | _, [] => True
  | true, e :: rest => e.event.isCode = false ∧ CodeApart (!e.event.closesCode) rest
  | false, e :: rest => CodeApart e.event.opensCode rest

theorem codeApart_iff {inside : Bool} {events : List PlacedEvent} :
    CodeApart inside events ↔ OutOfCode Event.isCode inside events := by
  induction events generalizing inside with
  | nil => cases inside <;> exact Iff.rfl
  | cons e rest ih =>
    cases inside with
    | true => exact and_congr_right fun _ => ih
    | false => exact ih

theorem isText_codeEvent (b : Buffer) (n : Node) : ∃ text span, n.codeEvent b = ⟨.text text, span⟩ := by
  unfold Node.codeEvent
  split <;> exact ⟨_, _, rfl⟩

/-- A node without content has one event, which opens nothing. -/
theorem opensCode_bodyEvent (piece : String) (body : Body) : (body.event piece).opensCode = false := by
  cases body <;> rfl

section
variable {p : Event → Bool}

theorem outOfCode_codeEvents (htext : ∀ text, p (.text text) = false) (b : Buffer) (children : List Node)
    {rest : List PlacedEvent} (h : OutOfCode p true rest) : OutOfCode p true (children.map (Node.codeEvent b) ++ rest) := by
  induction children with
  | nil => exact h
  | cons n children ih =>
    obtain ⟨text, span, hevent⟩ := isText_codeEvent b n
    rw [List.map_cons, List.cons_append, hevent]
    exact ⟨htext text, ih⟩

mutual

theorem outOfCode_node (htext : ∀ text, p (.text text) = false) (hclose : p (.stop .codeBlock) = false) (b : Buffer)
    (n : Node) {rest : List PlacedEvent} (h : OutOfCode p false rest) : OutOfCode p false (n.events b ++ rest) := by
  obtain ⟨body, start, stop, children⟩ := n
  rw [Node.events]
  split
  · -- All that stands in a code block is given as text.
    rw [List.cons_append, List.append_assoc]
    exact outOfCode_codeEvents htext b children ⟨hclose, h⟩
  · rename_i tag hno _
    have hopen : (Event.start tag).opensCode = false := by
      cases tag with
      | codeBlock info => exact absurd rfl (hno info)
      | _ => rfl
    rw [List.cons_append, List.append_assoc]
    unfold OutOfCode
    rw [hopen]
    exact outOfCode_nodes htext hclose b children h
  · split_ifs
    · exact outOfCode_nodes htext hclose b children h
    · rw [List.singleton_append]
      unfold OutOfCode
      rwa [opensCode_bodyEvent]

theorem outOfCode_nodes (htext : ∀ text, p (.text text) = false) (hclose : p (.stop .codeBlock) = false) (b : Buffer)
    (nodes : List Node) {rest : List PlacedEvent} (h : OutOfCode p false rest) :
    OutOfCode p false (Node.eventsOfAll b nodes ++ rest) := by
  cases nodes with
  | nil => exact h
  | cons n nodes =>
    rw [Node.eventsOfAll, List.append_assoc]
    exact outOfCode_node htext hclose b n (outOfCode_nodes htext hclose b nodes h)

end

/-- In a document there is nothing within a code block but text. -/
theorem outOfCode_events (htext : ∀ text, p (.text text) = false) (hclose : p (.stop .codeBlock) = false)
    (source : String) : OutOfCode p false (events source) := by
  rw [events, ← List.append_nil (Node.eventsOfAll _ _)]
  exact outOfCode_nodes htext hclose _ _ trivial

end

/-- In a document there is no code within a code block. -/
theorem codeApart_events (source : String) : CodeApart false (events source) :=
  codeApart_iff.2 (outOfCode_events (fun _ => rfl) rfl source)

/-! ## Code blocks of a document -/

namespace Node

variable {b : Buffer} {o : Outline} {spine : List Body} {front back : List Node} {n : Node} {info : String}

theorem readInlinesOfAll_append :
    readInlinesOfAll b o spine (front ++ back) = readInlinesOfAll b o spine front ++ readInlinesOfAll b o spine back := by
  induction front with
  | nil => rfl
  | cons n front ih => simp [readInlinesOfAll, ih]

theorem eventsOfAll_append : eventsOfAll b (front ++ back) = eventsOfAll b front ++ eventsOfAll b back := by
  induction front with
  | nil => rfl
  | cons n front ih => simp [eventsOfAll, ih]

/-- Finding inlines in a piece of code leaves its event alone. -/
theorem codeEvent_readInlines : (n.readInlines b o spine).codeEvent b = n.codeEvent b := by
  obtain ⟨body, start, stop, children⟩ := n
  rw [readInlines]
  split_ifs <;> rfl

theorem map_codeEvent_readInlinesOfAll (children : List Node) :
    (readInlinesOfAll b o spine children).map (codeEvent b) = children.map (codeEvent b) := by
  induction children with
  | nil => rfl
  | cons n children ih => rw [readInlinesOfAll, List.map_cons, codeEvent_readInlines, ih, List.map_cons]

/-- A fenced code block outside containers is among the events of the document, with what it holds as text. -/
theorem exists_events_of_fencedCode (b : Buffer) (spine : List Body) (hnodes : o.nodes = front ++ n :: back)
    (hbody : n.body = .fencedCode info) :
    ∃ before after, eventsOfAll b (readInlinesOfAll b o spine o.nodes) =
      before ++ ⟨.start (.codeBlock (some info)), ⟨n.start, n.stop⟩⟩ ::
        (n.children.map (codeEvent b) ++ ⟨.stop .codeBlock, ⟨n.start, n.stop⟩⟩ :: after) := by
  obtain ⟨body, start, stop, children⟩ := n
  obtain rfl : body = .fencedCode info := hbody
  refine ⟨eventsOfAll b (readInlinesOfAll b o spine front), eventsOfAll b (readInlinesOfAll b o spine back), ?_⟩
  rw [hnodes, readInlinesOfAll_append, eventsOfAll_append, readInlinesOfAll, eventsOfAll, readInlines,
    if_neg (by simp [holdsText]), events, Body.tag?, map_codeEvent_readInlinesOfAll]
  simp

end Node

/-! ## Where code ends -/

theorem codeBlocksClose_cons {e : Event} {rest : List Event} (he : e.opensCode = false) (h : CodeBlocksClose rest) :
    CodeBlocksClose (e :: rest) :=
  ⟨fun hopen => (by rw [he] at hopen; cases hopen), h⟩

theorem codeBlocksClose_texts (b : Buffer) (children : List Node) {rest : List Event} (h : CodeBlocksClose rest) :
    CodeBlocksClose ((children.map (Node.codeEvent b)).map (·.event) ++ rest) := by
  induction children with
  | nil => exact h
  | cons n children ih =>
    obtain ⟨text, span, htext⟩ := isText_codeEvent b n
    rw [List.map_cons, List.map_cons, htext]
    exact codeBlocksClose_cons rfl ih

mutual

theorem codeBlocksClose_node (b : Buffer) (n : Node) {rest : List Event} (h : CodeBlocksClose rest) :
    CodeBlocksClose ((n.events b).map (·.event) ++ rest) := by
  obtain ⟨body, start, stop, children⟩ := n
  rw [Node.events]
  split
  · rename_i info _
    have hclose : CodeBlocksClose (.stop .codeBlock :: rest) := codeBlocksClose_cons rfl h
    rw [List.map_cons, List.map_append, List.cons_append, List.append_assoc]
    refine ⟨fun _ => ⟨.stop .codeBlock, ?_, rfl⟩, codeBlocksClose_texts b children hclose⟩
    -- There is only text before the end of the code block.
    have htexts : ∀ x ∈ (children.map (Node.codeEvent b)).map (·.event), (!x.opensCode) = true := by
      simp only [List.mem_map, forall_exists_index, and_imp, forall_apply_eq_imp_iff₂]
      intro n _
      obtain ⟨text, span, htext⟩ := isText_codeEvent b n
      rw [htext]
      rfl
    rw [List.takeWhile_append_of_pos htexts]
    exact List.mem_append_right _ (by rw [List.map_cons, List.cons_append, List.takeWhile_cons_of_pos rfl]; exact List.mem_cons_self)
  · rename_i tag hno _
    have hopen : (Event.start tag).opensCode = false := by
      cases tag with
      | codeBlock info => exact absurd rfl (hno info)
      | _ => rfl
    rw [List.map_cons, List.map_append, List.cons_append, List.append_assoc]
    exact codeBlocksClose_cons hopen (codeBlocksClose_nodes b children (codeBlocksClose_cons rfl h))
  · split_ifs
    · exact codeBlocksClose_nodes b children h
    · exact codeBlocksClose_cons (opensCode_bodyEvent _ _) h

theorem codeBlocksClose_nodes (b : Buffer) (nodes : List Node) {rest : List Event} (h : CodeBlocksClose rest) :
    CodeBlocksClose ((Node.eventsOfAll b nodes).map (·.event) ++ rest) := by
  cases nodes with
  | nil => exact h
  | cons n nodes =>
    rw [Node.eventsOfAll, List.map_append, List.append_assoc]
    exact codeBlocksClose_node b n (codeBlocksClose_nodes b nodes h)

end

/-- The code blocks of a document close. -/
theorem codeBlocksClose_events (source : String) : CodeBlocksClose ((events source).map (·.event)) := by
  rw [events, ← List.append_nil (List.map _ _)]
  exact codeBlocksClose_nodes _ _ trivial

end LivePage.Markdown
