import LivePage.Markdown.Document
import Mathlib.Tactic.SplitIfs
/-!
# Inlines hold no headings

A line of text is cut into text and tokens, and what is made of these is never a heading: whatever the inlines of a
block turn out to be, its headings are those that its lines gave it.
-/
namespace LivePage.Markdown

def Body.isHeading : Body → Bool
  | heading _ _ => true
  | _ => false

inductive NoHeading : Node → Prop
  | intro {n : Node} (own : n.body.isHeading = false) (inner : ∀ c ∈ n.children, NoHeading c) : NoHeading n

theorem noHeading_iff {n : Node} : NoHeading n ↔ n.body.isHeading = false ∧ ∀ c ∈ n.children, NoHeading c :=
  ⟨fun ⟨own, inner⟩ => ⟨own, inner⟩, fun ⟨own, inner⟩ => ⟨own, inner⟩⟩

namespace NoHeading

variable {n : Node} {body : Body}

theorem leaf {start stop : Nat} (h : body.isHeading = false) : NoHeading { body, start, stop } := ⟨h, by simp⟩

/-- Only what a node is and holds matters, and not where it stands. -/
theorem move (h : NoHeading n) (start stop : Nat) : NoHeading { n with start, stop } :=
  ⟨(noHeading_iff.1 h).1, (noHeading_iff.1 h).2⟩

theorem setBody (h : NoHeading n) (hbody : body.isHeading = false) : NoHeading { n with body } :=
  ⟨hbody, (noHeading_iff.1 h).2⟩

theorem toText (h : NoHeading n) : NoHeading n.toText := by
  unfold Node.toText
  split_ifs
  · exact h.setBody rfl
  · exact h

end NoHeading

namespace Node

variable {nodes : Array Node} {start stop : Nat} {p : Node → Prop}

/-- What holds of nodes wherever they end still holds when the last one ends elsewhere. -/
theorem forall_mem_moveLast {last : Node} (hmove : ∀ n stop, p n → p { n with stop }) (h : ∀ n ∈ nodes, p n)
    (hlast : nodes.back? = some last) : ∀ n ∈ nodes.pop.push { last with stop }, p n := by
  obtain ⟨kept, rfl⟩ := Array.back?_eq_some_iff.1 hlast
  obtain ⟨hlast, hkept⟩ := Array.forall_mem_push.1 h
  rw [Array.pop_push]
  exact Array.forall_mem_push.2 ⟨hmove _ _ hlast, hkept⟩

theorem forall_mem_setLastStop (hmove : ∀ n stop, p n → p { n with stop }) (h : ∀ n ∈ nodes, p n) :
    ∀ n ∈ setLastStop nodes stop, p n := by
  unfold setLastStop
  split
  · rename_i last hlast
    exact forall_mem_moveLast hmove h hlast
  · exact h

theorem forall_mem_appendText {escaped : Bool} (hmove : ∀ n stop, p n → p { n with stop })
    (htext : p (text start stop escaped)) (h : ∀ n ∈ nodes, p n) : ∀ n ∈ appendText nodes start stop escaped, p n := by
  have hpush : ∀ n ∈ nodes.push (text start stop escaped), p n := Array.forall_mem_push.2 ⟨htext, h⟩
  unfold appendText
  split_ifs
  · exact h
  · split
    · rename_i last hlast
      split_ifs
      · exact forall_mem_moveLast hmove h hlast
      · exact hpush
    · exact hpush

theorem noHeading_setLastStop (h : ∀ n ∈ nodes, NoHeading n) : ∀ n ∈ setLastStop nodes stop, NoHeading n :=
  forall_mem_setLastStop (fun _ _ hn => hn.move _ _) h

theorem noHeading_truncate {b : Buffer} (h : ∀ n ∈ nodes, NoHeading n) : ∀ n ∈ truncate b nodes stop, NoHeading n := by
  have hgo (rest : List Node) (kept : Array Node) (hkept : ∀ n ∈ kept, NoHeading n) (hrest : ∀ n ∈ rest, NoHeading n) :
      ∀ n ∈ truncate.go b stop kept rest, NoHeading n := by
    induction rest generalizing kept with
    | nil => exact hkept
    | cons n rest ih =>
      rw [List.forall_mem_cons] at hrest
      unfold truncate.go
      split_ifs
      · exact ih _ (Array.forall_mem_push.2 ⟨hrest.1, hkept⟩) hrest.2
      · exact Array.forall_mem_push.2 ⟨hrest.1, hkept⟩
      · exact Array.forall_mem_push.2 ⟨hrest.1.move _ _, hkept⟩
      · exact hkept
      · exact Array.forall_mem_push.2 ⟨hrest.1.move _ _, hkept⟩
  exact hgo _ _ (by simp) (by simpa using h)

end Node

/-! ## Lines -/

/-- No heading has been read on a line. -/
def LineState.Plain (s : LineState) : Prop := ∀ n ∈ s.nodes, NoHeading n

/-- There is no heading on a line or at its end. -/
def Line.Plain (l : Line) : Prop := (∀ n ∈ l.nodes, NoHeading n) ∧ ∀ n, l.ending = .broken n → NoHeading n

namespace LineState

variable {s : LineState} {body : Body} {start stop : Nat}

theorem Plain.flush (h : s.Plain) : (s.flush stop).Plain :=
  Node.forall_mem_appendText (fun _ _ hn => hn.move _ _) (.leaf rfl) h

theorem Plain.push (h : s.Plain) (hbody : body.isHeading = false) : (s.push body start stop).Plain :=
  Array.forall_mem_push.2 ⟨.leaf hbody, h⟩

theorem Plain.token (h : s.Plain) (hbody : body.isHeading = false) : (s.token body start stop).Plain :=
  h.flush.push hbody

end LineState

namespace Buffer

variable {b : Buffer} {mode : LineMode} {rule : TableRule} {s : LineState} {i : Nat}

theorem plain_bareLine (h : s.Plain) : (b.bareLine s i).Plain := ⟨h.flush, by simp [bareLine]⟩

theorem plain_lineBreak (h : s.Plain) : (b.lineBreak mode rule s i).Plain := by
  unfold lineBreak
  dsimp only
  split_ifs
  · exact plain_bareLine h
  · refine ⟨h.flush, fun n hn => ?_⟩
    obtain rfl := LineEnd.broken.inj hn
    exact .leaf rfl
  all_goals
    split
    · exact ⟨h, by simp⟩
    · refine ⟨h.flush, fun n hn => ?_⟩
      obtain rfl := LineEnd.broken.inj hn
      exact .leaf rfl

/-- After a step there is no heading, whether the line goes on or ends. -/
def PlainStep (r : (LineState × Nat) ⊕ Line) : Prop := r.elim (fun next => next.1.Plain) Line.Plain

theorem plain_lineStep (h : s.Plain) (x : UInt8) : PlainStep (b.lineStep mode rule s i x) := by
  have hite {c : Prop} [Decidable c] {r r' : (LineState × Nat) ⊕ Line} (hr : PlainStep r) (hr' : PlainStep r') :
      PlainStep (if c then r else r') := by
    split_ifs <;> assumption
  unfold lineStep
  refine hite (plain_lineBreak h) <| hite (hite h <| hite ?_ ?_) <| hite (hite ?_ h) <| hite ?_ <| hite ?_ <| hite ?_ <|
    hite ?_ <| hite ?_ <| hite ?_ <| hite (hite h <| hite (plain_bareLine h) h) h
  · exact h.flush.push rfl
  · exact h.flush
  · exact h.token rfl
  · exact h.token rfl
  · exact h.token rfl
  · exact h.token rfl
  · exact h.token rfl
  · exact h.token rfl
  · split
    · exact h.token rfl
    · exact h

theorem plain_lineFrom (h : s.Plain) (fuel : Nat) : (b.lineFrom mode rule fuel s i).Plain := by
  induction fuel generalizing s i with
  | zero => exact ⟨h, by simp [lineFrom]⟩
  | succ fuel ih =>
    unfold lineFrom
    split
    · rename_i x _
      have hstep : PlainStep (b.lineStep mode rule s i x) := plain_lineStep h x
      split <;> rename_i heq <;> rw [heq] at hstep
      · exact ih hstep
      · exact hstep
    · exact plain_bareLine h

theorem plain_line {nodes : Array Node} {start : Nat} (h : ∀ n ∈ nodes, NoHeading n) :
    (b.line nodes start mode rule).Plain :=
  plain_lineFrom (s := { nodes, textStart := start, lastPipe := start }) h _

end Buffer

/-! ## Table rows -/

theorem noHeading_rowCells {b : Buffer} (fuel : Nat) {i : Nat} {cells : Array Node} (h : ∀ n ∈ cells, NoHeading n) :
    ∀ n ∈ (rowCells b fuel i cells).1, NoHeading n := by
  induction fuel generalizing i cells with
  | zero => exact h
  | succ fuel ih =>
    unfold rowCells
    dsimp only
    split
    · exact h
    · refine ih (Array.forall_mem_push.2 ⟨⟨rfl, fun c hc => ?_⟩, h⟩)
      exact (Buffer.plain_line (by simp)).1 c (Array.mem_toList_iff.1 hc)

theorem noHeading_tableRow? {b : Buffer} {body : Body} (hbody : body.isHeading = false) {columns start : Nat}
    {row : Node} {next : Nat} (h : tableRow? b body columns start = some (row, next)) : NoHeading row := by
  unfold tableRow? at h
  dsimp only at h
  split_ifs at h
  obtain ⟨rfl, -⟩ := Prod.mk.inj (Option.some.inj h)
  refine ⟨hbody, fun c hc => ?_⟩
  rcases List.mem_append.1 hc with hc | hc
  · obtain ⟨k, hk, rfl⟩ := Array.mem_extract_iff_getElem.1 (Array.mem_toList_iff.1 hc)
    exact noHeading_rowCells _ (by simp) _ (Array.getElem_mem _)
  · obtain ⟨-, rfl⟩ := List.mem_replicate.1 hc
    exact .leaf rfl

/-! ## Emphasis -/

/-- Among the pieces that have been read there is no heading. -/
def EmphasisState.Plain (s : EmphasisState) : Prop := ∀ n ∈ s.done, NoHeading n

theorem noHeading_extract {nodes : Array Node} (h : ∀ n ∈ nodes, NoHeading n) (i j : Nat) :
    ∀ n ∈ nodes.extract i j, NoHeading n := by
  intro n hn
  obtain ⟨k, hk, rfl⟩ := Array.mem_extract_iff_getElem.1 hn
  exact h _ (Array.getElem_mem _)

namespace EmphasisState

variable {s : EmphasisState}

theorem noHeading_wrapContent (mark : Char) (count start stop : Nat) {content : List Node}
    (h : ∀ n ∈ content, NoHeading n) : ∀ n ∈ wrapContent mark count start stop content, NoHeading n := by
  fun_induction wrapContent mark count start stop content with
  | case1 => exact h
  | case2 start stop content =>
    rw [List.forall_mem_singleton]
    exact ⟨by dsimp only; split_ifs <;> rfl, h⟩
  | case3 count start stop content ih =>
    refine ih ?_
    rw [List.forall_mem_singleton]
    exact ⟨by dsimp only; split_ifs <;> rfl, h⟩

theorem Plain.pair (h : s.Plain) (c : Closer) (place : Nat) : (s.pair c place).1.Plain := by
  unfold EmphasisState.pair
  dsimp only
  generalize hopening : s.done.getD _ _ = opening
  have hopening : NoHeading opening := by
    rw [← hopening, Array.getD_eq_getD_getElem?]
    cases hget : s.done[(s.openers.getD place default).index]? with
    | none => exact .leaf rfl
    | some n => exact h n (Array.mem_of_getElem? hget)
  intro n hn
  rcases Array.mem_append.1 hn with hn | hn
  · split_ifs at hn
    · exact noHeading_extract h _ _ n hn
    · exact Array.forall_mem_push.2 ⟨hopening.move _ _, noHeading_extract h _ _⟩ n hn
  · refine noHeading_wrapContent _ _ _ _ (fun c hc => ?_) n (List.mem_toArray.1 hn)
    obtain ⟨d, hd, rfl⟩ := Array.mem_map.1 (Array.mem_toList_iff.1 hc)
    exact (noHeading_extract h _ _ d hd).toText

theorem Plain.closeRun (h : s.Plain) (fuel : Nat) (c : Closer) : (closeRun fuel s c).1.Plain := by
  induction fuel generalizing s c with
  | zero => exact h
  | succ fuel ih =>
    unfold EmphasisState.closeRun
    split_ifs
    · exact h
    · split
      · exact ih (h.pair c _) _
      · exact h

theorem Plain.openRun (h : s.Plain) (c : Closer) (canOpen canClose : Bool) : (s.openRun c canOpen canClose).Plain := by
  unfold EmphasisState.openRun
  dsimp only
  split_ifs
  · exact h
  · exact Array.forall_mem_push.2 ⟨(NoHeading.leaf rfl).toText, h⟩
  · exact Array.forall_mem_push.2 ⟨.leaf rfl, h⟩
  · exact Array.forall_mem_push.2 ⟨.leaf rfl, h⟩

theorem Plain.step (h : s.Plain) {n : Node} (hn : NoHeading n) (isLast : Bool) : (s.step n isLast).Plain := by
  unfold EmphasisState.step
  split
  · dsimp only
    split_ifs
    · exact (h.closeRun _ _).openRun _ _ _
    · exact h.openRun _ _ _
  · cases isLast
    · exact Array.forall_mem_push.2 ⟨hn, h⟩
    · exact Array.forall_mem_push.2 ⟨hn.setBody rfl, h⟩
  · exact Array.forall_mem_push.2 ⟨hn, h⟩

theorem Plain.run (h : s.Plain) {nodes : List Node} (hnodes : ∀ n ∈ nodes, NoHeading n) : (s.run nodes).Plain := by
  induction nodes generalizing s with
  | nil => exact h
  | cons n rest ih =>
    rw [List.forall_mem_cons] at hnodes
    exact ih (h.step hnodes.1 _) hnodes.2

end EmphasisState

theorem noHeading_findEmphasis {nodes : List Node} (h : ∀ n ∈ nodes, NoHeading n) :
    ∀ n ∈ findEmphasis nodes, NoHeading n := by
  intro n hn
  obtain ⟨d, hd, rfl⟩ := Array.mem_map.1 (Array.mem_toList_iff.1 hn)
  exact (EmphasisState.Plain.run (s := {}) (by simp [EmphasisState.Plain]) h d hd).toText

/-! ## Links -/

theorem noHeading_resumeAt {nodes : List Node} (h : ∀ n ∈ nodes, NoHeading n) (i : Nat) :
    ∀ n ∈ Node.resumeAt nodes i, NoHeading n := by
  have hdrop : ∀ n ∈ nodes.dropWhile (·.stop ≤ i), NoHeading n := fun n hn => h n ((List.dropWhile_sublist _).mem hn)
  unfold Node.resumeAt
  split
  · simp
  · rename_i n rest heq
    rw [heq, List.forall_mem_cons] at hdrop
    exact List.forall_mem_cons.2 ⟨hdrop.1.move _ _, hdrop.2⟩

/-- Among the pieces that have been read there is no heading. -/
def InlineState.Plain (s : InlineState) : Prop := ∀ n ∈ s.done, NoHeading n

namespace InlineContext

variable {ctx : InlineContext} {s : InlineState} {n : Node} {rest after : List Node} {stop : Nat}

theorem subset_of_closingBackticks? {count : Nat} {close : Node}
    (h : closingBackticks? count rest = some (close, after)) : after ⊆ rest := by
  induction rest with
  | nil => cases h
  | cons n rest ih =>
    unfold closingBackticks? at h
    split at h
    · split_ifs at h
      · obtain ⟨-, rfl⟩ := Prod.mk.inj (Option.some.inj h)
        exact List.subset_cons_self _ _
      · exact List.subset_cons_of_subset _ (ih h)
    · exact List.subset_cons_of_subset _ (ih h)

theorem plain_codeSpan? {count : Nat} {escaped : Bool} {found : List Node}
    (h : ctx.codeSpan? n count escaped rest = some (found, after)) : (∀ m ∈ found, NoHeading m) ∧ after ⊆ rest := by
  unfold codeSpan? at h
  dsimp only at h
  split_ifs at h
  all_goals
    obtain ⟨⟨close, later⟩, hclose, h⟩ := Option.bind_eq_some_iff.1 h
    obtain ⟨rfl, rfl⟩ := Prod.mk.inj (Option.some.inj h)
    refine ⟨?_, subset_of_closingBackticks? hclose⟩
  · exact List.forall_mem_cons.2 ⟨.leaf rfl, List.forall_mem_singleton.2 (.leaf rfl)⟩
  · exact List.forall_mem_singleton.2 (.leaf rfl)

theorem noHeading_autolink? {found : Node} (h : ctx.autolink? n = some (found, stop)) : NoHeading found := by
  unfold autolink? at h
  dsimp only at h
  split at h
  · obtain ⟨rfl, -⟩ := Prod.mk.inj (Option.some.inj h)
    exact ⟨rfl, List.forall_mem_singleton.2 (.leaf rfl)⟩
  · obtain ⟨m, -, h⟩ := Option.map_eq_some_iff.1 h
    obtain ⟨rfl, -⟩ := Prod.mk.inj h
    exact ⟨rfl, List.forall_mem_singleton.2 (.leaf rfl)⟩

theorem noHeading_markup? {found : Node} (h : ctx.markup? n = some (found, stop)) : NoHeading found := by
  obtain ⟨p, -, h⟩ := Option.map_eq_some_iff.1 h
  obtain ⟨rfl, -⟩ := Prod.mk.inj h
  exact .leaf rfl

theorem plain_wrap (h : s.Plain) (bracket : Bracket) (target : LinkTarget) (stop : Nat) :
    (wrap s bracket target stop).Plain := by
  unfold wrap
  split
  · exact h
  · refine Array.forall_mem_push.2 ⟨⟨by dsimp only; split_ifs <;> rfl, fun c hc => ?_⟩, noHeading_extract h _ _⟩
    exact noHeading_extract h _ _ c (Array.mem_toList_iff.1 hc)

theorem plain_note (h : s.Plain) (bracket : Bracket) (label : String) (stop : Nat) : (note s bracket label stop).Plain := by
  have hkept := noHeading_extract h 0 bracket.index
  unfold note
  split
  · exact h
  · unfold InlineState.Plain
    dsimp only
    split_ifs
    · exact Array.forall_mem_push.2 ⟨.leaf rfl, Array.forall_mem_push.2 ⟨.leaf rfl, hkept⟩⟩
    · exact Array.forall_mem_push.2 ⟨.leaf rfl, hkept⟩

theorem subset_of_follower (h : ctx.follower rest = .empty after) : after ⊆ rest := by
  unfold follower at h
  split at h
  · cases h
  · rename_i m more
    dsimp only at h
    split_ifs at h
    · obtain rfl := Follower.empty.inj h
      exact List.subset_cons_of_subset _ (List.drop_subset _ _)
    · split at h <;> cases h

/-- A reference puts only what has been read into its link, and goes on with some of the pieces to come. -/
theorem plain_referenceLink? {bracket : Bracket} {close : Node} {mayRefer : Bool} {s' : InlineState} (hs : s.Plain)
    (h : ctx.referenceLink? s bracket close mayRefer rest = some (s', after)) : s'.Plain ∧ after ⊆ rest := by
  unfold referenceLink? at h
  split at h
  · cases h
  · rename_i opening _
    dsimp only at h
    have hfinish {kind : LinkKind} {label : String} {stop : Nat} {later : List Node} (hlater : later ⊆ rest)
        (h : ((ctx.links.find? label).map fun d => (wrap s bracket ⟨kind, d.destination, d.title⟩ stop, later)) =
          some (s', after)) : s'.Plain ∧ after ⊆ rest := by
      obtain ⟨d, -, h⟩ := Option.map_eq_some_iff.1 h
      obtain ⟨rfl, rfl⟩ := Prod.mk.inj h
      exact ⟨plain_wrap hs _ _ _, hlater⟩
    -- The label of a link is its own text, whether empty brackets follow it or nothing.
    split at h
    · exact hfinish (fun m hm => (List.dropWhile_sublist _).mem (List.mem_of_mem_drop hm)) h
    · rename_i later hlater
      split_ifs at h
      split at h
      · exact hfinish (subset_of_follower hlater) h
      · split_ifs at h
        obtain ⟨rfl, rfl⟩ := Prod.mk.inj (Option.some.inj h)
        exact ⟨plain_note hs _ _ _, List.Subset.refl _⟩
      · cases h
    · split_ifs at h
      split at h
      · exact hfinish (List.Subset.refl _) h
      · split_ifs at h
        obtain ⟨rfl, rfl⟩ := Prod.mk.inj (Option.some.inj h)
        exact ⟨plain_note hs _ _ _, List.Subset.refl _⟩
      · cases h

theorem noHeading_spendBracket (h : ∀ m ∈ rest, NoHeading m) : ∀ m ∈ spendBracket stop rest, NoHeading m := by
  induction rest with
  | nil => simp [spendBracket]
  | cons n rest ih =>
    rw [List.forall_mem_cons] at h
    unfold spendBracket
    split_ifs
    · exact List.forall_mem_cons.2 ⟨h.1, ih h.2⟩
    · exact List.forall_mem_cons.2 ⟨h.1.setBody rfl, h.2⟩

theorem noHeading_spend (h : ∀ m ∈ rest, NoHeading m) : ∀ m ∈ ctx.spend rest, NoHeading m := by
  unfold spend
  split
  · exact noHeading_spendBracket h
  · exact h

theorem plain_close (hs : s.Plain) (hn : NoHeading n) (hrest : ∀ m ∈ rest, NoHeading m) (mayRefer : Bool) :
    (ctx.close s n mayRefer rest).1.Plain ∧ ∀ m ∈ (ctx.close s n mayRefer rest).2, NoHeading m := by
  have hkeep {brackets : List Bracket} : InlineState.Plain { s with done := s.done.push n.toText, brackets } :=
    Array.forall_mem_push.2 ⟨hn.toText, hs⟩
  unfold close
  dsimp only
  split
  · exact ⟨hkeep, hrest⟩
  · rename_i bracket brackets _
    have hs : InlineState.Plain { s with brackets } := hs
    split_ifs
    · exact ⟨hkeep, hrest⟩
    · split
      · exact ⟨plain_wrap hs _ _ _, noHeading_resumeAt hrest _⟩
      · split
        · rename_i r hr
          obtain ⟨hs', hafter⟩ := plain_referenceLink? hs hr
          exact ⟨hs', fun m hm => hrest m (hafter hm)⟩
        · exact ⟨hkeep, noHeading_spend hrest⟩

theorem plain_step (hs : s.Plain) (hn : NoHeading n) (hrest : ∀ m ∈ rest, NoHeading m) :
    (ctx.step s n rest).1.Plain ∧ ∀ m ∈ (ctx.step s n rest).2, NoHeading m := by
  have hpush {m : Node} (hm : NoHeading m) {brackets : List Bracket} :
      InlineState.Plain { s with done := s.done.push m, brackets } := Array.forall_mem_push.2 ⟨hm, hs⟩
  unfold step
  dsimp only
  split
  · split
    · rename_i found stop hfound
      refine ⟨hpush ?_, noHeading_resumeAt hrest _⟩
      rcases Option.or_eq_some_iff.1 hfound with hfound | ⟨-, hfound⟩
      · exact noHeading_autolink? hfound
      · exact noHeading_markup? hfound
    · exact ⟨hpush hn.toText, hrest⟩
  · split
    · rename_i found after hfound
      obtain ⟨hfound, hafter⟩ := plain_codeSpan? hfound
      refine ⟨fun m hm => ?_, fun m hm => hrest m (hafter hm)⟩
      rcases Array.mem_append.1 hm with hm | hm
      · exact hs m hm
      · exact hfound m (List.mem_toArray.1 hm)
    · exact ⟨hpush hn.toText, hrest⟩
  · exact ⟨hpush hn.toText, hrest⟩
  · exact ⟨hpush hn.toText, hrest⟩
  · exact plain_close hs hn hrest _
  · exact ⟨hpush hn, hrest⟩

theorem plain_run (fuel : Nat) (hs : s.Plain) (hrest : ∀ m ∈ rest, NoHeading m) : (ctx.run fuel s rest).Plain := by
  induction fuel generalizing s rest with
  | zero => cases rest <;> exact hs
  | succ fuel ih =>
    cases rest with
    | nil => exact hs
    | cons n rest =>
      rw [List.forall_mem_cons] at hrest
      have hstep : (ctx.step s n rest).1.Plain ∧ ∀ m ∈ (ctx.step s n rest).2, NoHeading m :=
        plain_step hs hrest.1 hrest.2
      exact ih hstep.1 hstep.2

theorem noHeading_findLinks (h : ∀ m ∈ rest, NoHeading m) : ∀ m ∈ ctx.findLinks rest, NoHeading m := fun m hm =>
  plain_run _ (s := {}) (by simp [InlineState.Plain]) h m (Array.mem_toList_iff.1 hm)

end InlineContext

/-! ## Blocks of text -/

namespace Node

theorem noHeading_pairRuns {nodes : List Node} (h : ∀ n ∈ nodes, NoHeading n) : ∀ n ∈ pairRuns nodes, NoHeading n := by
  unfold pairRuns
  split_ifs
  · exact noHeading_findEmphasis h
  · exact h

mutual

theorem noHeading_pairRunsInside (n : Node) (h : NoHeading n) : NoHeading (pairRunsInside n) := by
  obtain ⟨body, start, stop, children⟩ := n
  obtain ⟨hown, hinner⟩ := noHeading_iff.1 h
  rw [pairRunsInside]
  exact ⟨hown, noHeading_pairRuns (noHeading_pairRunsInAll children hinner)⟩

theorem noHeading_pairRunsInAll (nodes : List Node) (h : ∀ n ∈ nodes, NoHeading n) :
    ∀ n ∈ pairRunsInAll nodes, NoHeading n := by
  cases nodes with
  | nil => simp [pairRunsInAll]
  | cons n rest =>
    rw [List.forall_mem_cons] at h
    rw [pairRunsInAll]
    exact List.forall_mem_cons.2 ⟨noHeading_pairRunsInside n h.1, noHeading_pairRunsInAll rest h.2⟩

end

/-- **Inlines hold no headings** if the pieces that they are made of are none. -/
theorem noHeading_findInlines (ctx : InlineContext) {nodes : List Node} (h : ∀ n ∈ nodes, NoHeading n) :
    ∀ n ∈ findInlines ctx nodes, NoHeading n := by
  unfold findInlines
  split_ifs
  · exact noHeading_findEmphasis (noHeading_pairRunsInAll _ (InlineContext.noHeading_findLinks h))
  · exact h

end Node

end LivePage.Markdown
