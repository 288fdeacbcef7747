import LivePage.Proofs.Markdown.Inline
import LivePage.Proofs.Markdown.LineStart
/-!
# Headings within containers

In the tree of a document a heading stands where its containers admit a block: below the marker of every quote around
it, and at the indentation of items and footnote definitions. Every change to the open blocks keeps this, so long as
headings are added where all that is open admits them.
-/
namespace LivePage.Markdown

/-- Headings of a tree stand where a predicate says, and where the containers around them within the tree admit them. -/
inductive HeadingsAt (b : Buffer) : (Nat → Prop) → Node → Prop
  | intro {P : Nat → Prop} {n : Node} (own : n.body.isHeading = true → P n.start)
      (inner : ∀ c ∈ n.children, HeadingsAt b (fun j => P j ∧ n.body.Admits b j) c) : HeadingsAt b P n

section
variable {b : Buffer} {P Q : Nat → Prop} {n : Node}

theorem headingsAt_iff : HeadingsAt b P n ↔
    (n.body.isHeading = true → P n.start) ∧ ∀ c ∈ n.children, HeadingsAt b (fun j => P j ∧ n.body.Admits b j) c :=
  ⟨fun ⟨own, inner⟩ => ⟨own, inner⟩, fun ⟨own, inner⟩ => ⟨own, inner⟩⟩

theorem HeadingsAt.mono (h : HeadingsAt b P n) (hPQ : ∀ j, P j → Q j) : HeadingsAt b Q n := by
  induction h generalizing Q with
  | intro own _ ih => exact ⟨fun hn => hPQ _ (own hn), fun c hc => ih c hc fun j hj => ⟨hPQ j hj.1, hj.2⟩⟩

theorem NoHeading.headingsAt (h : NoHeading n) (P : Nat → Prop) : HeadingsAt b P n := by
  induction h generalizing P with
  | intro own _ ih => exact ⟨fun hn => absurd hn (by simp [own]), fun c hc => ih c hc _⟩

theorem HeadingsAt.noHeading (h : HeadingsAt b P n) (hP : ∀ j, ¬ P j) : NoHeading n := by
  induction h with
  | intro own _ ih =>
    exact ⟨Bool.eq_false_iff.2 fun hn => hP _ (own hn), fun c hc => ih c hc fun j hj => hP j hj.1⟩

theorem HeadingsAt.move (h : HeadingsAt b P n) (stop : Nat) : HeadingsAt b P { n with stop } :=
  ⟨(headingsAt_iff.1 h).1, (headingsAt_iff.1 h).2⟩

/-- A paragraph of a tight list holds what it held before. -/
theorem HeadingsAt.tightenParagraph (h : HeadingsAt b P n) : HeadingsAt b P n.tightenParagraph := by
  unfold Node.tightenParagraph
  split_ifs with hbody
  · exact ⟨fun hn => by simp [Body.isHeading] at hn, fun c hc => ((headingsAt_iff.1 h).2 c hc).mono fun j hj => by
      rw [hbody] at hj
      exact hj⟩
  · exact h

theorem HeadingsAt.tighten (h : HeadingsAt b P n) : HeadingsAt b P n.tighten := by
  obtain ⟨own, inner⟩ := headingsAt_iff.1 h
  refine ⟨own, fun c hc => ?_⟩
  obtain ⟨item, hitem, rfl⟩ := List.mem_map.1 hc
  obtain ⟨own, inner⟩ := headingsAt_iff.1 (inner item hitem)
  refine ⟨own, fun c hc => ?_⟩
  obtain ⟨d, hd, rfl⟩ := List.mem_map.1 hc
  exact (inner d hd).tightenParagraph

end

/-! ## Open blocks -/

/-- A place that all of some blocks admit a block at. -/
def Within (b : Buffer) (bodies : List Body) (j : Nat) : Prop := ∀ body ∈ bodies, body.Admits b j

/-- Whether an open block is a heading or may turn out to be one. -/
def Body.mayHead : Body → Bool
  | .paragraph | .heading _ _ => true
  | _ => false

/-- Headings of open blocks stand where the blocks around them admit them, and so do those that are still open. -/
def OpenSound (b : Buffer) : List OpenNode → Prop
  | [] => True
  | o :: rest =>
    (o.body.mayHead = true → Within b (rest.map (·.body)) o.start) ∧
      (∀ n ∈ o.children, HeadingsAt b (Within b ((o :: rest).map (·.body))) n) ∧ OpenSound b rest

namespace Builder

def bodies (s : Builder) : List Body := s.opened.map (·.body)

/-- Headings stand where their containers admit them, among what is closed and what is open. -/
structure Sound (b : Buffer) (s : Builder) : Prop where
  source : s.source = b
  task : ∀ n ∈ s.task, NoHeading n
  roots : ∀ n ∈ s.roots, HeadingsAt b (Within b []) n
  opened : OpenSound b s.opened

variable {b : Buffer} {s : Builder} {n : Node} {nodes : Array Node} {body : Body} {start stop j : Nat}

namespace Sound

theorem children (h : s.Sound b) : ∀ n ∈ s.children, HeadingsAt b (Within b s.bodies) n := by
  unfold Builder.children bodies
  have hopened := h.opened
  cases hs : s.opened with
  | nil => exact h.roots
  | cons o rest =>
    rw [hs] at hopened
    exact hopened.2.1

theorem setChildren (h : s.Sound b) (hn : ∀ n ∈ nodes, HeadingsAt b (Within b s.bodies) n) :
    (s.setChildren nodes).Sound b := by
  obtain ⟨hsource, htask, hroots, hopened⟩ := h
  unfold bodies at hn
  unfold Builder.setChildren
  cases hs : s.opened with
  | nil =>
    rw [hs] at hn
    exact ⟨hsource, htask, hn, by simp [OpenSound]⟩
  | cons o rest =>
    rw [hs] at hn hopened
    exact ⟨hsource, htask, hroots, hopened.1, hn, hopened.2.2⟩

theorem append (h : s.Sound b) (hn : HeadingsAt b (Within b s.bodies) n) : (s.append n).Sound b :=
  h.setChildren (Array.forall_mem_push.2 ⟨hn, h.children⟩)

/-- A node without headings can be added anywhere. -/
theorem appendPlain (h : s.Sound b) (hn : NoHeading n) : (s.append n).Sound b := h.append (hn.headingsAt _)

theorem appendText (h : s.Sound b) : (s.appendText start stop).Sound b := 
  h.setChildren (Node.forall_mem_appendText (fun _ _ hn => hn.move _) ((NoHeading.leaf rfl).headingsAt _) h.children)

theorem push (h : s.Sound b) (hbody : body.mayHead = true → Within b s.bodies start) : (s.push body start).Sound b :=
  ⟨h.source, h.task, h.roots, hbody, by simp, h.opened⟩

/-- The innermost open block may turn into one that admits no less. -/
theorem setTop (h : s.Sound b) (hbody : body.mayHead = true → s.top?.any (·.mayHead) = true)
    (hadmits : ∀ o, s.top? = some o → ∀ j, o.Admits b j → body.Admits b j) : (s.setTop body).Sound b := by
  obtain ⟨hsource, htask, hroots, hopened⟩ := h
  unfold Builder.setTop
  unfold Builder.top? at hbody hadmits
  cases hs : s.opened with
  | nil => exact ⟨hsource, htask, hroots, by simp [hs, OpenSound]⟩
  | cons o rest =>
    rw [hs] at hbody hadmits hopened
    refine ⟨hsource, htask, hroots, fun hhead => hopened.1 (by simpa using hbody hhead), fun n hn => ?_, hopened.2.2⟩
    refine (hopened.2.1 n hn).mono fun j hj => ?_
    simp only [Within, List.map_cons, List.forall_mem_cons] at hj ⊢
    exact ⟨hadmits o.body rfl j hj.1, hj.2⟩

theorem pop (h : s.Sound b) (stop : Nat) : (s.pop stop).Sound b := by
  unfold Builder.pop
  have hopened := h.opened
  cases hs : s.opened with
  | nil => exact h
  | cons o rest =>
    rw [hs] at hopened
    obtain ⟨hstart, hchildren, hrest⟩ := hopened
    have hs' : Sound b { s with opened := rest } := ⟨h.source, h.task, h.roots, hrest⟩
    have hnode : HeadingsAt b (Within b (rest.map (·.body)))
        { body := o.body, start := o.start, stop, children := o.children.toList } := by
      refine ⟨fun hn => hstart ?_, fun c hc => (hchildren c (Array.mem_toList_iff.1 hc)).mono fun j hj => ?_⟩
      · cases hbody : o.body <;> simp_all [Body.isHeading, Body.mayHead]
      · simp only [Within, List.map_cons, List.forall_mem_cons] at hj
        exact ⟨hj.2, hj.1⟩
    dsimp only
    split
    · have := hs'.append (n := Node.tighten _) hnode.tighten
      exact ⟨this.source, this.task, this.roots, this.opened⟩
    · exact hs'.append hnode

theorem finishEmptyItem (h : s.Sound b) : s.finishEmptyItem.Sound b := by
  have hclosed {t : Builder} (ht : t.Sound b) : Sound b { t with emptyItem := none } :=
    ⟨ht.source, ht.task, ht.roots, ht.opened⟩
  unfold Builder.finishEmptyItem
  dsimp only
  split
  · split_ifs
    · exact hclosed (h.pop _)
    · exact hclosed h
  · exact hclosed h

theorem loosenOuter (h : s.Sound b) : s.loosenOuter.Sound b := by
  have hkept : Sound b { s with blankBefore := false } := ⟨h.source, h.task, h.roots, h.opened⟩
  unfold Builder.loosenOuter
  split_ifs
  · exact h
  · split
    · rename_i inner outer rest hopened
      split
      · -- A loose list admits what it admitted when it was tight.
        rename_i tight mark start hlist
        have hsound := h.opened
        rw [hopened] at hsound
        obtain ⟨hinner, hchildren, houter, hlists, hrest⟩ := hsound
        have hwithin (j : Nat) : Within b (outer.body :: rest.map (·.body)) j →
            Within b (.list false mark start :: rest.map (·.body)) j := by
          simp only [Within, List.forall_mem_cons]
          exact fun hj => ⟨rfl, hj.2⟩
        refine ⟨h.source, h.task, h.roots, fun hhead => hwithin _ (hinner hhead), fun n hn => ?_, ?_, fun n hn => ?_, hrest⟩
        · refine (hchildren n hn).mono fun j hj => ?_
          simp only [Within, List.map_cons, List.forall_mem_cons] at hj ⊢
          exact ⟨hj.1, rfl, hj.2.2⟩
        · intro hhead
          cases hhead
        · exact (hlists n hn).mono hwithin
      · exact hkept
    · exact hkept

theorem finishList (h : s.Sound b) (stop : Nat) : (s.finishList stop).Sound b := by
  unfold Builder.finishList
  dsimp only
  split
  · exact (h.finishEmptyItem.pop _).loosenOuter
  · exact h.finishEmptyItem.loosenOuter

theorem continueList (h : s.Sound b) (start : Nat) (mark : Char) (number : Nat) :
    (s.continueList start mark number).Sound b := by
  have hfresh {t : Builder} (ht : t.Sound b) :
      Sound b { t.push (.list true mark number) start with blankBefore := false } := by
    have : (t.push (.list true mark number) start).Sound b := ht.push fun hhead => by cases hhead
    exact ⟨this.source, this.task, this.roots, this.opened⟩
  have hsound := h.finishEmptyItem
  unfold Builder.continueList
  dsimp only
  split
  · rename_i tight m n htop
    split_ifs
    · exact hfresh (hsound.finishList _)
    · have : (s.finishEmptyItem.setTop (.list false m n)).Sound b :=
        hsound.setTop (fun hhead => by cases hhead) fun o ho j _ => rfl
      exact ⟨this.source, this.task, this.roots, this.opened⟩
    · exact hsound
  · exact hfresh (hsound.finishList _)
  · exact hfresh hsound

end Sound

/-! ## What is open -/

theorem bodies_setChildren (s : Builder) (nodes : Array Node) : (s.setChildren nodes).bodies = s.bodies := by
  unfold setChildren bodies
  split <;> rename_i h <;> simp [h]

theorem bodies_setTop (s : Builder) (body : Body) : (s.setTop body).bodies = s.bodies.modifyHead fun _ => body := by
  unfold setTop bodies
  split <;> rename_i h <;> simp [h]

theorem bodies_append (s : Builder) (n : Node) : (s.append n).bodies = s.bodies := bodies_setChildren _ _

theorem bodies_appendText (s : Builder) (start stop : Nat) : (s.appendText start stop).bodies = s.bodies :=
  bodies_setChildren _ _

theorem bodies_pop (s : Builder) (stop : Nat) : (s.pop stop).bodies = s.bodies.tail := by
  unfold pop
  split
  · rename_i h
    simp [bodies, h]
  · rename_i o rest h
    have hrest : s.bodies.tail = rest.map (·.body) := by simp [bodies, h]
    rw [hrest]
    dsimp only
    split <;> exact bodies_append _ _

theorem bodies_popTo (s : Builder) (stop count : Nat) :
    (s.popTo stop count).bodies = s.bodies.drop (s.bodies.length - count) := by
  have hfold (n : Nat) (s : Builder) : ((List.range n).foldl (fun s _ => s.pop stop) s).bodies = s.bodies.drop n := by
    induction n generalizing s with
    | zero => rfl
    | succ n ih => rw [List.range_succ, List.foldl_append, List.foldl_cons, List.foldl_nil, bodies_pop, ih, List.tail_drop]
  rw [popTo, hfold, bodies, List.length_map]

theorem Sound.popTo (h : s.Sound b) (stop count : Nat) : (s.popTo stop count).Sound b := by
  unfold Builder.popTo
  induction List.range (s.opened.length - count) generalizing s with
  | nil => exact h
  | cons _ _ ih => exact ih (h.pop stop)

section
variable {p : Body → Prop}

theorem forall_bodies_pop (h : ∀ body ∈ s.bodies, p body) : ∀ body ∈ (s.pop stop).bodies, p body := by
  rw [bodies_pop]
  exact fun body hbody => h body (List.mem_of_mem_tail hbody)

theorem forall_bodies_setTop (hbody : p body) (h : ∀ o ∈ s.bodies.tail, p o) : ∀ o ∈ (s.setTop body).bodies, p o := by
  rw [bodies_setTop]
  cases hbodies : s.bodies with
  | nil => simp
  | cons first rest =>
    rw [hbodies, List.tail_cons] at h
    exact List.forall_mem_cons.2 ⟨hbody, h⟩

theorem forall_bodies_finishEmptyItem (h : ∀ body ∈ s.bodies, p body) : ∀ body ∈ s.finishEmptyItem.bodies, p body := by
  unfold finishEmptyItem
  dsimp only
  split
  · split_ifs
    · exact forall_bodies_pop h
    · exact h
  · exact h

theorem forall_bodies_loosenOuter (hlist : ∀ tight mark start, p (.list tight mark start)) (h : ∀ body ∈ s.bodies, p body) :
    ∀ body ∈ s.loosenOuter.bodies, p body := by
  unfold loosenOuter
  split_ifs
  · exact h
  · split
    · rename_i inner outer rest hopened
      split
      · simp only [bodies, hopened, List.map_cons, List.forall_mem_cons] at h ⊢
        exact ⟨h.1, hlist _ _ _, h.2.2⟩
      · exact h
    · exact h

theorem forall_bodies_finishList (hlist : ∀ tight mark start, p (.list tight mark start)) (stop : Nat)
    (h : ∀ body ∈ s.finishEmptyItem.bodies, p body) : ∀ body ∈ (s.finishList stop).bodies, p body := by
  unfold finishList
  dsimp only
  split
  · exact forall_bodies_loosenOuter hlist (forall_bodies_pop h)
  · exact forall_bodies_loosenOuter hlist h

end

/-- Everything open takes blocks. -/
def Clear (s : Builder) : Prop := ∀ body ∈ s.bodies, body.TakesBlocks

/-- Between two lines everything open takes blocks, but for an item that starts with two blank lines: it is closed before
anything is read in it. -/
def Between (s : Builder) : Prop :=
  s.Clear ∨ ∃ rest, s.bodies = .item 0 :: rest ∧ (∀ body ∈ rest, body.TakesBlocks) ∧ s.emptyItem.isSome = true ∧
    s.blankBefore = true

/-- All that takes blocks admits one at a position. -/
def Reaches (b : Buffer) (s : Builder) (j : Nat) : Prop := ∀ body ∈ s.bodies, body.TakesBlocks → body.Admits b j

theorem Between.tail (h : s.Between) : ∀ body ∈ s.bodies.tail, body.TakesBlocks := by
  rcases h with hclear | ⟨rest, hbodies, hrest, -⟩
  · exact fun body hbody => hclear body (List.mem_of_mem_tail hbody)
  · rw [hbodies]
    exact hrest

theorem Between.finishEmptyItem (h : s.Between) : s.finishEmptyItem.Clear := by
  rcases h with h | ⟨rest, hbodies, hrest, hempty, hblank⟩
  · exact forall_bodies_finishEmptyItem h
  · obtain ⟨stop, hstop⟩ := Option.isSome_iff_exists.1 hempty
    have htop : s.top? = some (.item 0) := by
      rw [top?, ← List.head?_map]
      exact congrArg List.head? hbodies
    have heq : s.finishEmptyItem = { s.pop stop with emptyItem := none } := by
      unfold Builder.finishEmptyItem
      rw [hstop, htop]
      simp only [hblank, if_true]
    intro body hbody
    have hpop : body ∈ (s.pop stop).bodies := by rwa [heq] at hbody
    rw [bodies_pop, hbodies, List.tail_cons] at hpop
    exact hrest body hpop

theorem takesBlocks_list (tight : Bool) (mark : Char) (start : Nat) : (Body.list tight mark start).TakesBlocks :=
  ⟨rfl, by simp⟩

theorem Between.finishList (h : s.Between) (stop : Nat) : (s.finishList stop).Clear :=
  forall_bodies_finishList takesBlocks_list stop h.finishEmptyItem

theorem Reaches.finishList (h : s.Reaches b j) (stop : Nat) : (s.finishList stop).Reaches b j :=
  forall_bodies_finishList (fun _ _ _ _ => rfl) stop (forall_bodies_finishEmptyItem h)

theorem Between.continueList (h : s.Between) (start : Nat) (mark : Char) (number : Nat) :
    (s.continueList start mark number).Clear := by
  have hfresh {t : Builder} (ht : t.Clear) : Clear { t.push (.list true mark number) start with blankBefore := false } :=
    List.forall_mem_cons.2 ⟨takesBlocks_list _ _ _, ht⟩
  have hclear := h.finishEmptyItem
  unfold Builder.continueList
  dsimp only
  split
  · split_ifs
    · exact hfresh (Between.finishList (.inl hclear) _)
    · exact forall_bodies_setTop (takesBlocks_list _ _ _) fun body hbody => hclear body (List.mem_of_mem_tail hbody)
    · exact hclear
  · exact hfresh (Between.finishList (.inl hclear) _)
  · exact hfresh hclear

end Builder

end LivePage.Markdown
