import LivePage.Proofs.Markdown.Nesting
/-!
# Reading blocks puts headings where their containers admit them

Each reader of a leaf block is started where the containers of a line end, so all that is open admits a block there.
The readers keep headings in their places, and so does a whole line, and the document.
-/
namespace LivePage.Markdown

open Builder

/-! ## Actions -/

/-- What holds of the result of an action and of the state after it. -/
def Ensures {α : Type} (m : BlockM α) (s : Builder) (Q : α → Builder → Prop) : Prop := Q (m.run s).1 (m.run s).2

namespace Ensures

variable {α β : Type} {m m' : BlockM α} {f : α → BlockM β} {s t : Builder} {Q : α → Builder → Prop}
  {R : β → Builder → Prop}

theorem of_pure {a : α} (h : Q a s) : Ensures (pure a) s Q := h

theorem bind (h : Ensures m s Q) (hf : ∀ a t, Q a t → Ensures (f a) t R) : Ensures (m >>= f) s R := hf _ _ h

theorem get_bind {f : Builder → BlockM β} (h : Ensures (f s) s R) : Ensures (get >>= f) s R := h

theorem set_bind {f : PUnit → BlockM β} (h : Ensures (f ⟨⟩) t R) : Ensures (set t >>= f) s R := h

theorem modify_bind {g : Builder → Builder} {f : PUnit → BlockM β} (h : Ensures (f ⟨⟩) (g s) R) :
    Ensures (modify g >>= f) s R := h

theorem of_modify {g : Builder → Builder} {Q : PUnit → Builder → Prop} (h : Q ⟨⟩ (g s)) : Ensures (modify g) s Q := h

theorem mono {Q' : α → Builder → Prop} (h : Ensures m s Q) (himp : ∀ a t, Q a t → Q' a t) : Ensures m s Q' := himp _ _ h

theorem ite {c : Prop} [Decidable c] (h : c → Ensures m s Q) (h' : ¬ c → Ensures m' s Q) :
    Ensures (if c then m else m') s Q := by
  split_ifs with hc
  · exact h hc
  · exact h' hc

end Ensures

/-! ## Leaf blocks -/

namespace Builder

/-- Headings are in their places, and everything open takes blocks. -/
structure Good (b : Buffer) (s : Builder) : Prop where
  sound : s.Sound b
  clear : s.Clear

variable {b : Buffer} {s : Builder} {n : Node} {nodes : Array Node} {body : Body} {start stop : Nat}

namespace Good

theorem setChildren (h : s.Good b) (hn : ∀ n ∈ nodes, HeadingsAt b (Within b s.bodies) n) : (s.setChildren nodes).Good b :=
  ⟨h.sound.setChildren hn, by rw [Clear, bodies_setChildren]; exact h.clear⟩

theorem append (h : s.Good b) (hn : HeadingsAt b (Within b s.bodies) n) : (s.append n).Good b :=
  ⟨h.sound.append hn, by rw [Clear, bodies_append]; exact h.clear⟩

theorem appendPlain (h : s.Good b) (hn : NoHeading n) : (s.append n).Good b := h.append (hn.headingsAt _)

theorem appendText (h : s.Good b) : (s.appendText start stop).Good b :=
  ⟨h.sound.appendText, by rw [Clear, bodies_appendText]; exact h.clear⟩

theorem appendSpaces (h : s.Good b) (owed start : Nat) : Good b (if 0 < owed then
    s.append { body := .literal (String.ofList (List.replicate owed ' ')), start, stop := start } else s) := by
  split_ifs
  · exact h.appendPlain (.leaf rfl)
  · exact h

theorem pop (h : s.Good b) (stop : Nat) : (s.pop stop).Good b := ⟨h.sound.pop stop, forall_bodies_pop h.clear⟩

theorem push (h : s.Good b) (hhead : body.mayHead = false) (htakes : body.TakesBlocks) : (s.push body start).Good b :=
  ⟨h.sound.push fun hbody => absurd hbody (by simp [hhead]), List.forall_mem_cons.2 ⟨htakes, h.clear⟩⟩

/-- What is remembered besides the tree has no part in it. -/
theorem congr {t : Builder} (h : s.Good b) (hsource : t.source = s.source) (htask : t.task = s.task)
    (hroots : t.roots = s.roots) (hopened : t.opened = s.opened) : t.Good b := by
  refine ⟨⟨hsource.trans h.sound.source, ?_, ?_, ?_⟩, ?_⟩
  · rw [htask]; exact h.sound.task
  · rw [hroots]; exact h.sound.roots
  · rw [hopened]; exact h.sound.opened
  · rw [Clear, bodies, hopened]; exact h.clear

end Good

end Builder

section
variable {b : Buffer} {s : Builder}

theorem good_appendCodeLine (h : s.Good b) (owed start stop : Nat) :
    Ensures (appendCodeLine owed start stop) s fun _ t => t.Good b := by
  refine .of_modify ?_
  have hspaces := h.appendSpaces owed start
  dsimp only
  split_ifs at hspaces ⊢ <;> first | exact hspaces.appendText.appendText | exact hspaces.appendText

theorem good_appendMarkupLine (h : s.Good b) (spaces start stop : Nat) :
    Ensures (appendMarkupLine spaces start stop) s fun _ t => t.Good b := by
  refine .of_modify ?_
  have hspaces := h.appendSpaces spaces start
  dsimp only
  split_ifs at hspaces ⊢ <;>
    first | exact (hspaces.appendPlain (.leaf rfl)).appendPlain (.leaf rfl) | exact hspaces.appendPlain (.leaf rfl)

theorem good_fencedLines (h : s.Good b) (mark : Char) (length indent fuel i : Nat) :
    Ensures (fencedLines mark length indent fuel i) s fun _ t => t.Good b := by
  induction fuel generalizing s i with
  | zero => exact h
  | succ fuel ih =>
    unfold fencedLines
    refine .get_bind (.ite (fun _ => h.pop i) fun _ => ?_)
    dsimp only
    split
    · exact h.pop _
    · exact .bind (good_appendCodeLine h _ _ _) fun _ t ht => ih ht _

theorem good_fencedCode (h : s.Good b) (start indent : Nat) (mark : Char) (length : Nat) :
    Ensures (fencedCode start indent mark length) s fun _ t => t.Good b :=
  .get_bind (.set_bind (good_fencedLines (h.push rfl ⟨rfl, by simp⟩) _ _ _ _ _))

theorem good_indentedLines (h : s.Good b) (fuel owed i kept stop : Nat) :
    Ensures (indentedLines fuel owed i kept stop) s fun _ t => t.Good b := by
  induction fuel generalizing s owed i kept stop with
  | zero => exact h
  | succ fuel ih =>
    unfold indentedLines
    refine .get_bind (.bind (good_appendCodeLine h _ _ _) fun _ t ht => .get_bind ?_)
    dsimp only
    refine .ite (fun _ => .of_pure ht) fun _ => .set_bind ?_
    refine ih ?_ _ _ _ _
    exact ht.congr rfl rfl rfl rfl

theorem good_indentedCode (h : s.Good b) (start owed : Nat) :
    Ensures (indentedCode start owed) s fun _ t => t.Good b := by
  have hopened : (s.push .indentedCode start).Good b := h.push rfl ⟨rfl, by simp⟩
  have hpush : Good b { s.push .indentedCode start with blankBefore := false } := hopened.congr rfl rfl rfl rfl
  refine .get_bind (.set_bind (.bind (good_indentedLines hpush _ _ _ _ _) fun r t ht => .modify_bind (.of_pure ?_)))
  refine Good.pop (ht.setChildren (Node.forall_mem_setLastStop (fun _ _ hn => hn.move _) fun n hn => ?_)) _
  obtain ⟨k, hk, rfl⟩ := Array.mem_extract_iff_getElem.1 hn
  exact ht.sound.children _ (Array.getElem_mem _)

theorem good_markupLines (h : s.Good b) (ends : Nat → Nat → Bool) (fuel spaces i : Nat) :
    Ensures (markupLines ends fuel spaces i) s fun _ t => t.Good b := by
  induction fuel generalizing s spaces i with
  | zero => exact h
  | succ fuel ih =>
    unfold markupLines
    refine .get_bind (.bind (good_appendMarkupLine h _ _ _) fun _ t ht => .get_bind ?_)
    dsimp only
    refine .ite (fun _ => .set_bind (.of_pure (ht.pop _))) fun _ => ?_
    refine .ite (fun _ => .set_bind (.of_pure (ht.pop _))) fun _ => ?_
    exact ih ht _ _

theorem good_markupTo (h : s.Good b) (start spaces : Nat) (text : String) :
    Ensures (markupTo start spaces text) s fun _ t => t.Good b :=
  .get_bind (.set_bind (good_markupLines (h.push rfl ⟨rfl, by simp⟩) _ _ _ _))

theorem good_markupToBlank (h : s.Good b) (start spaces : Nat) :
    Ensures (markupToBlank start spaces) s fun _ t => t.Good b :=
  .get_bind (.set_bind (.get_bind (good_markupLines (h.push rfl ⟨rfl, by simp⟩) _ _ _ _)))

theorem good_numberSignHeading (h : s.Good b) {start : Nat} (hwithin : Within b s.bodies start) (level : Nat) :
    Ensures (numberSignHeading start level) s fun _ t => t.Good b := by
  unfold numberSignHeading
  refine .get_bind ?_
  dsimp only
  split
  · exact .set_bind (.of_pure (h.append ⟨fun _ => hwithin, by simp⟩))
  · refine .set_bind (.of_pure (h.append ⟨fun _ => hwithin, fun c hc => NoHeading.headingsAt ?_ _⟩))
    exact Node.noHeading_setLastStop (Buffer.plain_line (by simp)).1 c (Array.mem_toList_iff.1 hc)

end

/-! ## Paragraphs -/

namespace Builder

/-- Headings are in their places, and everything open around the innermost block takes blocks. -/
structure Inside (b : Buffer) (s : Builder) : Prop where
  sound : s.Sound b
  clear : ∀ body ∈ s.bodies.tail, body.TakesBlocks

variable {b : Buffer} {s : Builder} {n : Node} {nodes : Array Node} {body : Body} {start stop : Nat}

namespace Inside

theorem pop (h : s.Inside b) (stop : Nat) : (s.pop stop).Good b :=
  ⟨h.sound.pop stop, by rw [Clear, bodies_pop]; exact h.clear⟩

theorem setChildren (h : s.Inside b) (hn : ∀ n ∈ nodes, HeadingsAt b (Within b s.bodies) n) :
    (s.setChildren nodes).Inside b :=
  ⟨h.sound.setChildren hn, by rw [bodies_setChildren]; exact h.clear⟩

theorem appendText (h : s.Inside b) : (s.appendText start stop).Inside b :=
  ⟨h.sound.appendText, by rw [bodies_appendText]; exact h.clear⟩

end Inside

/-- A paragraph is open, and everything open around it takes blocks. -/
structure InParagraph (b : Buffer) (s : Builder) : Prop extends Inside b s where
  top : s.top? = some .paragraph

namespace InParagraph

theorem not_within (h : s.InParagraph b) (j : Nat) : ¬ Within b s.bodies j := by
  have htop := h.top
  unfold top? at htop
  unfold bodies
  cases hopened : s.opened with
  | nil => simp [hopened] at htop
  | cons o rest =>
    rw [hopened] at htop
    intro hwithin
    have hparagraph := hwithin o.body List.mem_cons_self
    have heq : o.body = .paragraph := Option.some.inj htop
    rw [heq] at hparagraph
    cases hparagraph

theorem noHeading_children (h : s.InParagraph b) : ∀ n ∈ s.children, NoHeading n := fun n hn =>
  (h.sound.children n hn).noHeading h.not_within

theorem setChildren (h : s.InParagraph b) (hn : ∀ n ∈ nodes, NoHeading n) : (s.setChildren nodes).InParagraph b where
  toInside := h.toInside.setChildren fun n hn' => (hn n hn').headingsAt _
  top := by
    have htop := h.top
    unfold top? at htop ⊢
    unfold Builder.setChildren
    cases hopened : s.opened with
    | nil => simp [hopened] at htop
    | cons o rest =>
      rw [hopened] at htop
      exact htop

theorem append (h : s.InParagraph b) (hn : NoHeading n) : (s.append n).InParagraph b :=
  h.setChildren (Array.forall_mem_push.2 ⟨hn, h.noHeading_children⟩)

theorem withoutTask (h : s.InParagraph b) : InParagraph b { s with task := none } :=
  ⟨⟨⟨h.sound.source, by simp, h.sound.roots, h.sound.opened⟩, h.clear⟩, h.top⟩

end InParagraph

end Builder

section
variable {b : Buffer} {s : Builder}

/-- A paragraph that turns out to be a heading stands where a heading may. -/
theorem inside_setTop_heading (h : s.InParagraph b) (level : Nat) (attributes : HeadingAttributes) :
    (s.setTop (.heading level attributes)).Inside b := by
  refine ⟨h.sound.setTop (fun _ => by rw [h.top]; rfl) fun o ho j hj => ?_, ?_⟩
  · obtain rfl := Option.some.inj (h.top.symm.trans ho)
    cases hj
  · rw [bodies_setTop, List.tail_modifyHead]
    exact h.clear

theorem ensures_underlinedHeading? (h : s.InParagraph b) (i : Nat) (trailing : Bool) :
    Ensures (underlinedHeading? i trailing) s fun r t => t.Inside b ∧ (r = none → t = s) := by
  unfold underlinedHeading?
  refine .get_bind ?_
  extract_lets source
  split
  · rename_i next level paragraph rest _ hopened
    have hchildren : paragraph.children = s.children := by simp [Builder.children, hopened]
    have hnodes (cut : Bool) (stop : Nat) :
        ∀ n ∈ (if cut = true then Node.truncate source s.children stop else s.children), NoHeading n := by
      split_ifs
      · exact Node.noHeading_truncate h.noHeading_children
      · exact h.noHeading_children
    split
    · exact .set_bind (.of_pure ⟨inside_setTop_heading h _ _, by simp⟩)
    · dsimp only
      refine .set_bind (.of_pure ⟨inside_setTop_heading (h.setChildren ?_) _ _, by simp⟩)
      rw [hchildren]
      exact Node.noHeading_setLastStop (hnodes _ _)
  · exact .of_pure ⟨h.toInside, fun _ => rfl⟩

theorem good_tableRows (h : s.Good b) (columns fuel i : Nat) :
    Ensures (tableRows columns fuel i) s fun _ t => t.Good b := by
  induction fuel generalizing s i with
  | zero => exact h
  | succ fuel ih =>
    unfold tableRows
    refine .get_bind ?_
    dsimp only
    refine .ite (fun _ => .of_pure h) fun _ => ?_
    split
    · exact .of_pure h
    · rename_i row next hrow
      exact .set_bind (ih (h.appendPlain (noHeading_tableRow? rfl hrow)) _)

/-- A paragraph that turns out to be a table has rows without headings. -/
theorem good_tableBlock (h : s.InParagraph b) (columns : List Alignment) (headStart bodyStart : Nat) :
    Ensures (tableBlock columns headStart bodyStart) s fun _ t => t.Good b := by
  have htop : (s.setTop (.table columns)).Good b := by
    refine ⟨h.sound.setTop (fun hhead => by cases hhead) fun o ho j _ => rfl, ?_⟩
    exact forall_bodies_setTop ⟨rfl, by simp⟩ h.clear
  unfold tableBlock
  refine .get_bind ?_
  dsimp only
  refine .set_bind (.bind (good_tableRows ?_ _ _ _) fun next t ht => .modify_bind (.of_pure (ht.pop _)))
  refine (htop.setChildren (by simp)).setChildren fun n hn => NoHeading.headingsAt ?_ _
  obtain ⟨⟨row, next⟩, hrow, rfl⟩ := Option.map_eq_some_iff.1 (Option.mem_toArray.1 hn)
  exact noHeading_tableRow? rfl hrow

theorem good_paragraphLines (h : s.InParagraph b) (fuel : Nat) (isFirst : Bool) (i : Nat) :
    Ensures (paragraphLines fuel isFirst i) s fun _ t => t.Good b := by
  induction fuel generalizing s isFirst i with
  | zero => exact h.pop i
  | succ fuel ih =>
    unfold paragraphLines
    refine .get_bind ?_
    extract_lets source line next
    have hline : line.Plain := Buffer.plain_line h.noHeading_children
    have hread : (s.setChildren line.nodes).InParagraph b := h.setChildren hline.1
    refine .set_bind ?_
    split
    · exact good_tableBlock hread _ _ _
    · refine .get_bind ?_
      extract_lets brk backslash keepBackslash
      have hbrk : ∀ n, brk = some n → NoHeading n := by
        intro n hn
        refine hline.2 n ?_
        simp only [brk] at hn
        split at hn
        · rename_i heq
          rw [heq, Option.some.inj hn]
        · cases hn
      have hkeep {t : Builder} (ht : t.Inside b) : Ensures keepBackslash t fun _ t => t.Inside b := by
        simp only [keepBackslash]
        cases backslash with
        | some p => exact .of_modify ht.appendText
        | none => exact .of_pure ht
      generalize (s.setChildren line.nodes).context.enter next = entered
      obtain ⟨c, inside⟩ := entered
      dsimp -zeta only
      generalize Cursor.skipExactly source c 4 = skipped
      obtain ⟨c, code⟩ := skipped
      extract_lets after goOn rest
      -- The block ends here, or its lines go on.
      have hrest {t : Builder} (ht : t.InParagraph b) : Ensures (rest ()) t fun _ t => t.Good b := by
        simp only [rest]
        refine .ite (fun _ => .bind (hkeep ht.toInside) fun _ t ht => .modify_bind (.of_pure (ht.pop _))) fun _ => ?_
        cases hn : brk with
        | none => exact ih ht _ _
        | some n => exact .modify_bind (ih (ht.append (hbrk n hn)) _ _)
      refine .ite (fun _ => ?_) fun _ => hrest hread
      refine .bind (ensures_underlinedHeading? hread _ _) fun r t ht => ?_
      cases r with
      | none =>
        rw [ht.2 rfl]
        exact hrest hread
      | some stop => exact .bind (hkeep ht.1) fun _ t ht => .modify_bind (.of_pure (ht.pop _))

/-- A paragraph stands where everything open admits a heading, for it may turn out to be one. -/
theorem good_paragraph (h : s.Good b) {start : Nat} (hwithin : Within b s.bodies start) :
    Ensures (paragraph start) s fun _ t => t.Good b := by
  have hpush : (s.push .paragraph start).InParagraph b :=
    ⟨⟨h.sound.push fun _ => hwithin, h.clear⟩, rfl⟩
  unfold paragraph
  refine .get_bind (.set_bind (good_paragraphLines ?_ _ _ _))
  cases htask : s.task with
  | none => exact hpush.withoutTask
  | some n => exact (hpush.append (h.sound.task n htask)).withoutTask

end

/-! ## Containers of a line -/

namespace Builder

/-- Headings are in their places, between two lines. -/
structure Ready (b : Buffer) (s : Builder) : Prop where
  sound : s.Sound b
  between : s.Between

theorem Good.ready {b : Buffer} {s : Builder} (h : s.Good b) : s.Ready b := ⟨h.sound, .inl h.clear⟩

theorem Ready.finishList {b : Buffer} {s : Builder} (h : s.Ready b) (stop : Nat) : (s.finishList stop).Good b :=
  ⟨h.sound.finishList stop, h.between.finishList stop⟩

end Builder

section
variable {b : Buffer} {s : Builder}

/-- After the label and the colon of a footnote definition there is ink. -/
theorem ensures_footnote? (h : s.Ready b) (i : Nat) :
    Ensures (footnote? i) s fun r t =>
      match r with
      | none => t = s
      | some next => t.Ready b ∧ b.Inked next := by
  unfold footnote?
  refine .get_bind (.ite (fun _ => .of_pure rfl) fun _ => ?_)
  split
  · rename_i label colon _
    refine .ite (fun _ => .of_pure rfl) fun hcolon => ?_
    extract_lets listed around
    have haround : around.Good b := by
      simp only [around]
      split
      · exact (h.finishList i).pop i
      · exact h.finishList i
    refine .set_bind (.of_pure ⟨Good.ready ?_, ?_⟩)
    · have hopened : (around.push (.footnoteDefinition label) i).Good b := haround.push rfl ⟨rfl, by simp⟩
      exact hopened.congr rfl rfl rfl rfl
    · rw [haround.sound.source]
      rw [h.sound.source, Bool.not_eq_true, Bool.not_eq_false'] at hcolon
      exact (Buffer.inked_succ (Buffer.holdsAt_of_isAt hcolon (by decide))).of_sameLine (Buffer.sameLine_skipSpace _)
  · exact .of_pure rfl

theorem ensures_listItem (h : s.Ready b) (start : Nat) {marker : Buffer.ListMarker} (hmarker : marker.indent ≠ 0)
    {c : Cursor} (hc : b.Inked c.ix) :
    Ensures (listItem start marker c) s fun r t => t.Ready b ∧ b.Inked r.2.ix := by
  have hitem : Good b ((s.continueList start marker.mark marker.start).push (.item marker.indent) start) :=
    Good.push ⟨h.sound.continueList _ _ _, h.between.continueList _ _ _⟩ rfl ⟨rfl, by simpa using hmarker⟩
  unfold listItem
  refine .get_bind ?_
  extract_lets t source
  have hsource : source = b := hitem.sound.source
  split
  · exact .set_bind (.of_pure ⟨Good.ready (hitem.congr rfl rfl rfl rfl), hc⟩)
  · split
    · exact .set_bind (.of_pure ⟨hitem.ready, hc⟩)
    · rename_i ticked after hafter
      have hink := Cursor.inked_taskMarker (hsource ▸ hafter)
      extract_lets task
      split
      · refine .set_bind (.of_pure ⟨Good.ready ?_, hink⟩)
        exact (hitem.appendPlain (n := task) (.leaf rfl)).congr rfl rfl rfl rfl
      · have hsound := hitem.sound
        refine .set_bind (.of_pure ⟨⟨⟨hsound.source, ?_, hsound.roots, hsound.opened⟩, .inl hitem.clear⟩, hink⟩)
        intro n hn
        obtain rfl := Option.some.inj hn
        exact .leaf rfl

/-- A line that opens no container leaves everything as it was, and after the last one that it opens there is ink. -/
theorem ensures_openContainers (h : s.Ready b) (fuel start : Nat) {c : Cursor} (hc : c.Fits b) :
    Ensures (openContainers fuel start c) s fun r t =>
      t.Ready b ∧ (t = s ∧ r.2.2 = c ∨ b.Inked r.2.2.ix) := by
  induction fuel generalizing s start c with
  | zero => exact ⟨h, .inl ⟨rfl, rfl⟩⟩
  | succ fuel ih =>
    -- A container that was opened leaves ink before the cursor, and all that is opened from there on keeps it.
    have hafter {t : Builder} (ht : t.Ready b) (start : Nat) {after : Cursor} (hink : b.Inked after.ix) :
        Ensures (openContainers fuel start after) t fun r u => u.Ready b ∧ (u = s ∧ r.2.2 = c ∨ b.Inked r.2.2.ix) := by
      refine .mono (ih ht start (Cursor.fits_of_indented hink.indented)) fun r u hu => ⟨hu.1, .inr ?_⟩
      rcases hu.2 with ⟨-, heq⟩ | hu
      · exact heq ▸ hink
      · exact hu
    unfold openContainers
    refine .get_bind ?_
    rw [h.sound.source]
    dsimp only
    have hsame : s.Ready b ∧ (s = s ∧ c = c ∨ b.Inked c.ix) := ⟨h, .inl ⟨rfl, rfl⟩⟩
    refine .ite (fun _ => .of_pure hsame) fun _ => .bind (ensures_footnote? h _) fun r t ht => ?_
    cases r with
    | some next => exact hafter ht.1 next ht.2
    | none =>
      obtain rfl : t = s := ht
      dsimp only
      split
      · rename_i marker after hmarker
        obtain ⟨hink, hindent, -⟩ := Cursor.inked_listMarker hmarker
        refine .bind (ensures_listItem h _ hindent hink) fun r t ht => ?_
        obtain ⟨done, after⟩ := r
        exact .get_bind (.ite (fun _ => .of_pure ⟨ht.1, .inr ht.2⟩) fun _ => hafter ht.1 _ ht.2)
      · split
        · rename_i after hquote
          obtain ⟨-, hink, -⟩ := Cursor.skipQuoteMarker_spec hquote
          exact .modify_bind (hafter (Good.ready ((h.finishList _).push rfl ⟨rfl, by simp⟩)) _ hink)
        · exact .of_pure hsame

end

/-! ## Lines -/

section
variable {b : Buffer} {s : Builder}

theorem Within.of_sameLine {bodies : List Body} {i j : Nat} (h : Within b bodies i) (hline : b.SameLine i j) :
    Within b bodies j := fun body hbody => (h body hbody).of_sameLine hline

theorem good_leafBlock (h : s.Good b) {c : Cursor} (hc : c.Fits b) (hwithin : Within b s.bodies c.ix) :
    Ensures (leafBlock c) s fun _ t => t.Good b := by
  have hskip : Within b s.bodies (c.skipAll b).ix :=
    hwithin.of_sameLine (Buffer.sameLine_skipWhile (by decide +kernel) _)
  have hinner : Within b s.bodies (c.skipUpTo b 4).1.ix := hwithin.of_sameLine (Cursor.skipUpTo_spec 4 hc).2.1
  unfold leafBlock
  refine .get_bind ?_
  rw [h.sound.source]
  dsimp only
  refine .ite (fun _ => good_paragraph h hskip) fun _ => .ite (fun _ => good_indentedCode h _ _) fun _ => ?_
  refine .ite (fun _ => good_markupTo h _ _ _) fun _ => .ite (fun _ => good_markupToBlank h _ _) fun _ => ?_
  split
  · exact .set_bind (.of_pure (h.appendPlain (.leaf rfl)))
  · exact good_numberSignHeading h hinner _
  · exact good_fencedCode h _ _ _ _
  · split
    · exact .set_bind (.of_pure (h.congr h.sound.source.symm rfl rfl rfl))
    · exact good_paragraph h hinner

/-- A blank line may give up an item that has nothing in it, but closes nothing. -/
theorem ready_blankLine (h : s.Ready b) : Ensures blankLine s fun _ t => t.Ready b := by
  refine .of_modify ?_
  have hkept : Ready b { s with blankBefore := true } :=
    ⟨⟨h.sound.source, h.sound.task, h.sound.roots, h.sound.opened⟩,
      h.between.imp id fun ⟨rest, hbodies, hrest, hempty, _⟩ => ⟨rest, hbodies, hrest, hempty, rfl⟩⟩
  split
  · exact h
  · rename_i indent htop
    -- An item that starts with two blank lines can have nothing more in it, so it is given up.
    by_cases hempty : s.emptyItem.isSome = true
    · rw [if_pos hempty]
      have hset : (s.setTop (.item 0)).Sound b := h.sound.setTop (fun hhead => by cases hhead) fun o ho j hj => by
        obtain rfl := Option.some.inj (htop.symm.trans ho)
        exact hj
      refine ⟨⟨hset.source, hset.task, hset.roots, hset.opened⟩, .inr ⟨s.bodies.tail, ?_, ?_, ?_, rfl⟩⟩
      · cases hbodies : s.bodies with
        | nil =>
          have : s.top? = s.bodies.head? := (List.head?_map ..).symm
          simp [htop, hbodies] at this
        | cons first rest => exact (bodies_setTop s (.item 0)).trans (by rw [hbodies]; rfl)
      · exact h.between.tail
      · unfold setTop
        split <;> exact hempty
    · rw [if_neg hempty]
      exact hkept
  · exact hkept

/-- Closing containers at the start of a line leaves it between lines. -/
theorem Builder.Ready.popTo (h : s.Ready b) (stop count : Nat) : (s.popTo stop count).Ready b := by
  refine ⟨h.sound.popTo stop count, ?_⟩
  by_cases hcount : s.opened.length ≤ count
  · rw [Builder.popTo, Nat.sub_eq_zero_of_le hcount]
    exact h.between
  · obtain ⟨k, hk⟩ := Nat.exists_eq_succ_of_ne_zero (Nat.sub_ne_zero_of_lt (not_le.1 hcount))
    refine .inl fun body hbody => h.between.tail body ?_
    rw [bodies_popTo, bodies, List.length_map, hk, ← List.drop_tail] at hbody
    exact List.mem_of_mem_drop hbody

/-- **A line puts headings where their containers admit them.** -/
theorem ready_block (h : s.Ready b) (start : Nat) : Ensures (block start) s fun _ t => t.Ready b := by
  obtain ⟨hfits, -, henter, -⟩ := enterContainers_spec (b := b) s.context.spine (Cursor.fits_start b start)
  unfold block
  refine .get_bind ?_
  rw [h.sound.source]
  generalize hentered : enterContainers b s.context.spine (.start start) = entered at hfits henter
  obtain ⟨c, n⟩ := entered
  dsimp only at hfits henter ⊢
  have hclosed : (s.popTo start n).Ready b := h.popTo start n
  refine .set_bind (.bind (ensures_openContainers hclosed _ _ hfits) fun r t ht => ?_)
  obtain ⟨done, lineStart, c'⟩ := r
  cases done with
  | some next => exact .of_pure ht.1
  | none =>
    dsimp only
    split
    · exact .bind (ready_blankLine ht.1) fun _ u hu => .of_pure hu
    · rename_i hrest
      -- What is still open was entered on this line, or opened on it.
      have hreaches : t.Reaches b c'.ix := by
        rcases ht.2 with ⟨rfl, hc⟩ | hink
        · obtain rfl : c' = c := hc
          rcases henter with heol | hadmits
          · exact absurd (Cursor.isSome_skipBlankLine? heol) (by simp [hrest])
          · intro body hbody
            refine hadmits body ?_
            change body ∈ s.bodies.reverse.take n
            rwa [List.take_reverse, List.mem_reverse, ← bodies_popTo s start n]
        · exact fun body _ htakes => htakes.admits_of_inked hink
      have hfits' : c'.Fits b := by
        rcases ht.2 with ⟨-, hc⟩ | hink
        · obtain rfl : c' = c := hc
          exact hfits
        · exact Cursor.fits_of_indented hink.indented
      have hgood := ht.1.finishList lineStart
      refine .modify_bind (.mono (good_leafBlock hgood hfits' fun body hbody => ?_) fun _ u hu => hu.ready)
      exact hreaches.finishList lineStart body hbody (hgood.clear body hbody)

/-- **All lines put headings where their containers admit them.** -/
theorem sound_blocksFrom (h : s.Ready b) (fuel i : Nat) : Ensures (blocksFrom fuel i) s fun _ t => t.Sound b := by
  induction fuel generalizing s i with
  | zero => exact h.sound.popTo _ _
  | succ fuel ih =>
    unfold blocksFrom
    refine .get_bind (.ite (fun _ => h.sound.popTo _ _) fun _ => .bind (ready_block h i) fun next t ht => ih ht next)

end

/-- Headings of a document stand where their containers admit them. -/
theorem headingsAt_read (b : Buffer) : ∀ n ∈ (Outline.read b).nodes, HeadingsAt b (Within b []) n := by
  have hstart : Ready b { source := b } := ⟨⟨rfl, by simp, by simp, trivial⟩, .inl (by simp [Clear, bodies])⟩
  intro n hn
  exact (sound_blocksFrom hstart (b.stop + 1) 0).roots n (Array.mem_toList_iff.1 hn)

end LivePage.Markdown
