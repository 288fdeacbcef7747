import LivePage.Proofs.Task.Binding
import LivePage.Proofs.Task.Detect
import LivePage.Proofs.Task.Synthesis
/-!
# What synthesis keeps

The new lines of a body, each with the section that it was generated for, if it was. Without the generated ones they
are the lines of the body outside of what is replaced, each with its own number, and the numbers never fall.
-/
namespace LivePage

open Text Markdown

namespace Synthesis

open TaskSection

/-! ## Sections in order -/

/-- Sections that lie one after the other from a line on, and end no later than another line. -/
def InOrder (last : Nat) : Nat → List TaskSection → Prop
  | next, [] => next ≤ last
  | next, s :: rest =>
    next ≤ s.headingLine ∧ s.headingLine < s.firstItem ∧ s.firstItem < s.endLine ∧ InOrder last s.endLine rest

namespace InOrder

variable {last next : Nat} {ss : List TaskSection} {s : TaskSection}

theorem le (h : InOrder last next ss) : next ≤ last := by
  induction ss generalizing next with
  | nil => exact h
  | cons s rest ih =>
    obtain ⟨h1, h2, h3, hrest⟩ := h
    have := ih hrest
    omega

theorem le_headingLine (h : InOrder last next ss) : ∀ s ∈ ss, next ≤ s.headingLine := by
  induction ss generalizing next with
  | nil => simp
  | cons s rest ih =>
    obtain ⟨h1, h2, h3, hrest⟩ := h
    refine List.forall_mem_cons.2 ⟨h1, fun t ht => ?_⟩
    have := ih hrest t ht
    omega

theorem not_mem (h : InOrder last next (s :: ss)) : s ∉ ss := by
  intro hmem
  obtain ⟨-, h2, h3, hrest⟩ := h
  have := hrest.le_headingLine s hmem
  omega

theorem of_pairwise (hss : ∀ s ∈ ss, s.headingLine < s.firstItem ∧ s.firstItem < s.endLine ∧ s.endLine ≤ last)
    (hapart : ss.Pairwise fun s t => s.endLine ≤ t.headingLine) (hnext : next ≤ last)
    (hle : ∀ s ∈ ss, next ≤ s.headingLine) : InOrder last next ss := by
  induction ss generalizing next with
  | nil => exact hnext
  | cons s rest ih =>
    rw [List.forall_mem_cons] at hss hle
    rw [List.pairwise_cons] at hapart
    exact ⟨hle.1, hss.1.1, hss.1.2.1, ih hss.2 hapart.2 hss.1.2.2 hapart.1⟩

end InOrder

def linesOf (text : String) : List String := (splitOn '\n' text.toList).map String.ofList

theorem replaced_inOrder (body : String) : InOrder (linesOf body).length 0 (replaced body) := by
  have hsub : (replaced body).Sublist (detect body) := withOwnAnchor_sublist [] _
  refine .of_pairwise (fun s hs => ?_) ((detect_apart body).sublist hsub) (Nat.zero_le _) fun s _ => Nat.zero_le _
  have hsection := mem_detect_iff.1 (hsub.mem hs)
  obtain ⟨hlt, ⟨hafter, -⟩, -⟩ := hsection.isLeast_firstItem
  have hle := hsection.stopsAt.le
  rw [(lineKinds_fits body).length] at hle
  exact ⟨hafter, hlt, by rwa [linesOf, List.length_map]⟩

/-! ## Lines and the sections that they were generated for -/

/-- A line of a new body, with the line that it came from and the section that it was generated for, if it was. -/
structure MadeLine where
  line : OriginLine
  madeFor? : Option TaskSection

/-- A line stays when sections are replaced if it is not below the heading of any of them and before its end. -/
def Outside (ss : List TaskSection) (i : Nat) : Prop := ∀ s ∈ ss, ¬ (s.headingLine < i ∧ i < s.endLine)

instance (ss : List TaskSection) (i : Nat) : Decidable (Outside ss i) :=
  inferInstanceAs (Decidable (∀ s ∈ ss, ¬ (s.headingLine < i ∧ i < s.endLine)))

/-- Whether the lines that replace a section end with a blank one: more lines follow, or the body ends with a line feed. -/
def blankAfter (lines : List String) (s : TaskSection) : Bool :=
  s.endLine < lines.length || lines.getLast?.any (·.isEmpty)

/-- The new lines from a line of the body on, as they are made. -/
def made (lines : List String) : Nat → List TaskSection → List MadeLine
  | next, [] => (kept lines next lines.length).map (⟨·, none⟩)
  | next, s :: rest =>
    (kept lines next (s.headingLine + 1)).map (⟨·, none⟩) ++ (s.generated (blankAfter lines s)).map (⟨·, some s⟩) ++
      made lines s.endLine rest

section
variable {lines : List String} {next first last : Nat} {ss : List TaskSection} {s : TaskSection} {l : OriginLine}

theorem map_line_made (lines : List String) (next : Nat) (ss : List TaskSection) :
    (made lines next ss).map (·.line) = spliced lines next ss := by
  induction ss generalizing next with
  | nil => simp [made, spliced, Function.comp_def]
  | cons s rest ih =>
    rw [made, spliced, List.map_append, List.map_append, ih]
    simp [Function.comp_def, blankAfter]

/-! ## Kept lines -/

theorem origin_of_mem_kept (h : l ∈ kept lines first last) :
    first ≤ l.origin ∧ l.origin < last ∧ l.origin < lines.length := by
  obtain ⟨k, hk⟩ := List.mem_iff_getElem?.1 h
  rw [getElem?_kept] at hk
  split_ifs at hk with hlt
  obtain ⟨text, htext, rfl⟩ := Option.map_eq_some_iff.1 hk
  exact ⟨Nat.le_add_right _ _, hlt, (List.getElem?_eq_some_iff.1 htext).1⟩

theorem length_kept (h : last ≤ lines.length) : (kept lines first last).length = last - first := by
  rw [kept, List.length_map, List.length_drop, List.length_take, List.length_zipIdx, Nat.min_eq_left h]

theorem kept_append (middle : Nat) (h1 : first ≤ middle) (h2 : middle ≤ last) (h : last ≤ lines.length) :
    kept lines first last = kept lines first middle ++ kept lines middle last := by
  refine List.ext_getElem? fun k => ?_
  rw [List.getElem?_append, length_kept (h2.trans h), getElem?_kept, getElem?_kept, getElem?_kept]
  split_ifs with hlast hmiddle <;> first | rfl | omega | skip
  rw [show middle + (k - (middle - first)) = first + k by omega]

/-- Lines up to a heading and lines from the end of its section on are outside of it, and those between are not. -/
theorem filter_outside_kept (h : InOrder lines.length next (s :: ss)) :
    (kept lines next lines.length).filter (fun l => Outside (s :: ss) l.origin) =
      kept lines next (s.headingLine + 1) ++ (kept lines s.endLine lines.length).filter fun l => Outside ss l.origin := by
  obtain ⟨h1, h2, h3, hrest⟩ := h
  have hlast := hrest.le
  have hlater := hrest.le_headingLine
  have hbelow : kept lines (s.headingLine + 1) lines.length =
      kept lines (s.headingLine + 1) s.endLine ++ kept lines s.endLine lines.length :=
    kept_append s.endLine (by omega) hlast le_rfl
  rw [kept_append (s.headingLine + 1) (by omega) (by omega) le_rfl, hbelow, List.filter_append, List.filter_append,
    List.filter_eq_self.2, List.filter_eq_nil_iff.2, List.nil_append]
  · refine congrArg _ (List.filter_congr fun l hl => ?_)
    have hl := origin_of_mem_kept hl
    exact decide_eq_decide.2 (List.forall_mem_cons.trans (and_iff_right (by omega)))
  · intro l hl
    have hl := origin_of_mem_kept hl
    simp only [Outside, List.forall_mem_cons, decide_eq_true_eq, not_and]
    omega
  · intro l hl
    have hl := origin_of_mem_kept hl
    simp only [Outside, List.forall_mem_cons, decide_eq_true_eq]
    refine ⟨by omega, fun t ht => ?_⟩
    have := hlater t ht
    omega

/-- **Without generated lines** the new lines are the lines outside of sections, each with its own number. -/
theorem filter_none_made (h : InOrder lines.length next ss) :
    ((made lines next ss).filter (·.madeFor?.isNone)).map (·.line) =
      (kept lines next lines.length).filter fun l => Outside ss l.origin := by
  induction ss generalizing next with
  | nil => simp [made, Outside, List.filter_map, Function.comp_def]
  | cons s rest ih =>
    rw [filter_outside_kept h, ← ih h.2.2.2, made]
    simp [List.filter_map, Function.comp_def]

/-! ## Generated lines -/

/-- Generated lines come from the heading of their section or from a line before its end, in order. -/
theorem origin_of_mem_generated (blankAtEnd : Bool) (h1 : s.headingLine < s.firstItem) (h2 : s.firstItem < s.endLine) :
    (∀ l ∈ s.generated blankAtEnd, s.headingLine ≤ l.origin ∧ l.origin < s.endLine) ∧
    (s.generated blankAtEnd).Pairwise fun l m => l.origin ≤ m.origin := by
  have hblock : ∀ l ∈ ("```lvt" :: template s.sourceName ++ ["```"]).map (OriginLine.mk · s.firstItem),
      l.origin = s.firstItem := by
    simp only [List.forall_mem_map, implies_true]
  have hend : ∀ l ∈ (if blankAtEnd then [⟨"", s.endLine - 1⟩] else [] : List OriginLine), l.origin = s.endLine - 1 := by
    cases blankAtEnd <;> simp
  unfold generated
  constructor
  · intro l hl
    rcases List.mem_append.1 hl with hl | hl
    · rcases List.mem_cons.1 hl with rfl | hl
      · exact ⟨le_rfl, h1.trans h2⟩
      · rw [hblock l hl]
        exact ⟨h1.le, h2⟩
    · rw [hend l hl]
      omega
  · refine List.pairwise_append.2 ⟨List.pairwise_cons.2 ⟨fun l hl => ?_, ?_⟩, ?_, fun l hl m hm => ?_⟩
    · rw [hblock l hl]
      exact h1.le
    · exact List.pairwise_of_forall_mem_list fun l hl m hm => by rw [hblock l hl, hblock m hm]
    · exact List.pairwise_of_forall_mem_list fun l hl m hm => by rw [hend l hl, hend m hm]
    · rw [hend m hm]
      rcases List.mem_cons.1 hl with rfl | hl
      · exact Nat.le_pred_of_lt (h1.trans h2)
      · rw [hblock l hl]
        omega

theorem section_of_mem_made (h : InOrder lines.length next ss) {m : MadeLine} (hm : m ∈ made lines next ss)
    (hs : m.madeFor? = some s) : s ∈ ss ∧ s.headingLine ≤ m.line.origin ∧ m.line.origin < s.endLine := by
  induction ss generalizing next with
  | nil =>
    obtain ⟨l, -, rfl⟩ := List.mem_map.1 hm
    cases hs
  | cons t rest ih =>
    obtain ⟨h1, h2, h3, hrest⟩ := h
    rw [made, List.mem_append, List.mem_append] at hm
    rcases hm with (hm | hm) | hm
    · obtain ⟨l, -, rfl⟩ := List.mem_map.1 hm
      cases hs
    · obtain ⟨l, hl, rfl⟩ := List.mem_map.1 hm
      obtain rfl := Option.some.inj hs
      exact ⟨List.mem_cons_self, (origin_of_mem_generated _ h2 h3).1 l hl⟩
    · obtain ⟨hmem, hrange⟩ := ih hrest hm
      exact ⟨List.mem_cons_of_mem _ hmem, hrange⟩

/-- The lines that are generated for a section are its block, once. -/
theorem filter_some_made (h : InOrder lines.length next ss) (hs : s ∈ ss) :
    ((made lines next ss).filter (·.madeFor? = some s)).map (·.line) = s.generated (blankAfter lines s) := by
  induction ss generalizing next with
  | nil => cases hs
  | cons t rest ih =>
    have hrest := h.2.2.2
    rw [made]
    by_cases heq : t = s
    · subst heq
      have hno : (made lines t.endLine rest).filter (·.madeFor? = some t) = [] := by
        refine List.filter_eq_nil_iff.2 fun m hm heq => h.not_mem ?_
        exact (section_of_mem_made hrest hm (by simpa using heq)).1
      simp [List.filter_map, Function.comp_def, hno]
    · rw [← ih hrest ((List.mem_cons.1 hs).resolve_left (Ne.symm heq))]
      simp [List.filter_map, Function.comp_def, heq]

/-! ## Numbers -/

/-- **Numbers of new lines never fall**, and are those of lines of the body. -/
theorem origins_spliced (h : InOrder lines.length next ss) :
    (∀ l ∈ spliced lines next ss, next ≤ l.origin ∧ l.origin < lines.length) ∧
    (spliced lines next ss).Pairwise fun l m => l.origin ≤ m.origin := by
  have hkept (first last : Nat) : (kept lines first last).Pairwise fun l m => l.origin ≤ m.origin := by
    refine List.pairwise_iff_getElem.2 fun i j hi hj hij => ?_
    have hget {k : Nat} (hk : k < (kept lines first last).length) : (kept lines first last)[k].origin = first + k := by
      have h := List.getElem?_eq_getElem hk
      rw [getElem?_kept] at h
      split_ifs at h
      obtain ⟨text, -, htext⟩ := Option.map_eq_some_iff.1 h
      rw [← htext]
    rw [hget hi, hget hj]
    omega
  -- Section by section: what comes before a section is numbered up to its heading, what comes later from its end on.
  induction ss generalizing next with
  | nil =>
    refine ⟨fun l hl => ?_, hkept _ _⟩
    have := origin_of_mem_kept hl
    omega
  | cons s rest ih =>
    obtain ⟨h1, h2, h3, hrest⟩ := h
    obtain ⟨hlater, hsorted⟩ := ih hrest
    obtain ⟨hrange, hgenerated⟩ := origin_of_mem_generated (blankAfter lines s) h2 h3
    have hlast := hrest.le
    rw [spliced]
    constructor
    · intro l hl
      rw [List.mem_append, List.mem_append] at hl
      rcases hl with (hl | hl) | hl
      · have := origin_of_mem_kept hl
        omega
      · have := hrange l hl
        omega
      · have := hlater l hl
        omega
    · refine List.pairwise_append.2 ⟨List.pairwise_append.2 ⟨hkept _ _, hgenerated, fun l hl m hm => ?_⟩, hsorted,
        fun l hl m hm => ?_⟩
      · have := origin_of_mem_kept hl
        have := hrange m hm
        omega
      · have := hlater m hm
        rcases List.mem_append.1 hl with hl | hl
        · have := origin_of_mem_kept hl
          omega
        · have := hrange l hl
          omega

/-! ## The last line -/

theorem getLast?_kept (h : next < lines.length) : (kept lines next lines.length).getLast?.map (·.text) = lines.getLast? := by
  rw [List.getLast?_eq_getElem?, List.getLast?_eq_getElem?, length_kept le_rfl, getElem?_kept, if_pos (by omega),
    Option.map_map, show next + (lines.length - next - 1) = lines.length - 1 by omega]
  simp [Function.comp_def]

/-- The last line of a block is its closing fence, or the blank line after it. -/
theorem getLast?_generated (s : TaskSection) (blankAtEnd : Bool) :
    (s.generated blankAtEnd).getLast?.map (·.text) = some (if blankAtEnd then "" else "```") := by
  rw [generated, List.map_append, List.map_singleton, ← List.cons_append]
  cases blankAtEnd with
  | false =>
    simp only [Bool.false_eq_true, if_false, List.append_nil]
    rw [List.getLast?_concat]
    rfl
  | true =>
    simp only [if_true]
    rw [List.getLast?_concat]
    rfl

/-- The last new line is empty if the last line of the body is. -/
theorem getLast?_spliced (h : InOrder lines.length next ss) (hnext : ss ≠ [] ∨ next < lines.length) :
    (spliced lines next ss).getLast?.map (·.text) = some "" ↔ lines.getLast? = some "" := by
  induction ss generalizing next with
  | nil => rw [spliced, getLast?_kept (hnext.resolve_left (absurd rfl))]
  | cons s rest ih =>
    have hrest := h.2.2.2
    have hlast := hrest.le
    rw [spliced, List.getLast?_append]
    by_cases hmore : rest ≠ [] ∨ s.endLine < lines.length
    · rw [← ih hrest hmore]
      have hsome : (spliced lines s.endLine rest).getLast?.isSome = true := by
        rw [List.getLast?_isSome]
        intro hnil
        have := congrArg List.length hnil
        cases rest with
        | nil =>
          have hmore := hmore.resolve_left (absurd rfl)
          rw [spliced, length_kept le_rfl, List.length_nil] at this
          omega
        | cons t rest => simp [spliced, generated] at this
      rw [Option.or_of_isSome hsome]
    · -- The body ends with this section, and so does the new one with its block.
      rw [not_or, not_not, not_lt] at hmore
      obtain ⟨rfl, hle⟩ := hmore
      have hend : (spliced lines s.endLine []).getLast? = none := by
        rw [spliced, List.getLast?_eq_none_iff, ← List.length_eq_zero_iff, length_kept le_rfl]
        omega
      have hblank : blankAfter lines s = lines.getLast?.any (·.isEmpty) := by simp [blankAfter, hle]
      rw [hend, Option.none_or, List.getLast?_append, Option.or_of_isSome (by simp [generated])]
      change (s.generated (blankAfter lines s)).getLast?.map (·.text) = some "" ↔ _
      rw [getLast?_generated, hblank]
      cases hb : lines.getLast? with
      | none => simp
      | some text => cases htext : text.isEmpty <;> simp_all

end

/-! ## Sections and sources -/

/-- The sections that are replaced: they have an anchor, and no section before them has it. -/
theorem mem_withOwnAnchor_iff {taken : List String} {l : List TaskSection} {s : TaskSection} :
    s ∈ withOwnAnchor taken l ↔
      ∃ before after, l = before ++ s :: after ∧ s.anchor ≠ "" ∧ s.anchor ∉ taken ∧ ∀ t ∈ before, t.anchor ≠ s.anchor := by
  induction l generalizing taken with
  | nil => simp [withOwnAnchor]
  | cons a l ih =>
    rw [withOwnAnchor]
    split_ifs with hskip
    · simp only [Bool.or_eq_true, String.isEmpty_iff, List.contains_iff_mem] at hskip
      -- A section that is passed over has no anchor or one that is taken, so a later one that is kept has another.
      rw [ih]
      constructor
      · rintro ⟨before, after, rfl, hne, hfree, hbefore⟩
        refine ⟨a :: before, after, rfl, hne, hfree, List.forall_mem_cons.2 ⟨fun heq => ?_, hbefore⟩⟩
        exact hskip.elim (heq ▸ hne) (heq ▸ hfree)
      · rintro ⟨before, after, heq, hne, hfree, hbefore⟩
        cases before with
        | nil =>
          obtain ⟨rfl, -⟩ := List.cons.inj heq
          exact absurd hskip (not_or.2 ⟨hne, hfree⟩)
        | cons b before =>
          obtain ⟨rfl, rfl⟩ := List.cons.inj heq
          exact ⟨before, after, rfl, hne, hfree, (List.forall_mem_cons.1 hbefore).2⟩
    · simp only [Bool.or_eq_true, String.isEmpty_iff, List.contains_iff_mem, not_or] at hskip
      rw [List.mem_cons, ih]
      constructor
      · rintro (rfl | ⟨before, after, rfl, hne, hfree, hbefore⟩)
        · exact ⟨[], l, rfl, hskip.1, hskip.2, by simp⟩
        · rw [List.mem_cons, not_or] at hfree
          exact ⟨a :: before, after, rfl, hne, hfree.2, List.forall_mem_cons.2 ⟨Ne.symm hfree.1, hbefore⟩⟩
      · rintro ⟨before, after, heq, hne, hfree, hbefore⟩
        cases before with
        | nil => exact .inl (List.cons.inj heq).1.symm
        | cons b before =>
          obtain ⟨rfl, rfl⟩ := List.cons.inj heq
          rw [List.forall_mem_cons] at hbefore
          refine .inr ⟨before, after, rfl, hne, ?_, hbefore.2⟩
          exact List.not_mem_cons_of_ne_of_not_mem (Ne.symm hbefore.1) hfree

/-- Sources that are made for sections with anchors of their own are one for each of them. -/
theorem perm_foldl_insert {file : String} {ss : List TaskSection} {d : Dictionary SourceConfig}
    (hpair : ss.Pairwise (·.anchor ≠ ·.anchor)) (hnew : ∀ s ∈ ss, s.sourceName ∉ d.names) :
    (ss.foldl (fun d s => d.insert s.sourceName (.markdownSection file s.anchor)) d).Perm
      (ss.map (fun s => (s.sourceName, .markdownSection file s.anchor)) ++ d) := by
  induction ss generalizing d with
  | nil => exact .refl _
  | cons s rest ih =>
    rw [List.pairwise_cons] at hpair
    rw [List.forall_mem_cons] at hnew
    rw [List.foldl_cons, List.map_cons, List.cons_append]
    refine (ih hpair.2 fun t ht hmem => ?_).trans (((Dictionary.perm_insert hnew.1).append_left _).trans List.perm_middle)
    rcases Dictionary.mem_names_insert.1 hmem with heq | hmem
    · exact hpair.1 t ht (sourceName_inj.1 heq).symm
    · exact hnew.2 t ht hmem

/-! ## Line feeds at the end -/

/-- A text ends with a line feed if the last of its lines is empty, unless it is empty itself. -/
theorem getLast?_eq_newline_iff {cs : List Char} :
    cs.getLast? = some '\n' ↔ cs ≠ [] ∧ (splitOn '\n' cs).getLast? = some [] := by
  induction cs with
  | nil => simp
  | cons c cs ih =>
    by_cases hc : c = '\n'
    · subst hc
      obtain ⟨l, ls, hl⟩ := exists_splitOn cs
      rw [hl] at ih
      rw [splitOn_line]
      cases cs with
      | nil => simp [splitOn]
      | cons d ds =>
        rw [hl, List.getLast?_cons_cons, List.getLast?_cons_cons, ih]
        simp
    · obtain ⟨l', ls', hl', hcl⟩ := splitOn_cons hc cs
      rw [hl'] at ih
      rw [hcl]
      cases ls' with
      | nil =>
        -- Without a line feed the text is its only line.
        have hjoin : ['\n'].intercalate (splitOn '\n' cs) = cs := List.intercalate_splitOn '\n'
        obtain rfl : cs = l' := by simpa [hl'] using hjoin.symm
        cases cs with
        | nil => simp [hc]
        | cons d ds =>
          rw [List.getLast?_cons_cons, ih]
          simp
      | cons m ms =>
        have hne : cs ≠ [] := by
          rintro rfl
          simp [splitOn] at hl'
        obtain ⟨d, ds, rfl⟩ := List.exists_cons_of_ne_nil hne
        rw [List.getLast?_cons_cons, ih, List.getLast?_cons_cons, List.getLast?_cons_cons]
        simp

/-- A new body ends with a line feed if the body does. -/
theorem getLast?_newBody {body : String} (hreplaced : replaced body ≠ []) :
    ("\n".intercalate ((newLines body).map (·.text))).toList.getLast? = some '\n' ↔
      body.toList.getLast? = some '\n' := by
  have horder := replaced_inOrder body
  have hlast := getLast?_spliced horder (.inl hreplaced)
  have hnew : newLines body ≠ [] := by
    intro h
    cases hr : replaced body with
    | nil => exact hreplaced hr
    | cons s rest => simp [newLines, hr, spliced, generated] at h
  have hnonempty : ∀ {cs : List Char}, (splitOn '\n' cs).length ≠ 1 → cs ≠ [] := by
    rintro cs hlen rfl
    exact hlen rfl
  -- Neither text is empty: a body with a section has a heading and an item, and their lines.
  have hbody : body.toList ≠ [] := by
    refine hnonempty fun hlen => ?_
    cases hr : replaced body with
    | nil => exact hreplaced hr
    | cons s rest =>
      obtain ⟨-, h2, h3, hrest⟩ := hr ▸ horder
      have := hrest.le
      rw [linesOf, List.length_map, hlen] at this
      omega
  have hout : ("\n".intercalate ((newLines body).map (·.text))).toList ≠ [] := by
    refine hnonempty fun hlen => ?_
    rw [splitOn_newLines hnew, List.length_map] at hlen
    cases hr : replaced body with
    | nil => exact hreplaced hr
    | cons s rest => simp [newLines, hr, spliced, generated] at hlen; omega
  rw [getLast?_eq_newline_iff, getLast?_eq_newline_iff, and_iff_right hout, and_iff_right hbody, splitOn_newLines hnew]
  have hempty (ls : List (List Char)) : ls.getLast? = some [] ↔ (ls.map String.ofList).getLast? = some "" := by
    rw [List.getLast?_map]
    cases ls.getLast? <;> simp
  rw [hempty, hempty (splitOn '\n' body.toList), List.map_map]
  have htext : (String.ofList ∘ fun l : OriginLine => l.text.toList) = (·.text) := funext fun l => String.ofList_toList
  rw [htext, List.getLast?_map]
  exact hlast

/-- **Synthesis keeps everything else.** A new body is made of a block for each section that is replaced and of all lines
outside of these, each as it was and with its own number. There is one source for each section, and the new body ends
with a line feed if the body does. -/
theorem synthesize_keeps_rest {body file : String} {origins : List Nat}
    (h : (synthesize body file).origins = some origins) :
    (∀ s, s ∈ replaced body ↔
      ∃ before after, detect body = before ++ s :: after ∧ s.anchor ≠ "" ∧ ∀ t ∈ before, t.anchor ≠ s.anchor) ∧
    (linesOf (synthesize body file).body).length = origins.length ∧
    origins.Pairwise (· ≤ ·) ∧ (∀ i ∈ origins, i < (linesOf body).length) ∧
    (∃ lines : List MadeLine,
      lines.map (·.line.text) = linesOf (synthesize body file).body ∧ lines.map (·.line.origin) = origins ∧
      (lines.filter (·.madeFor?.isNone)).map (·.line) =
        ((linesOf body).zipIdx.filter fun l => Outside (replaced body) l.2).map (fun l => ⟨l.1, l.2⟩) ∧
      (∀ l ∈ lines, ∀ s, l.madeFor? = some s →
        s ∈ replaced body ∧ s.headingLine ≤ l.line.origin ∧ l.line.origin < s.endLine) ∧
      ∀ s ∈ replaced body,
        (lines.filter (·.madeFor? = some s)).map (·.line) = s.generated (blankAfter (linesOf body) s)) ∧
    (synthesize body file).sources.Perm
      ((replaced body).map fun s => (s.sourceName, .markdownSection file s.anchor)) ∧
    ((synthesize body file).body.toList.getLast? = some '\n' ↔ body.toList.getLast? = some '\n') := by
  rcases synthesize_cases body file with ⟨-, hnone⟩ | ⟨hnew, hbody, hsome⟩
  · rw [hnone] at h
    cases h
  rw [hsome, Option.some.injEq] at h
  subst h
  have hreplaced : replaced body ≠ [] := fun hnil => by simp [synthesize, hnil] at hsome
  have horder := replaced_inOrder body
  have hlines : linesOf (synthesize body file).body = (newLines body).map (·.text) := by
    rw [linesOf, hbody, splitOn_newLines hnew, List.map_map]
    exact List.map_congr_left fun l _ => String.ofList_toList
  have hmade {α : Type} (f : OriginLine → α) :
      (made (linesOf body) 0 (replaced body)).map (fun m => f m.line) = (newLines body).map f := by
    rw [newLines, ← linesOf, ← map_line_made, List.map_map]
    rfl
  obtain ⟨hrange, hsorted⟩ := origins_spliced horder
  refine ⟨fun s => ?_, ?_, ?_, ?_, ⟨made (linesOf body) 0 (replaced body), ?_, ?_, ?_, ?_, ?_⟩, ?_, ?_⟩
  · rw [replaced, mem_withOwnAnchor_iff]
    simp
  · rw [hlines, List.length_map, List.length_map]
  · exact List.pairwise_map.2 hsorted
  · exact List.forall_mem_map.2 fun l hl => (hrange l hl).2
  · rw [hlines]
    exact hmade (·.text)
  · exact hmade (·.origin)
  · rw [filter_none_made horder, kept, List.drop_zero, List.take_of_length_le (by simp), List.filter_map]
    rfl
  · exact fun m hm s hs => section_of_mem_made horder hm hs
  · exact fun s hs => filter_some_made horder hs
  · have hsources : (synthesize body file).sources =
        (replaced body).foldl
          (fun (d : Dictionary SourceConfig) s => d.insert s.sourceName (.markdownSection file s.anchor)) [] := by
      unfold synthesize
      cases hr : replaced body <;> rfl
    rw [hsources, ← List.append_nil (List.map _ _)]
    exact perm_foldl_insert (pairwise_withOwnAnchor [] (detect body)).1 fun s _ => List.not_mem_nil
  · rw [hbody]
    exact getLast?_newBody hreplaced

/-- The line of a heading, its block with a blank line after it, and the line that is left after the last line feed. -/
theorem openTask_keeps_rest :
    (synthesize "# A\n- [ ] a\n" "p.md").origins = some (0 :: 0 :: (List.replicate 14 1 ++ [2])) ∧
      (linesOf (synthesize "# A\n- [ ] a\n" "p.md").body).length = 17 ∧
      ((synthesize "# A\n- [ ] a\n" "p.md").body.toList.getLast? = some '\n' ↔
        "# A\n- [ ] a\n".toList.getLast? = some '\n') := by
  have horigins : (synthesize "# A\n- [ ] a\n" "p.md").origins = some (0 :: 0 :: (List.replicate 14 1 ++ [2])) := by
    decide +kernel
  obtain ⟨-, hlength, -, -, -, -, hend⟩ := synthesize_keeps_rest horigins
  exact ⟨horigins, hlength, hend⟩

end Synthesis

end LivePage
