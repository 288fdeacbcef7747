import LivePage.Proofs.Compile
import LivePage.Proofs.Frontmatter
import LivePage.Proofs.Task.Origin
/-!
# Where blocks and errors are in the file

A block has the line of the file that its fence came from, on the way through a header above the body and lines of the
body that were replaced. An error has the line of what it is about, and the range of that line.
-/
namespace LivePage

open Text Markdown LineKind

/-! ## Ranges of lines -/

/-- A byte range is that of a line of a text, counted from one, without the line feed and the carriage returns that end
it. -/
def Span.CoversLine (source : List Char) (number : Nat) (span : Span) : Prop :=
  ∃ before line lineEnd after, linesWithEnds source = before ++ (line ++ lineEnd) :: after ∧ number = before.length + 1 ∧
    (∀ c ∈ lineEnd, isLineEnd c = true) ∧ (∀ c ∈ line.getLast?, isLineEnd c = false) ∧
    span = ⟨byteLength before.flatten, byteLength before.flatten + byteLength line⟩

/-- The range of a line lies between characters of the text. -/
theorem Span.CoversLine.onBoundaries {source : List Char} {number : Nat} {span : Span} (h : span.CoversLine source number) :
    span.OnBoundaries source := by
  obtain ⟨before, line, lineEnd, after, hlines, -, -, -, rfl⟩ := h
  have hsource : source = before.flatten ++ (line ++ (lineEnd ++ after.flatten)) := by
    rw [← linesWithEnds_flatten source, hlines]
    simp
  exact ⟨Nat.le_add_right _ _, isBoundary_iff.2 ⟨_, _, hsource, rfl⟩,
    isBoundary_iff.2 ⟨before.flatten ++ line, _, by rw [hsource, List.append_assoc], byteLength_append _ _⟩⟩

theorem exists_coversLine {source : List Char} {number : Nat} (hpos : 0 < number)
    (hle : number ≤ (linesWithEnds source).length) :
    ∃ range, lineRange? source number = some range ∧ Span.CoversLine source number ⟨range.1, range.2⟩ := by
  obtain ⟨n, rfl⟩ := Nat.exists_eq_add_one_of_ne_zero (Nat.ne_of_gt hpos)
  have hlines : linesWithEnds source =
      (linesWithEnds source).take n ++ (linesWithEnds source)[n] :: (linesWithEnds source).drop (n + 1) := by
    rw [List.getElem_cons_drop, List.take_append_drop]
  have hlength : ((linesWithEnds source).take n).length = n := List.length_take_of_le (Nat.le_of_succ_le hle)
  have hrange := lineRange?_of_line hlines
  rw [hlength] at hrange
  refine ⟨_, hrange, (linesWithEnds source).take n, dropLineEnd (linesWithEnds source)[n],
    (linesWithEnds source)[n].rtakeWhile isLineEnd, (linesWithEnds source).drop (n + 1), ?_, by rw [hlength],
    fun c hc => List.mem_rtakeWhile_imp hc, fun c hc => ?_, rfl⟩
  · rwa [show dropLineEnd _ ++ _ = (linesWithEnds source)[n] from List.rdropWhile_append_rtakeWhile]
  · obtain ⟨hne, rfl⟩ := List.mem_getLast?_eq_getLast hc
    exact eq_false_of_ne_true (List.rdropWhile_last_not isLineEnd _ hne)

theorem CompileError.span_locatedIn {e : CompileError} {source : String} (hspan : e.span = none) (hpos : 0 < e.line)
    (hle : e.line ≤ (linesWithEnds source.toList).length) :
    ∃ span, e.locatedIn source = { e with span := some span } ∧ span.CoversLine source.toList e.line := by
  obtain ⟨range, hrange, hcovers⟩ := exists_coversLine hpos hle
  refine ⟨_, ?_, hcovers⟩
  simp only [locatedIn, hspan, hrange, Option.map_some]

namespace Extracted

variable {decode : String → Except DecodeFault Header} {source file : String} {options : CompileOptions} {x : Extracted}
  {s : TaskSection} {k first number : Nat} {l : OriginLine}

/-! ## Lines of the body that is read -/

/-- The sections that are replaced before a body is read. -/
def replacedSections (x : Extracted) (options : CompileOptions) : List TaskSection :=
  if options.autoTasks then Synthesis.replaced x.body else []

/-- The lines of the body that is read, each with the line of the body as written that it comes from. -/
def readLines (x : Extracted) (options : CompileOptions) : List OriginLine :=
  Synthesis.spliced ((splitOn '\n' x.body.toList).map String.ofList) 0 (x.replacedSections options)

/-- A line of the body that is read belongs to the code block that replaces a section. -/
def Generates (x : Extracted) (options : CompileOptions) (s : TaskSection) (k : Nat) : Prop :=
  s ∈ x.replacedSections options ∧ ∃ first, Synthesis.HasBlock (x.readLines options) s first ∧ first ≤ k ∧
    k < first + Synthesis.blockLength

/-- A body is read as it is written, or sections of it are replaced. -/
theorem synthesis_cases (x : Extracted) (file : String) (options : CompileOptions) :
    (x.replacedSections options = [] ∧ x.synthesis file options = { body := x.body }) ∨
      x.readLines options = Synthesis.newLines x.body ∧ Synthesis.newLines x.body ≠ [] ∧
        (x.synthesis file options).body = "\n".intercalate ((x.readLines options).map (·.text)) ∧
        (x.synthesis file options).origins = some ((x.readLines options).map (·.origin)) := by
  unfold readLines replacedSections synthesis
  split_ifs with hauto
  · by_cases hnone : Synthesis.replaced x.body = []
    · exact .inl ⟨hnone, by rw [synthesize, hnone]⟩
    · rcases Synthesis.synthesize_cases x.body file with ⟨-, horigins⟩ | ⟨hne, hbody, horigins⟩
      · obtain ⟨s, rest, hcons⟩ := List.exists_cons_of_ne_nil hnone
        rw [synthesize, hcons] at horigins
        cases horigins
      · exact .inr ⟨rfl, hne, hbody, horigins⟩
  · exact .inl ⟨rfl, rfl⟩

/-- A body that is read as it is written has its own lines, each from its own number. -/
theorem getElem?_readLines (h : x.replacedSections options = []) (k : Nat) :
    (x.readLines options)[k]? = ((splitOn '\n' x.body.toList)[k]?).map fun line => ⟨String.ofList line, k⟩ := by
  rw [readLines, h, Synthesis.spliced, Synthesis.kept, List.drop_zero, List.take_of_length_le (by simp), List.getElem?_map,
    List.getElem?_zipIdx, List.getElem?_map]
  cases (splitOn '\n' x.body.toList)[k]? <;> simp

/-- The lines are those of the body that is read. -/
theorem splitOn_readLines (x : Extracted) (file : String) (options : CompileOptions) :
    splitOn '\n' (x.synthesis file options).body.toList = (x.readLines options).map (·.text.toList) := by
  rcases x.synthesis_cases file options with ⟨hnone, hs⟩ | ⟨hlines, hne, hbody, -⟩
  · refine List.ext_getElem? fun k => ?_
    rw [hs, List.getElem?_map, getElem?_readLines hnone, Option.map_map]
    cases (splitOn '\n' x.body.toList)[k]? <;> simp
  · rw [hbody, hlines]
    exact Synthesis.splitOn_newLines hne

/-- The line map gives the number of the line that a line comes from. -/
theorem lineOf_readLines {offset : Nat}
    (h : (x.readLines options)[lineIndex (lineStarts (x.synthesis file options).body.toList) offset]? = some l) :
    ((x.synthesis file options).lineMap x.bodyLine).lineOf offset = x.bodyLine + l.origin := by
  rcases x.synthesis_cases file options with ⟨hnone, hs⟩ | ⟨-, -, -, horigins⟩
  · rw [getElem?_readLines hnone, Option.map_eq_some_iff] at h
    obtain ⟨line, -, rfl⟩ := h
    rw [hs]
    rfl
  · rw [Synthesis.lineMap, horigins]
    change x.bodyLine + (((x.readLines options).map (·.origin))[lineIndex (lineStarts _) _]?.or _).getD 0 = _
    rw [List.getElem?_map, h]
    rfl

/-! ## Lines of the file -/

/-- The lines of a body are lines of the file. -/
theorem getElem?_source (hx : extractWith decode source = .ok x) (hbody : x.body ≠ "") (i : Nat) :
    (linesWithEnds source.toList)[x.bodyLine + i - 1]? = (linesWithEnds x.body.toList)[i]? := by
  have hpos := bodyLine_pos hx
  rw [← linesWithEnds_body hx hbody, List.getElem?_drop, show x.bodyLine + i - 1 = x.bodyLine - 1 + i by omega]

/-- The first item of a section is on the first of its task lines, which is a line of the body. -/
theorem firstItem_of_replaced (h : s ∈ x.replacedSections options) :
    (taskLines (lineKinds x.body) s.headingLine).head? = some s.firstItem ∧
      ∃ line, (linesWithEnds x.body.toList)[s.firstItem]? = some line := by
  have hreplaced : s ∈ Synthesis.replaced x.body := by
    unfold replacedSections at h
    split_ifs at h
    · exact h
    · cases h
  have hs := TaskSection.mem_detect_iff.1 (TaskSection.mem_of_mem_withOwnAnchor hreplaced).1
  have hhead := hs.head?_taskLines
  have htask := (mem_taskLines_iff.1 (List.mem_of_mem_head? hhead)).2.1
  have hlt := (List.getElem?_eq_some_iff.1 ((EditableText.kinds_eq_task_iff x.body _).2 htask)).1
  exact ⟨hhead, _, List.getElem?_eq_getElem (hlt.trans_le (EditableText.length_kinds x.body))⟩

/-- A line holds a fence. -/
def HoldsFence (line : List Char) : Prop := "```".toList <:+: dropLineEnd line ∨ "~~~".toList <:+: dropLineEnd line

/-- Where the fence comes from that opens on a line of the body that is read: the number of a line of the file. A line
that is generated has the number of the section's first item, every other one is the line that it comes from. -/
structure FenceFrom (x : Extracted) (source file : String) (options : CompileOptions) (k number : Nat) : Prop where
  pos : 0 < number
  le : number ≤ (linesWithEnds source.toList).length
  written : (∀ s, ¬ x.Generates options s k) → ∃ i line fence,
    (x.readLines options)[k]?.map (·.origin) = some i ∧ number = x.bodyLine + i ∧
    (linesWithEnds (x.synthesis file options).body.toList)[k]? = some line ∧
    (linesWithEnds source.toList)[number - 1]? = some fence ∧ dropLineEnd fence = dropLineEnd line ∧ HoldsFence fence
  generated : ∀ s, x.Generates options s k → number = x.bodyLine + s.firstItem ∧
    (taskLines (lineKinds x.body) s.headingLine).head? = some s.firstItem ∧
    (linesWithEnds source.toList)[number - 1]? = (linesWithEnds x.body.toList)[s.firstItem]?

/-- The events that open fenced blocks start on lines that hold fences. -/
def FencesInPlace (x : Extracted) (file : String) (options : CompileOptions) : Prop :=
  let body := (x.synthesis file options).body
  ∀ e ∈ events body, ∀ text, e.event = .start (.codeBlock (some text)) →
    ∃ line, (linesWithEnds body.toList)[lineIndex (lineStarts body.toList) e.span.start]? = some line ∧ HoldsFence line

/-- **Fences come from where the line map says.** -/
theorem fenceFrom {k offset : Nat} {line : List Char} (hx : extractWith decode source = .ok x)
    (hk : lineIndex (lineStarts (x.synthesis file options).body.toList) offset = k)
    (hline : (linesWithEnds (x.synthesis file options).body.toList)[k]? = some line) (hfence : HoldsFence line) :
    x.FenceFrom source file options k (((x.synthesis file options).lineMap x.bodyLine).lineOf offset) := by
  have hne : dropLineEnd line ≠ [] := by
    intro h
    rw [HoldsFence, h] at hfence
    simp at hfence
  -- The line is one of those that were put together.
  have hdrop := dropLineEnd_linesWithEnds (x.synthesis file options).body.toList k
  rw [List.getD_eq_getElem?_getD, hline, splitOn_readLines, List.getD_eq_getElem?_getD, List.getElem?_map,
    Option.getD_some] at hdrop
  obtain ⟨l, hl⟩ : ∃ l, (x.readLines options)[k]? = some l := by
    cases h : (x.readLines options)[k]? with
    | some l => exact ⟨l, rfl⟩
    | none => rw [hdrop, h] at hne; exact absurd rfl hne
  rw [hl, Option.map_some, Option.getD_some] at hdrop
  rw [lineOf_readLines (hk ▸ hl)]
  have hpos := bodyLine_pos hx
  -- A line of the body as written with the number that it comes from.
  have hbelow {line : List Char} (h : (linesWithEnds x.body.toList)[l.origin]? = some line) :
      (linesWithEnds source.toList)[x.bodyLine + l.origin - 1]? = some line ∧
        x.bodyLine + l.origin ≤ (linesWithEnds source.toList).length := by
    have hbody : x.body ≠ "" := by
      intro hempty
      rw [hempty] at h
      cases h
    rw [← getElem?_source hx hbody] at h
    have := (List.getElem?_eq_some_iff.1 h).1
    exact ⟨h, by omega⟩
  by_cases hgenerated : ∃ s, x.Generates options s k
  · have hitem (s : TaskSection) (h : x.Generates options s k) : l.origin = s.firstItem := by
      obtain ⟨-, first, hblock, hle, hlt⟩ := h
      obtain ⟨text, hget⟩ := hblock.origin hle hlt
      rw [hl, Option.some.injEq] at hget
      rw [hget]
    obtain ⟨s, hs⟩ := hgenerated
    obtain ⟨-, item, hline⟩ := firstItem_of_replaced hs.1
    rw [← hitem s hs] at hline
    obtain ⟨hsource, hle⟩ := hbelow hline
    refine ⟨by omega, hle, fun hno => absurd hs (hno s), fun t ht => ⟨by rw [hitem t ht], (firstItem_of_replaced ht.1).1, ?_⟩⟩
    rw [hsource, ← hitem t ht, hline]
  · rw [not_exists] at hgenerated
    have hkept : ((splitOn '\n' x.body.toList).map String.ofList)[l.origin]? = some l.text := by
      rcases Synthesis.spliced_cases hl with hkept | hempty | ⟨s, hs, first, hblock, hin⟩
      · exact hkept
      · rw [hempty] at hdrop
        exact absurd hdrop hne
      · exact absurd ⟨hs, first, hblock, hin⟩ (hgenerated s)
    have hpiece : (splitOn '\n' x.body.toList).getD l.origin [] = l.text.toList := by
      rw [List.getElem?_map] at hkept
      obtain ⟨piece, hpiece, htext⟩ := Option.map_eq_some_iff.1 hkept
      rw [List.getD_eq_getElem?_getD, hpiece, ← htext, String.toList_ofList, Option.getD_some]
    rw [hdrop, ← hpiece] at hne
    obtain ⟨fence, hwritten, heq⟩ := getElem?_linesWithEnds hne
    rw [hpiece, ← hdrop] at heq
    obtain ⟨hsource, hle⟩ := hbelow hwritten
    refine ⟨by omega, hle, fun _ => ⟨l.origin, line, fence, by rw [hl]; rfl, rfl, hline, hsource, heq, ?_⟩,
      fun s hs => absurd hs (hgenerated s)⟩
    rwa [HoldsFence, heq]

/-! ## Errors -/

/-- An error is about the block whose fence the event at a place opens: one of a kind that does not exist, or one that
does not resolve among the blocks of the page. -/
def IsAbout (x : Extracted) (file : String) (options : CompileOptions) (e : CompileError) (place : Nat) : Prop :=
  let s := x.synthesis file options
  let lines := s.lineMap x.bodyLine
  (∃ text p u, OpensFence (events s.body) place text p ∧ InfoString.parse text = .error u ∧
    e = { u.toError file e.line with span := e.span }) ∨
  ∃ collected i cb fault, collectBlocks lines (events s.body) = .ok collected ∧ collected[i]? = some cb ∧
    cb.eventIndex = place ∧
    let sources := mergeSources x.frontmatter.sources s.sources
    BlockSet.build collected sources = .error (fault, e.line) ∧
    (BlockSet.RepeatsId collected i fault e.line ∨ ¬ BlockSet.BoundAt sources collected i) ∧
    e = { fault.toError file e.line with span := e.span }

/-- What ends the compilation of a body is about a block, and has no range yet. -/
theorem exists_isAbout {e : CompileError} (h : compileExtracted x file options = .error (.error e)) :
    e.span = none ∧ ∃ place text p, OpensFence (events (x.synthesis file options).body) place text p ∧
      e.line = ((x.synthesis file options).lineMap x.bodyLine).lineOf p.span.start ∧
      ∀ span, x.IsAbout file options { e with span } place := by
  rcases compileExtracted_eq_error h with ⟨u, line, hcollect, rfl⟩ | ⟨collected, fault, line, hcollect, hbuild, rfl⟩
  · obtain ⟨place, text, p, hopens, hparse, rfl⟩ := opensFence_of_collectFrom_error hcollect
    exact ⟨rfl, place, text, p, hopens, rfl, fun span => .inl ⟨text, p, u, hopens, hparse, rfl⟩⟩
  · obtain ⟨i, hfault, cb, hcb, rfl⟩ := BlockSet.exists_of_build_error hbuild
    obtain ⟨place, text, p, hopens, hi, hline⟩ := opensFence_of_collectFrom hcollect cb (List.mem_of_getElem? hcb)
    rw [Nat.zero_add] at hi
    exact ⟨rfl, place, text, p, hopens, hline,
      fun span => .inr ⟨collected, i, cb, fault, hcollect, hcb, hi, hbuild, hfault, rfl⟩⟩

end Extracted

/-! ## Compilations -/

section
variable {decode : String → Except DecodeFault Header} {source file : String} {options : CompileOptions}

/-- The fence that an event opens comes from the line of the file that the line map gives. -/
theorem OpensFence.fenceFrom {x : Extracted} (hx : extractWith decode source = .ok x) (hfences : x.FencesInPlace file options)
    {place : Nat} {text : String} {p : PlacedEvent} (h : OpensFence (events (x.synthesis file options).body) place text p) :
    x.FenceFrom source file options (lineIndex (lineStarts (x.synthesis file options).body.toList) p.span.start)
      (((x.synthesis file options).lineMap x.bodyLine).lineOf p.span.start) := by
  obtain ⟨line, hline, hfence⟩ := hfences p (List.mem_of_getElem? h.1) text h.2
  exact Extracted.fenceFrom hx rfl hline hfence

/-- **Where the blocks of a page are.** They are the ones that the events of its body declare, and each has the line of
the file that its fence comes from. -/
theorem blocks_fenceFrom {x : Extracted} {c : Compiled} (hx : extractWith decode source = .ok x)
    (hfences : x.FencesInPlace file options) (h : compileExtracted x file options = .ok c) :
    List.Forall₂ (fun d b => d.2.type = some b.type ∧ ∃ text p, OpensFence (events c.page.markdown) d.1 text p ∧
        x.FenceFrom source file options (lineIndex (lineStarts c.page.markdown.toList) p.span.start) b.line)
      (declared 0 false ((events c.page.markdown).map (·.event))) c.page.blockSet.blocks := by
  obtain ⟨collected, scan, hcollect, -, hbuild, -, hmarkdown, -⟩ := compileExtracted_eq_ok h
  have hdeclares := collectFrom_declared hcollect
  have hlength := hdeclares.length_eq
  rw [hmarkdown, (BlockSet.holds_of_build hbuild).blocks]
  refine List.forall₂_iff_get.2 ⟨by rw [length_resolved, hlength], fun j hd hb => ?_⟩
  have hj : j < collected.length := hlength ▸ hd
  obtain ⟨content, line, hblock⟩ := (List.forall₂_iff_get.1 hdeclares).2 j hd hj
  obtain ⟨htype, hi, -⟩ := toBlock?_eq_some hblock
  obtain ⟨place, text, p, hopens, hplace, hline⟩ := opensFence_of_collectFrom hcollect _ (List.get_mem collected ⟨j, hj⟩)
  rw [Nat.zero_add, hi] at hplace
  have hget : (CodeBlock.resolved collected).get ⟨j, hb⟩ =
      collected[j].resolve (collected[j].idAt j) (CodeBlock.lastServer (collected.take j)) :=
    Option.some.inj (by
      rw [List.get_eq_getElem, ← List.getElem?_eq_getElem hb, CodeBlock.getElem?_resolved, List.getElem?_eq_getElem hj]
      rfl)
  rw [hget, CodeBlock.type_resolve, CodeBlock.line_resolve]
  refine ⟨htype, text, p, hplace ▸ hopens, ?_⟩
  have hfrom := hopens.fenceFrom hx hfences
  rwa [← hline] at hfrom

/-- **Blocks and errors have lines of the file.** The blocks of a page are the ones that its body declares, each with
the line of the file that its fence comes from: the line that holds it if the author wrote it, and the line of the first
item if it replaces the items of a section. An error has a line of the file and exactly the range of that line; one that
is not about the header is about a block, and has the line that the block's fence comes from. For this a decoder has to
place its faults in the header, and events that open fenced blocks have to start on the lines of the fences. -/
theorem lines_from_file (hdecode : PlacesInside decode)
    (hfences : ∀ x, extractWith decode source = .ok x → x.FencesInPlace file options) :
    (∀ c, compileWith decode source file options = .ok c → ∃ x, extractWith decode source = .ok x ∧
      List.Forall₂ (fun d b => d.2.type = some b.type ∧ ∃ text p, OpensFence (events c.page.markdown) d.1 text p ∧
          x.FenceFrom source file options (lineIndex (lineStarts c.page.markdown.toList) p.span.start) b.line)
        (declared 0 false ((events c.page.markdown).map (·.event))) c.page.blockSet.blocks) ∧
    ∀ e, compileWith decode source file options = .error (.error e) →
      (0 < e.line ∧ e.line ≤ (linesWithEnds source.toList).length ∧
        ∃ span, e.span = some span ∧ span.CoversLine source.toList e.line ∧ span.OnBoundaries source.toList) ∧
      ((∃ fault, extractWith decode source = .error fault ∧ e.kind = .structural) ∨
        ∃ x, extractWith decode source = .ok x ∧ ∃ place text p,
          OpensFence (events (x.synthesis file options).body) place text p ∧ x.IsAbout file options e place ∧
          x.FenceFrom source file options (lineIndex (lineStarts (x.synthesis file options).body.toList) p.span.start)
            e.line) := by
  -- Errors are made without a range, and get that of their line at the end.
  have hlocated {e : CompileError} (hspan : e.span = none) (hpos : 0 < e.line)
      (hle : e.line ≤ (linesWithEnds source.toList).length) :
      ∃ span, e.locatedIn source = { e with span := some span } ∧ span.CoversLine source.toList e.line ∧
        span.OnBoundaries source.toList := by
    obtain ⟨span, heq, hcovers⟩ := e.span_locatedIn hspan hpos hle
    exact ⟨span, heq, hcovers, hcovers.onBoundaries⟩
  refine ⟨fun c h => ?_, fun e h => ?_⟩
  · obtain ⟨x, hx, hc⟩ := compileWith_eq_ok h
    exact ⟨x, hx, blocks_fenceFrom hx (hfences x hx) hc⟩
  · obtain ⟨found, rfl, ⟨fault, hfault, rfl⟩ | ⟨x, hx, hc⟩⟩ := compileWith_eq_error h
    · obtain ⟨hpos, hle⟩ := toError_line_le hdecode hfault file
      have hkind : (fault.toError file).kind = .structural ∧ (fault.toError file).span = none := by
        cases fault <;> exact ⟨rfl, rfl⟩
      obtain ⟨span, heq, hcovers⟩ := hlocated hkind.2 hpos hle
      rw [heq]
      exact ⟨⟨hpos, hle, span, rfl, hcovers⟩, .inl ⟨fault, hfault, hkind.1⟩⟩
    · obtain ⟨hspan, place, text, p, hopens, hline, habout⟩ := x.exists_isAbout hc
      have hfrom := hopens.fenceFrom hx (hfences x hx)
      rw [← hline] at hfrom
      obtain ⟨span, heq, hcovers⟩ := hlocated hspan hfrom.pos hfrom.le
      rw [heq]
      exact ⟨⟨hfrom.pos, hfrom.le, span, rfl, hcovers⟩, .inr ⟨x, hx, place, text, p, hopens, habout _, hfrom⟩⟩

end

/-- A decoder that finds fault with the first line of every header. -/
def faultFinder : String → Except DecodeFault Header := fun _ => .error ⟨"not a mapping", some (1, 1)⟩

/-- A document with a header that is no mapping. -/
def titleBelowDashes : String := "---\ntitle\r\n---\n"

/-- A document with a header of no lines and a server block. -/
def serverBelowHeader : String := "---\r\n---\r\n```go server\r\n```"

theorem events_serverBelowHeader : events "```go server\r\n```" =
    [⟨.start (.codeBlock (some "go server")), ⟨0, 17⟩⟩, ⟨.stop .codeBlock, ⟨0, 17⟩⟩] := by
  decide +kernel

theorem fencesInPlace_serverBelowHeader (x : Extracted) (hx : extractWith faultFinder serverBelowHeader = .ok x) :
    x.FencesInPlace "page.md" {} := by
  have hbody : (extractWith faultFinder serverBelowHeader).toOption.any (·.body = "```go server\r\n```") = true := by
    decide +kernel
  rw [hx] at hbody
  have hreplaced : Synthesis.replaced "```go server\r\n```" = [] := by decide +kernel
  have hread : x.synthesis "page.md" {} = { body := "```go server\r\n```" } := by
    rw [Extracted.synthesis, if_pos rfl, of_decide_eq_true hbody, synthesize, hreplaced]
  unfold Extracted.FencesInPlace
  rw [hread]
  dsimp only
  rw [events_serverBelowHeader]
  intro e he text htext
  rcases List.mem_cons.1 he with rfl | he
  · exact ⟨"```go server\r\n".toList, by decide +kernel, .inl (by decide +kernel)⟩
  · rw [List.mem_singleton.1 he] at htext
    cases htext

/-- The block is on the third line of the file, and a fault on the first line of a header on the second. -/
theorem serverBelowHeader_line :
    PlacesInside faultFinder ∧
    (∀ x, extractWith faultFinder serverBelowHeader = .ok x → x.FencesInPlace "page.md" {}) ∧
    (∃ (c : Compiled) (x : Extracted) (k : Nat), compileWith faultFinder serverBelowHeader "page.md" {} = .ok c ∧
      c.page.blockSet.blocks.map (·.line) = [3] ∧ x.FenceFrom serverBelowHeader "page.md" {} k 3) ∧
    ∃ e, compileWith faultFinder titleBelowDashes "page.md" {} = .error (.error e) ∧ e.line = 2 ∧
      ∃ span, e.span = some span ∧ span.CoversLine titleBelowDashes.toList 2 := by
  have hdecode : PlacesInside faultFinder := by
    intro header fault place h hplace
    obtain rfl := Except.error.inj h
    obtain rfl := Option.some.inj hplace
    exact ⟨Nat.le_refl 1, Nat.le_add_left _ _⟩
  have hfences := fencesInPlace_serverBelowHeader
  have hrun : (compileWith faultFinder serverBelowHeader "page.md" {}).toOption.any
      (·.page.blockSet.blocks.map (·.line) = [3]) = true := by
    decide +kernel
  have hfault : (compileError? (compileWith faultFinder titleBelowDashes "page.md" {})).any (·.line = 2) = true := by
    decide +kernel
  refine ⟨hdecode, hfences, ?_, ?_⟩
  · obtain ⟨c, hcompile, hc⟩ := exists_ok_of_any hrun
    have hlines : c.page.blockSet.blocks.map (·.line) = [3] := of_decide_eq_true hc
    obtain ⟨x, -, hblocks⟩ := (lines_from_file hdecode hfences).1 c hcompile
    obtain ⟨b, rest, hcons, hline, -⟩ := List.map_eq_cons_iff.1 hlines
    rw [hcons] at hblocks
    obtain ⟨d, ds, ⟨-, text, p, -, hfrom⟩, -, -⟩ := List.forall₂_cons_right_iff.1 hblocks
    exact ⟨c, x, _, hcompile, hlines, hline ▸ hfrom⟩
  · obtain ⟨e, hcompile, he⟩ := exists_error_of_any hfault
    have hline : e.line = 2 := of_decide_eq_true he
    have hx : ∀ x, extractWith faultFinder titleBelowDashes = .ok x → x.FencesInPlace "page.md" {} := by
      intro x hx
      have hno : (extractWith faultFinder titleBelowDashes).toOption.isSome = false := by decide +kernel
      rw [hx] at hno
      cases hno
    obtain ⟨⟨-, -, span, hspan, hcovers, -⟩, -⟩ := (lines_from_file hdecode hx).2 e hcompile
    exact ⟨e, hcompile, hline, span, hspan, hline ▸ hcovers⟩

end LivePage
