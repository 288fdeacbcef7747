import LivePage.Program
import LivePage.Proofs.Compile
import LivePage.Proofs.Frontmatter
import LivePage.Proofs.Task.Binding
import LivePage.Proofs.Task.Synthesis
/-!
# Where mentions stand in the file

A scan names texts of the body that is read, by a line of the file and a column. What it names stands there in the
file, for every line on the way from the file to the masked body is a line of the one before it: lines of the file
after the header, lines of the body as written, and lines of the body in which sections were replaced, where generated
lines are masked.
-/
namespace LivePage

open Text Markdown

/-- The text that is named stands in a file at the line and the column that are named with it. -/
def Mention.StandsIn (m : Mention) (source : List Char) : Prop :=
  ∃ span, tokenSpan? source m.line m.column m.raw.utf8ByteSize = some span ∧
    sliceBytes? source span.start span.length = some m.raw.toList

/-- A piece of a line stands in the file at the number of the line. -/
theorem PlacedWord.IsIn.standsIn {source line : List Char} {n : Nat} {w : PlacedWord}
    (hline : (linesWithEnds source)[n]? = some line) (hw : w.IsIn 0 (dropLineEnd line)) :
    (w.mention (n + 1)).StandsIn source := by
  obtain ⟨hlt, hget⟩ := List.getElem?_eq_some_iff.1 hline
  have hlines : linesWithEnds source = (linesWithEnds source).take n ++ line :: (linesWithEnds source).drop (n + 1) := by
    rw [← hget, List.getElem_cons_drop, List.take_append_drop]
  have hslice := hw.slice_line hlines
  refine ⟨⟨byteLength ((linesWithEnds source).take n).flatten + w.start,
    byteLength ((linesWithEnds source).take n).flatten + w.start + byteLength w.text⟩, ?_, ?_⟩
  · rw [w.utf8ByteSize_mention]
    simp [tokenSpan?, PlacedWord.mention, hslice]
  · rw [Span.length, Nat.add_sub_cancel_left, hslice, PlacedWord.mention, String.toList_ofList]

/-! ## Generated blocks -/

/-- Every code block that is generated for a body is one code block among the events of the new body, and its range
covers all lines of the block. -/
def Synthesis.BlocksAreCode (body file : String) : Prop :=
  let new := (synthesize body file).body
  ∀ s ∈ replaced body, ∀ first, HasBlock (newLines body) s first →
    ∃ span ∈ codeSpans false (events new), ∀ k, first ≤ k → k < first + blockLength →
      ∀ range, lineRange? new.toList (k + 1) = some range → span.start ≤ range.1 ∧ range.2 ≤ span.stop

/-- A piece of a line stands on a line of the body, which has a number in the file. -/
def Extracted.HasWord (x : Extracted) (w : PlacedWord) (number : Nat) : Prop :=
  ∃ i line, (linesWithEnds x.body.toList)[i]? = some line ∧ w.IsIn 0 (dropLineEnd line) ∧ number = x.bodyLine + i

section
variable {file : String} {ranges : List Span} {before after : List (List Char × List Char)}
  {p : List Char × List Char} {w : PlacedWord}

/-- Nothing is named on a line that lies in one of the masked ranges. -/
theorem PlacedWord.IsIn.not_covered {cs : List Char} (h : ∀ r ∈ ranges, r.OnBoundaries cs)
    (hp : linePairs ranges cs = before ++ p :: after) (hw : w.IsIn 0 (dropLineEnd p.1)) {r : Span} (hr : r ∈ ranges)
    {range : Nat × Nat} (hrange : lineRange? cs (before.length + 1) = some range) :
    ¬ (r.start ≤ range.1 ∧ range.2 ≤ r.stop) := by
  rintro ⟨hstart, hstop⟩
  obtain ⟨hmasks, hlines, hlen⟩ := stands_linePairs h hp
  have hthis := lineRange?_of_line hlines
  rw [List.length_map, hrange, Option.some.injEq] at hthis
  subst hthis
  rw [hlen] at hstart hstop
  have hblank := hmasks.dropLineEnd.isBlank_of_mem hr hstart hstop
  obtain ⟨⟨front, back, hdrop, -⟩, hne, hword⟩ := hw
  obtain ⟨c, hc⟩ := List.exists_mem_of_ne_nil _ hne
  have hthere := hblank c (by rw [hdrop]; simp [hc])
  rw [hword c hc] at hthere
  cases hthere

/-- **What is named stands on a line of the body as written**, and the line map gives the number of that line. -/
theorem hasWord_of_named {x : Extracted} {options : CompileOptions}
    (hevents : ∀ e ∈ events (x.synthesis file options).body, e.span.OnBoundaries (x.synthesis file options).body.toList)
    (hblocks : options.autoTasks = true → Synthesis.BlocksAreCode x.body file)
    (hp : linePairs (x.synthesis file options).skipRanges (x.synthesis file options).body.toList = before ++ p :: after)
    (hw : w.IsIn 0 (dropLineEnd p.1)) :
    x.HasWord w (((x.synthesis file options).lineMap x.bodyLine).lineOf (byteLength (before.map (·.1)).flatten)) := by
  have hranges : ∀ r ∈ (x.synthesis file options).skipRanges, r.OnBoundaries (x.synthesis file options).body.toList :=
    skipRanges_onBoundaries hevents
  obtain ⟨hmasks, hlines, hlen⟩ := stands_linePairs hranges hp
  have hindex := lineIndex_of_line hlines
  rw [hlen, List.length_map] at hindex
  have hread : w.IsIn 0 (dropLineEnd p.2) := hw.unmask hmasks.dropLineEnd
  have hline : (linesWithEnds (x.synthesis file options).body.toList)[before.length]? = some p.2 := by
    rw [hlines, List.getElem?_append_right (by simp)]
    simp
  -- A body without replaced sections is the body as written, and its lines keep their numbers.
  have hkept (horigins : (x.synthesis file options).origins = none) (hbody : (x.synthesis file options).body = x.body) :
      x.HasWord w (((x.synthesis file options).lineMap x.bodyLine).lineOf (byteLength (before.map (·.1)).flatten)) := by
    refine ⟨before.length, p.2, hbody ▸ hline, hread, ?_⟩
    rw [Synthesis.lineMap, horigins]
    change x.bodyLine + lineIndex (lineStarts _) _ = _
    rw [hindex]
  cases hauto : options.autoTasks with
  | false =>
    have hs : x.synthesis file options = { body := x.body } := by rw [Extracted.synthesis, hauto]; rfl
    exact hkept (by rw [hs]) (by rw [hs])
  | true =>
    have hs : x.synthesis file options = synthesize x.body file := by rw [Extracted.synthesis, if_pos hauto]
    rcases Synthesis.synthesize_cases x.body file with ⟨hbody, horigins⟩ | ⟨-, -, horigins⟩
    · exact hkept (hs ▸ horigins) (hs ▸ hbody)
    · rw [hs] at hline
      rcases Synthesis.origin_of_line horigins hline hread.ne_nil_of_line with
        ⟨i, line, hi, hget, heq⟩ | ⟨s, hsec, first, hblock, hk⟩
      · refine ⟨i, line, hget, heq ▸ hread, ?_⟩
        rw [Synthesis.lineMap, hs, horigins]
        change x.bodyLine + (_[lineIndex (lineStarts _) _]?.or _).getD 0 = _
        rw [← hs, hindex, hi]
        rfl
      · -- A generated line is masked from end to end, so nothing is named there.
        obtain ⟨span, hspan, hcovers⟩ := hblocks hauto s hsec first hblock
        rw [← hs] at hspan hcovers
        have hrange := lineRange?_of_line hlines
        rw [List.length_map] at hrange
        exact absurd (hcovers _ hk.1 hk.2 _ hrange) (hw.not_covered hranges hp (codeSpans_subset _ _ _ hspan) hrange)

end

/-! ## Compilations -/

variable {decode : String → Except DecodeFault Header} {source file : String} {options : CompileOptions} {c : Compiled}

/-- **All that a compilation names stands in the file**, at the line and the column that it gives: every token of a
schedule, every token of an imperative, and the text of every warning. The parser is trusted for two things: the ranges
of its events lie between characters, and each generated code block is one code block that covers its lines. -/
theorem mentions_stand (h : compileWith decode source file options = .ok c)
    (hevents : ∀ e ∈ events c.page.markdown, e.span.OnBoundaries c.page.markdown.toList)
    (hblocks : ∀ x, extractWith decode source = .ok x → options.autoTasks = true → Synthesis.BlocksAreCode x.body file) :
    ∀ m ∈ mentionsOf c.page.schedules c.page.imperatives c.warnings, m.StandsIn source.toList := by
  obtain ⟨x, hx, hc⟩ := compileWith_eq_ok h
  obtain ⟨collected, scan, -, hscan, -, -, hmarkdown, htokens, himperatives, hwarnings⟩ := compileExtracted_eq_ok hc
  intro m hm
  rw [hmarkdown] at hevents
  rw [htokens, himperatives, hwarnings] at hm
  unfold Synthesis.scan? at hscan
  split_ifs at hscan
  · unfold scan? at hscan
    dsimp only at hscan
    split_ifs at hscan
    obtain ⟨before, p, after, w, hp, hw, rfl⟩ := mentions_scanLines? hscan hm
    obtain ⟨i, line, hline, hwritten, hnumber⟩ := hasWord_of_named hevents (hblocks x hx) hp hw
    have hbody : x.body ≠ "" := by
      intro hempty
      rw [hempty] at hline
      cases hline
    have hpos := bodyLine_pos hx
    rw [← linesWithEnds_body hx hbody, List.getElem?_drop] at hline
    rw [Nat.zero_add, hnumber, show x.bodyLine + i = x.bodyLine - 1 + i + 1 by omega]
    exact hwritten.standsIn hline
  · obtain rfl := Option.some.inj hscan
    cases hm

/-! ## A document -/

section
open Synthesis TaskSection

/-- A body with a section of tasks, and below it a daily notice after some code, with a time of day that does not
exist. -/
def noticeBody : String := "# A\n- [ ] t\n# B\nNotify `@25` @daily:9am @25"

/-- The body below a byte order mark and a header. -/
def dailyNotice : String := "\uFEFF---\r\n---\r\n" ++ noticeBody

/-- The characters of the body after its section is replaced. -/
def noticeText : List Char := newChars noticeBody

/-- The new body, read from the number of its bytes. -/
def noticeSource : Buffer := .ofDigits (noticeText.flatMap String.utf8EncodeChar)

def noticeLines : LineMap := ⟨lineStarts noticeText, some ((newLines noticeBody).map (·.origin)), 3⟩

def noticeSection : TaskSection := ⟨"A", "a", 1, 0, 1, 2⟩

/-- The template is all of the new body from one place up to another, and the lines around it. -/
theorem noticeText_template :
    (noticeText.drop 12).take 482 = (template noticeSection.sourceName).flatMap (fun t => byteChars t ++ ['\n']) ∧
    byteLength (noticeText.take 12) = 12 ∧ byteLength (noticeText.take 494) = 494 ∧
    ((List.range (newLines noticeBody).length).all fun k =>
      (newLines noticeBody)[k]?.map (·.text) != some "```lvt" || k == 2) = true ∧
    ((List.range blockLength).all fun k => (lineRange? noticeText (2 + k + 1)).all fun r => 5 ≤ r.1 && r.2 ≤ 497) = true := by
  decide +kernel

/-- What the parser reports of the new body, and what the scan finds in it. -/
theorem noticeSource_read :
    ((eventsOf noticeSource).all fun e => decide (e.span.OnBoundaries noticeText)) = true ∧
    (codeSpans false (eventsOf noticeSource)).contains ⟨5, 497⟩ = true ∧
    ((collectBlocks noticeLines (eventsOf noticeSource)).toOption.any (·.length == 1)) = true ∧
    ((Outline.read noticeSource).nodes[1]?.any fun n =>
      n.body == .fencedCode "lvt" && n.children.map (fun c => (c.body, c.start, c.stop)) == [(.text false, 12, 494)]) = true ∧
    ((if Mask.wellFormed (LivePage.skipRanges noticeText false (eventsOf noticeSource)) (byteLength noticeText) then
        scanLines? noticeLines 0 ((linesWithEnds (Mask.apply (LivePage.skipRanges noticeText false (eventsOf noticeSource))
          noticeText)).zip (linesWithEnds noticeText))
      else none).any fun scan => decide (mentionsOf scan.tokens scan.imperatives scan.warnings =
        [⟨"@daily:9am", 6, 14⟩, ⟨"@daily:9am", 6, 14⟩, ⟨"@25", 6, 25⟩])) = true := by
  decide +kernel

theorem body_noticeBody : (synthesize noticeBody "page.md").body = String.ofList noticeText := by
  rw [noticeText, newChars_eq noticeBody "page.md", String.ofList_toList]

theorem events_noticeBody : events (synthesize noticeBody "page.md").body = eventsOf noticeSource := by
  rw [body_noticeBody, events_ofList]
  rfl

theorem lineMap_noticeBody : (synthesize noticeBody "page.md").lineMap 3 = noticeLines := by
  have hreplaced : (synthesize noticeBody "page.md").origins.isSome = true := by decide +kernel
  rcases synthesize_cases noticeBody "page.md" with ⟨-, hnone⟩ | ⟨-, -, horigins⟩
  · rw [hnone] at hreplaced
    cases hreplaced
  · rw [Synthesis.lineMap, horigins]
    dsimp only
    rw [LineMap.remapped, body_noticeBody, String.toList_ofList]
    rfl

theorem replaced_noticeBody : replaced noticeBody = [noticeSection] := by decide +kernel

theorem hasBlock_noticeBody : HasBlock (newLines noticeBody) noticeSection 2 := by
  have hlines : newLines noticeBody =
      [⟨"# A", 0⟩] ++ noticeSection.generated true ++ [⟨"# B", 2⟩, ⟨"Notify `@25` @daily:9am @25", 3⟩] := by
    decide +kernel
  exact ⟨_, true, _, hlines, rfl⟩

theorem blocksAreCode_noticeBody : BlocksAreCode noticeBody "page.md" := by
  obtain ⟨-, hspan, -⟩ := noticeSource_read
  obtain ⟨-, -, -, hfirst, hcovers⟩ := noticeText_template
  intro s hs first hblock
  have hopens := hblock.opens
  obtain rfl : first = 2 := by
    have hlt := (List.getElem?_eq_some_iff.1 hopens).1
    simpa [hopens] using List.all_eq_true.1 hfirst first (List.mem_range.2 hlt)
  rw [events_noticeBody, body_noticeBody, String.toList_ofList]
  refine ⟨⟨5, 497⟩, List.contains_iff_mem.1 hspan, fun k hle hlt range hrange => ?_⟩
  have hline := List.all_eq_true.1 hcovers (k - 2) (List.mem_range.2 (by omega))
  rw [Nat.add_sub_cancel' hle, hrange] at hline
  simpa using hline

/-- The code block holds the template, which is all of the new body from one place up to another. -/
theorem slice_noticeSource : noticeSource.slice 12 494 = noticeSection.templateText := by
  obtain ⟨hpiece, hfront, hstop, -⟩ := noticeText_template
  have htext : (String.ofList noticeText).toList =
      noticeText.take 12 ++ ((noticeText.drop 12).take 482 ++ noticeText.drop 494) := by
    rw [String.toList_ofList, ← List.drop_drop (i := 482) (j := 12), List.take_append_drop, List.take_append_drop]
  have hslice := Buffer.slice_ofString htext
  rw [← List.take_add, hfront, hstop, Buffer.ofString_eq_ofDigits, String.toList_ofList] at hslice
  refine hslice.trans (String.toList_inj.1 ?_)
  rw [String.toList_ofList, hpiece, templateText, String.toList_join, List.flatMap_map]
  simp [byteChars_eq]

theorem exists_shows_noticeBody : ∃ i, Shows (eventsOf noticeSource) noticeSection i := by
  obtain ⟨-, -, -, hnode, -⟩ := noticeSource_read
  obtain ⟨n, hn, hfound⟩ := (Option.any_eq_true _ _).1 hnode
  obtain ⟨hlt, hget⟩ := List.getElem?_eq_some_iff.1 hn
  rw [Bool.and_eq_true, beq_iff_eq, beq_iff_eq] at hfound
  obtain ⟨c, hchildren, hc⟩ := List.map_eq_singleton_iff.1 hfound.2
  have hnodes : (Outline.read noticeSource).nodes =
      (Outline.read noticeSource).nodes.take 1 ++ n :: (Outline.read noticeSource).nodes.drop 2 := by
    rw [← hget, List.getElem_cons_drop, List.take_append_drop]
  obtain ⟨before, after, hevents⟩ := Node.exists_events_of_fencedCode noticeSource [] hnodes hfound.1
  refine ⟨before.length, before, _, _, hevents, rfl, rfl, ?_⟩
  obtain ⟨body, start, stop, children⟩ := c
  obtain ⟨rfl, rfl, rfl⟩ : body = .text false ∧ start = 12 ∧ stop = 494 := by simpa using hc
  rw [hchildren, ← slice_noticeSource]
  simp [codeContent, Node.codeEvent, Event.closesCode]

/-- A generated block resolves alone on a page, where the anchor of its section holds no quotation mark. -/
theorem exists_build_of_shows {body file : String} {s : TaskSection} {lines : LineMap} {i : Nat}
    (declared : Dictionary SourceConfig) (hs : s ∈ replaced body) (hquote : s.Unquoted) {new : String}
    (hshown : Shows (events new) s i) (hcollect : (collectBlocks lines (events new)).toOption.any (·.length == 1) = true) :
    ∃ collected set, collectBlocks lines (events new) = .ok collected ∧
      BlockSet.build collected (mergeSources declared (synthesize body file).sources) = .ok set := by
  obtain ⟨collected, hblocks, hlength⟩ := exists_ok_of_any hcollect
  obtain ⟨cb, rfl⟩ := List.length_eq_one_iff.1 (eq_of_beq hlength)
  obtain ⟨cb', hcb, -, -, hmetadata⟩ := exists_block_of_shows (codeApart_events new) hblocks hshown
  obtain rfl := List.mem_singleton.1 hcb
  rw [readAnchor_eq_iff.2 hquote] at hmetadata
  have hsource : s.sourceName ∈ (mergeSources declared (synthesize body file).sources).names :=
    Dictionary.contains_iff.1 (contains_mergeSources.2 (.inr ⟨s, hs, rfl⟩))
  -- The only block repeats no id, and its reference is bound to the source that was made.
  cases hbuild : BlockSet.build [cb'] (mergeSources declared (synthesize body file).sources) with
  | ok set => exact ⟨_, set, hblocks, hbuild⟩
  | error located =>
    obtain ⟨i, hrepeats | hunbound, -⟩ := BlockSet.exists_of_build_error hbuild
    · exact absurd (List.nodup_singleton _) hrepeats.not_nodup
    · refine absurd (fun cb hcb _ => ?_) hunbound
      obtain rfl := List.mem_singleton.1 (List.mem_of_getElem? hcb)
      have hname : cb.sourceRef = some s.sourceName := by
        rw [CodeBlock.sourceRef, hmetadata]
        rfl
      refine ⟨fun name h => ?_, fun name h => ?_, fun _ => by rw [hname]; rfl⟩
      · rw [hname] at h
        exact Option.some.inj h ▸ hsource
      · rw [CodeBlock.stateRef, hname, hmetadata] at h
        cases h

theorem exists_build_noticeBody :
    ∃ collected set, collectBlocks noticeLines (events (synthesize noticeBody "page.md").body) = .ok collected ∧
      BlockSet.build collected (mergeSources [] (synthesize noticeBody "page.md").sources) = .ok set := by
  obtain ⟨-, -, hcollected, -⟩ := noticeSource_read
  obtain ⟨i, hshown⟩ := exists_shows_noticeBody
  rw [← events_noticeBody] at hcollected hshown
  have hs : noticeSection ∈ replaced noticeBody := by
    rw [replaced_noticeBody]
    exact List.mem_singleton.2 rfl
  have hquote : noticeSection.Unquoted := by simp [Unquoted, noticeSection, isQuote]
  exact exists_build_of_shows [] hs hquote hshown hcollected

/-- The scan of the new body names the time of day twice, for the token is the first argument of the notice too. -/
theorem exists_scan_noticeBody : ∃ scan, (synthesize noticeBody "page.md").scan? 3 {} = some scan ∧
    mentionsOf scan.tokens scan.imperatives scan.warnings =
      [⟨"@daily:9am", 6, 14⟩, ⟨"@daily:9am", 6, 14⟩, ⟨"@25", 6, 25⟩] := by
  obtain ⟨-, -, -, -, hscan⟩ := noticeSource_read
  obtain ⟨scan, hscan, hmentions⟩ := (Option.any_eq_true _ _).1 hscan
  refine ⟨scan, ?_, of_decide_eq_true hmentions⟩
  rw [Synthesis.scan?, if_pos rfl, LivePage.scan?, Synthesis.skipRanges, lineMap_noticeBody, events_noticeBody,
    body_noticeBody, String.toList_ofList]
  exact hscan

/-- Below a section that is replaced, and after code that is masked, the notice and its tokens stand in the file. -/
theorem dailyNotice_stands : ∃ c, compile dailyNotice "page.md" {} = .ok c ∧
    (∀ e ∈ events c.page.markdown, e.span.OnBoundaries c.page.markdown.toList) ∧
    BlocksAreCode noticeBody "page.md" ∧ replaced noticeBody = [noticeSection] ∧
    HasBlock (newLines noticeBody) noticeSection 2 ∧
    mentionsOf c.page.schedules c.page.imperatives c.warnings =
      [⟨"@daily:9am", 6, 14⟩, ⟨"@daily:9am", 6, 14⟩, ⟨"@25", 6, 25⟩] ∧
    ∀ m ∈ mentionsOf c.page.schedules c.page.imperatives c.warnings, m.StandsIn dailyNotice.toList := by
  obtain ⟨x, hx, hbody, hline, hdeclared⟩ : ∃ x, extractWith Header.decode dailyNotice = .ok x ∧
      x.body = noticeBody ∧ x.bodyLine = 3 ∧ x.frontmatter.sources = [] := ⟨_, rfl, rfl, rfl, rfl⟩
  have hs : x.synthesis "page.md" {} = synthesize noticeBody "page.md" := by
    rw [Extracted.synthesis, if_pos rfl, hbody]
  obtain ⟨collected, set, hcollect, hbuild⟩ := exists_build_noticeBody
  obtain ⟨scan, hscan, hmentions⟩ := exists_scan_noticeBody
  -- The stages were answered for the new body; here they are those of the document.
  rw [← lineMap_noticeBody, ← hs, ← hline] at hcollect
  rw [← hdeclared, ← hs] at hbuild
  rw [← hs, ← hline] at hscan
  obtain ⟨c, hc⟩ := exists_compileExtracted_eq_ok_iff.2 ⟨collected, set, scan, hcollect, hbuild, hscan⟩
  obtain ⟨-, scan', -, hscan', -, -, hmarkdown, htokens, himperatives, hwarnings⟩ := compileExtracted_eq_ok hc
  obtain rfl := Option.some.inj (hscan.symm.trans hscan')
  have hcompile : compile dailyNotice "page.md" {} = .ok c := compileWith_of_extracted hx hc
  have hevents : ∀ e ∈ events c.page.markdown, e.span.OnBoundaries c.page.markdown.toList := by
    rw [hmarkdown, hs, events_noticeBody, body_noticeBody, String.toList_ofList]
    obtain ⟨honBoundaries, -⟩ := noticeSource_read
    intro e he
    exact of_decide_eq_true (List.all_eq_true.1 honBoundaries e he)
  refine ⟨c, hcompile, hevents, blocksAreCode_noticeBody, replaced_noticeBody, hasBlock_noticeBody, ?_,
    mentions_stand hcompile hevents fun y hy _ => ?_⟩
  · rw [htokens, himperatives, hwarnings]
    exact hmentions
  · obtain rfl := Except.ok.inj (hx.symm.trans hy)
    rw [hbody]
    exact blocksAreCode_noticeBody

end

end LivePage
