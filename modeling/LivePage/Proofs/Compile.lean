import LivePage.Compile.File
import LivePage.Proofs.Block.Attach
import LivePage.Proofs.Block.SkipRange
import LivePage.Proofs.Schedule.Scan
import Mathlib.Tactic.Tauto
/-!
# Stages of a compilation

What every stage of a compilation that gives a page was handed and gave back, and when a compilation ends because the
scan for schedules has no answer.
-/
namespace LivePage

open Text Markdown

/-- The body that is read, with the origins of its lines. -/
def Extracted.synthesis (x : Extracted) (file : String) (options : CompileOptions) : Synthesis :=
  if options.autoTasks then synthesize x.body file else { body := x.body }

/-- The line map of a body that is read. -/
def Synthesis.lineMap (s : Synthesis) (bodyLine : Nat) : LineMap :=
  match s.origins with
  | some origins => LineMap.remapped s.body bodyLine origins
  | none => LineMap.identity s.body bodyLine

/-- The byte ranges of a body that hold no schedules. -/
def Synthesis.skipRanges (s : Synthesis) : List Span := LivePage.skipRanges s.body.toList false (events s.body)

/-- What the scan for schedules gives, if it is asked for. -/
def Synthesis.scan? (s : Synthesis) (bodyLine : Nat) (options : CompileOptions) : Option ScanResult :=
  if options.schedule then LivePage.scan? s.body s.skipRanges (s.lineMap bodyLine) else some {}

/-- An answer of which something is computed is there, and what is computed holds of it. -/
theorem exists_ok_of_any {ε α : Type} {r : Except ε α} {p : α → Bool} (h : r.toOption.any p = true) :
    ∃ a, r = .ok a ∧ p a = true := by
  cases r with
  | error e => cases h
  | ok a => exact ⟨a, rfl, h⟩

def compileError? : Except CompileFailure Compiled → Option CompileError
  | .error (.error e) => some e
  | _ => none

theorem exists_error_of_any {r : Except CompileFailure Compiled} {p : CompileError → Bool}
    (h : (compileError? r).any p = true) : ∃ e, r = .error (.error e) ∧ p e = true := by
  cases r with
  | ok c => cases h
  | error failure =>
    cases failure with
    | noScan => cases h
    | error e => exact ⟨e, rfl, h⟩

variable {x : Extracted} {file : String} {options : CompileOptions}

/-- A page is made of what the stages gave. -/
theorem compileExtracted_eq_ok {c : Compiled} (h : compileExtracted x file options = .ok c) :
    let s := x.synthesis file options
    ∃ collected scan, collectBlocks (s.lineMap x.bodyLine) (events s.body) = .ok collected ∧
      s.scan? x.bodyLine options = some scan ∧
      BlockSet.build collected (mergeSources x.frontmatter.sources s.sources) = .ok c.page.blockSet ∧
      renderPage ((events s.body).map (·.event)) collected c.page.blockSet.blocks options.headingIds = .ok c.page.html ∧
      c.page.markdown = s.body ∧ c.page.schedules = scan.tokens ∧ c.page.imperatives = scan.imperatives ∧
      c.warnings = scan.warnings := by
  unfold compileExtracted at h
  simp only [bind, Except.bind, pure, Except.pure] at h
  split at h
  · rename_i collected hcollected
    split at h
    · rename_i scan hscan
      split at h
      · rename_i set hset
        split at h
        · rename_i html hhtml
          obtain rfl := Except.ok.inj h
          exact ⟨collected, scan, hcollected, hscan, hset, hhtml, rfl, rfl, rfl, rfl⟩
        · cases h
      · cases h
    · cases h
  · cases h

/-- There is no answer to the scan just when it is asked for, for a body whose blocks are collected. -/
theorem compileExtracted_eq_noScan_iff : compileExtracted x file options = .error .noScan ↔
    let s := x.synthesis file options
    (∃ collected, collectBlocks (s.lineMap x.bodyLine) (events s.body) = .ok collected) ∧
      s.scan? x.bodyLine options = none := by
  unfold compileExtracted
  simp only [bind, Except.bind, pure, Except.pure]
  split
  · rename_i collected hcollected
    split
    · rename_i scan hscan
      refine iff_of_false ?_ fun h => ?_
      · split
        · split <;> simp
        · simp
      · exact absurd h.2 (Option.ne_none_iff_exists'.2 ⟨scan, hscan⟩)
    · rename_i hscan
      exact iff_of_true rfl ⟨⟨collected, hcollected⟩, hscan⟩
  · rename_i u line hcollected
    refine iff_of_false (by simp) fun h => ?_
    obtain ⟨collected, h⟩ := h.1
    exact nomatch hcollected.symm.trans h

theorem compileWith_eq_ok {decode : String → Except DecodeFault Header} {source : String} {c : Compiled}
    (h : compileWith decode source file options = .ok c) :
    ∃ x, extractWith decode source = .ok x ∧ compileExtracted x file options = .ok c := by
  unfold compileWith at h
  cases hx : extractWith decode source with
  | error fault => simp [hx] at h
  | ok x =>
    refine ⟨x, rfl, ?_⟩
    simp only [hx] at h
    cases hc : compileExtracted x file options with
    | ok compiled => rw [hc] at h; exact h
    | error failure =>
      rw [hc] at h
      cases failure <;> cases h

/-- What ends the compilation of a body is a block of a kind that does not exist, or a block that does not resolve. -/
theorem compileExtracted_eq_error {e : CompileError} (h : compileExtracted x file options = .error (.error e)) :
    let s := x.synthesis file options
    (∃ u line, collectBlocks (s.lineMap x.bodyLine) (events s.body) = .error (u, line) ∧ e = u.toError file line) ∨
      ∃ collected fault line, collectBlocks (s.lineMap x.bodyLine) (events s.body) = .ok collected ∧
        BlockSet.build collected (mergeSources x.frontmatter.sources s.sources) = .error (fault, line) ∧
        e = fault.toError file line := by
  unfold compileExtracted at h
  simp only [bind, Except.bind, pure, Except.pure] at h
  split at h
  · rename_i collected hcollected
    split at h
    · rename_i scan hscan
      split at h
      · rename_i set hset
        obtain ⟨html, hhtml⟩ := exists_renderPage options.headingIds hcollected hset
        rw [hhtml] at h
        cases h
      · rename_i fault line hbuild
        obtain rfl := CompileFailure.error.inj (Except.error.inj h)
        exact .inr ⟨collected, fault, line, hcollected, hbuild, rfl⟩
    · cases h
  · rename_i u line hcollected
    obtain rfl := CompileFailure.error.inj (Except.error.inj h)
    exact .inl ⟨u, line, hcollected, rfl⟩

/-- A page is made just when all blocks of its body are collected and resolve and the scan has an answer, for then it
is rendered too. -/
theorem exists_compileExtracted_eq_ok_iff : (∃ c, compileExtracted x file options = .ok c) ↔
    let s := x.synthesis file options
    ∃ collected set scan, collectBlocks (s.lineMap x.bodyLine) (events s.body) = .ok collected ∧
      BlockSet.build collected (mergeSources x.frontmatter.sources s.sources) = .ok set ∧
      s.scan? x.bodyLine options = some scan := by
  constructor
  · rintro ⟨c, hc⟩
    obtain ⟨collected, scan, hcollected, hscan, hbuild, -⟩ := compileExtracted_eq_ok hc
    exact ⟨collected, _, scan, hcollected, hbuild, hscan⟩
  · rintro ⟨collected, set, scan, hcollected, hbuild, hscan⟩
    cases hc : compileExtracted x file options with
    | ok c => exact ⟨c, rfl⟩
    | error failure =>
      cases failure with
      | noScan => exact nomatch hscan.symm.trans (compileExtracted_eq_noScan_iff.1 hc).2
      | error e =>
        rcases compileExtracted_eq_error hc with ⟨u, line, hfault, -⟩ | ⟨collected', fault, line, hsame, hfault, -⟩
        · exact nomatch hcollected.symm.trans hfault
        · obtain rfl := Except.ok.inj (hcollected.symm.trans hsame)
          exact nomatch hbuild.symm.trans hfault

theorem compileWith_of_extracted {decode : String → Except DecodeFault Header} {source : String} {c : Compiled}
    (hx : extractWith decode source = .ok x) (hc : compileExtracted x file options = .ok c) :
    compileWith decode source file options = .ok c := by
  simp only [compileWith, hx, hc]

/-- What ends the compilation of a document is placed in it. -/
theorem compileWith_eq_error {decode : String → Except DecodeFault Header} {source : String} {e : CompileError}
    (h : compileWith decode source file options = .error (.error e)) :
    ∃ found : CompileError, e = found.locatedIn source ∧
      ((∃ fault, extractWith decode source = .error fault ∧ found = fault.toError file) ∨
        ∃ x, extractWith decode source = .ok x ∧ compileExtracted x file options = .error (.error found)) := by
  unfold compileWith at h
  cases hx : extractWith decode source with
  | error fault =>
    simp only [hx, Except.error.injEq, CompileFailure.error.injEq] at h
    exact ⟨_, h.symm, .inl ⟨fault, rfl, rfl⟩⟩
  | ok x =>
    simp only [hx] at h
    cases hc : compileExtracted x file options with
    | ok compiled => rw [hc] at h; cases h
    | error failure =>
      rw [hc] at h
      cases failure with
      | noScan => cases h
      | error found =>
        simp only [Except.error.injEq, CompileFailure.error.injEq] at h
        exact ⟨found, h.symm, .inr ⟨x, rfl, hc⟩⟩

/-! ## Scans without an answer -/

/-- **When the scan for schedules has no answer.** With ranges on boundaries of a body it has none just when one of
its lines is masked so that the message of a notification would start inside a character. All other cuts are made
between characters: a masked line has the bytes of the line that it masks, and a word that is read in it from some
place on stands in the line as written. The ranges that a compilation masks are such ranges if the parser's are, so a
compilation ends without an answer just when it gets to a scan, and a line of its body cuts a message. -/
theorem noScan_iff_cutsMessage (body : String) (ranges : List Span) (h : ∀ r ∈ ranges, r.OnBoundaries body.toList)
    (x : Extracted) (file : String) (options : CompileOptions)
    (hx : ∀ e ∈ events (x.synthesis file options).body, e.span.OnBoundaries (x.synthesis file options).body.toList) :
    (∀ lines, scan? body ranges lines = none ↔
      ∃ p ∈ linePairs ranges body.toList, Imperative.CutsMessage (dropLineEnd p.1) (dropLineEnd p.2)) ∧
    (∀ before p after, linePairs ranges body.toList = before ++ p :: after →
      sliceBytes? body.toList (byteLength (before.map (·.1)).flatten) (byteLength (dropLineEnd p.1)) =
        some (dropLineEnd p.2) ∧
      ∀ front rest w, dropLineEnd p.1 = front ++ rest → w ∈ PlacedWord.list (byteLength front) rest →
        sliceBytes? (dropLineEnd p.2) w.start (byteLength w.text) = some w.text) ∧
    let s := x.synthesis file options
    (∀ r ∈ s.skipRanges, r.OnBoundaries s.body.toList) ∧
    (compileExtracted x file options = .error .noScan ↔
      options.schedule = true ∧ (∃ collected, collectBlocks (s.lineMap x.bodyLine) (events s.body) = .ok collected) ∧
      ∃ p ∈ linePairs s.skipRanges s.body.toList, Imperative.CutsMessage (dropLineEnd p.1) (dropLineEnd p.2)) := by
  refine ⟨fun lines => scan?_eq_none_iff h, fun before p after hp => ⟨?_, fun front rest w hfront hw => ?_⟩, ?_⟩
  · obtain ⟨hmasks, hlines, hstart⟩ := stands_linePairs h hp
    obtain ⟨lineEnd, hend⟩ := dropEndWhile_prefix isLineEnd p.2
    change dropLineEnd p.2 ++ lineEnd = p.2 at hend
    refine sliceBytes?_eq_some_iff.2 ⟨(before.map (·.2)).flatten, lineEnd ++ (after.map (·.2)).flatten, ?_, hstart,
      hmasks.dropLineEnd.byteLength_eq.symm⟩
    rw [← linesWithEnds_flatten body.toList, hlines, List.flatten_append, List.flatten_cons, ← List.append_assoc _ lineEnd,
      List.append_assoc _ (dropLineEnd p.2) lineEnd, hend, List.append_assoc]
  · obtain ⟨hmasks, -⟩ := stands_linePairs h hp
    refine (PlacedWord.IsIn.unmask ?_ hmasks.dropLineEnd).slice
    rw [hfront]
    exact PlacedWord.IsIn.append_left _ (by rw [Nat.zero_add]; exact PlacedWord.isIn_of_mem_list hw)
  · intro s
    have hranges : ∀ r ∈ s.skipRanges, r.OnBoundaries s.body.toList := skipRanges_onBoundaries hx
    refine ⟨hranges, ?_⟩
    rw [compileExtracted_eq_noScan_iff]
    change _ ∧ s.scan? x.bodyLine options = none ↔ _
    rw [and_comm, Synthesis.scan?]
    cases options.schedule with
    | true => rw [if_pos rfl, scan?_eq_none_iff hranges]; tauto
    | false => simp

/-- A document in which the destination of a link is found in its title, right after `Notify`. -/
def destinationInTitle : String := "[x](é \"\nNotifyé\")"

theorem events_destinationInTitle : events destinationInTitle =
    [⟨.start .paragraph, ⟨0, 19⟩⟩, ⟨.start (.link ⟨.inline, "é", "\nNotifyé"⟩), ⟨0, 19⟩⟩, ⟨.text "x", ⟨1, 2⟩⟩,
      ⟨.stop .link, ⟨0, 19⟩⟩, ⟨.stop .paragraph, ⟨0, 19⟩⟩] := by
  decide +kernel

theorem synthesize_destinationInTitle : synthesize destinationInTitle "page.md" = { body := destinationInTitle } := by
  have hdetect : TaskSection.detect destinationInTitle = [] := by decide +kernel
  simp [synthesize, Synthesis.replaced, hdetect, TaskSection.withOwnAnchor]

/-- The scan has no answer where the character after `Notify` is masked, and so there is none for the document. -/
theorem noScan_destinationInTitle :
    (∀ r ∈ [(⟨6, 8⟩ : Span)], r.OnBoundaries "Notifyé".toList) ∧
    (∀ e ∈ events destinationInTitle, e.span.OnBoundaries destinationInTitle.toList) ∧
    scan? "Notifyé" [⟨6, 8⟩] (LineMap.identity "Notifyé" 1) = none ∧
    compileExtracted { body := destinationInTitle } "page.md" { autoTasks := false } = .error .noScan := by
  have hranges : ∀ r ∈ [(⟨6, 8⟩ : Span)], r.OnBoundaries "Notifyé".toList := by decide +kernel
  have hevents : ∀ e ∈ events destinationInTitle, e.span.OnBoundaries destinationInTitle.toList := by
    rw [events_destinationInTitle]
    decide +kernel
  obtain ⟨hscan, -, -, hcompile⟩ := noScan_iff_cutsMessage "Notifyé" [⟨6, 8⟩] hranges { body := destinationInTitle }
    "page.md" { autoTasks := false } hevents
  have hpairs : linePairs [⟨6, 8⟩] "Notifyé".toList = [("Notify  ".toList, "Notifyé".toList)] := by decide +kernel
  have hranges' : skipRanges destinationInTitle.toList false (events destinationInTitle) = [⟨15, 17⟩] := by
    rw [events_destinationInTitle]
    decide +kernel
  have hpairs' : linePairs [⟨15, 17⟩] destinationInTitle.toList =
      [("[x](é \"\n".toList, "[x](é \"\n".toList), ("Notify  \")".toList, "Notifyé\")".toList)] := by decide +kernel
  refine ⟨hranges, hevents, (hscan _).2 ⟨_, hpairs ▸ List.mem_cons_self, ?_⟩, hcompile.2 ⟨rfl, ⟨[], ?_⟩, ?_⟩⟩
  · exact ⟨[], 'é', [], [], by decide, by decide, by decide +kernel, by decide⟩
  · change collectBlocks _ (events destinationInTitle) = _
    rw [events_destinationInTitle]
    rfl
  · change ∃ p ∈ linePairs (skipRanges destinationInTitle.toList false (events destinationInTitle))
      destinationInTitle.toList, _
    rw [hranges', hpairs']
    refine ⟨_, List.mem_cons_of_mem _ List.mem_cons_self, [], 'é', ['"', ')'], ['"', ')'], ?_⟩
    exact ⟨by decide, by decide, by decide +kernel, by decide⟩

/-- **A destination cuts a message.** All ranges of the document run between characters, and its compilation ends
without an answer. -/
theorem message_cut_by_destination :
    (∀ e ∈ events destinationInTitle, e.span.OnBoundaries destinationInTitle.toList) ∧
    scan? destinationInTitle (skipRanges destinationInTitle.toList false (events destinationInTitle))
      (LineMap.identity destinationInTitle 1) = none ∧
    compile destinationInTitle "page.md" {} = .error .noScan := by
  have hscan : scan? destinationInTitle (skipRanges destinationInTitle.toList false (events destinationInTitle))
      (LineMap.identity destinationInTitle 1) = none := by
    rw [events_destinationInTitle]
    decide +kernel
  refine ⟨by rw [events_destinationInTitle]; decide +kernel, hscan, ?_⟩
  have hcompile : compileExtracted { body := destinationInTitle } "page.md" {} = .error .noScan := by
    refine compileExtracted_eq_noScan_iff.2 ?_
    have hs : Extracted.synthesis { body := destinationInTitle } "page.md" {} = { body := destinationInTitle } :=
      synthesize_destinationInTitle
    rw [hs]
    exact ⟨⟨[], by rw [events_destinationInTitle]; rfl⟩, hscan⟩
  rw [compile, compileWith, show extractWith Header.decode destinationInTitle = .ok { body := destinationInTitle } from rfl]
  simp only [hcompile]

end LivePage
