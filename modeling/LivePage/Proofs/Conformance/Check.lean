import LivePage.Conformance.TestFile
import LivePage.Proofs.Text.Lines
import Mathlib.Data.List.Forall2
/-!
# What a passing test shows

A test passes when no check gives a reason to fail. Here is which expectations were looked at then, and which were not:
those about a page when an error was expected, those about an error when none was, and those about the state or the
source of a block that is not interactive. A passing test meets all its expectations just where it has none of these.
-/
namespace LivePage

open Text

/-! ## Single checks -/

section
variable {α β : Type}

@[simp] theorem reasonUnless_eq_none_iff {holds : Bool} {reason : String} :
    reasonUnless holds reason = none ↔ holds = true := by
  cases holds <;> simp [reasonUnless]

theorem firstReason_eq_none_iff {checks : List (Option String)} :
    firstReason checks = none ↔ ∀ c ∈ checks, c = none := by
  simp [firstReason, List.findSome?_eq_none_iff]

@[simp] theorem firstReason_nil : firstReason [] = none := rfl

@[simp] theorem firstReason_cons_eq_none_iff {c : Option String} {checks : List (Option String)} :
    firstReason (c :: checks) = none ↔ c = none ∧ firstReason checks = none := by
  simp [firstReason_eq_none_iff]

@[simp] theorem firstReason_map_eq_none_iff {l : List α} {check : α → Option String} :
    firstReason (l.map check) = none ↔ ∀ a ∈ l, check a = none := by
  simp [firstReason_eq_none_iff]

@[simp] theorem whenExpected_eq_none_iff {expected : Option α} {check : α → Option String} :
    whenExpected expected check = none ↔ ∀ a ∈ expected, check a = none := by
  cases expected <;> simp [whenExpected]

@[simp] theorem hasPart_iff {text part : String} : hasPart text part = true ↔ part.toList <:+: text.toList :=
  occursIn_iff

/-- Checking two lists place by place, and first of all that they are of one length. -/
theorem firstReason_places {R : α → β → Prop} {check : Nat → α × β → Option String} {l : List α} {m : List β}
    {reason : String} (hcheck : ∀ place a b, check place (a, b) = none ↔ R a b) :
    firstReason [reasonUnless (l.length == m.length) reason, firstReason ((l.zip m).mapIdx check)] = none ↔
      List.Forall₂ R l m := by
  rw [firstReason_cons_eq_none_iff, firstReason_cons_eq_none_iff, firstReason_eq_none_iff, List.forall₂_iff_zip]
  simp only [reasonUnless_eq_none_iff, beq_iff_eq, List.mem_mapIdx, forall_exists_index, firstReason_nil, and_true]
  refine and_congr_right fun _ => ⟨fun h a b hab => ?_, ?_⟩
  · obtain ⟨place, hplace, hget⟩ := List.mem_iff_getElem.1 hab
    exact (hcheck place a b).1 (h _ place hplace (by rw [hget]))
  · rintro h _ place hplace rfl
    exact (hcheck place _ _).2 (h (List.getElem_mem hplace))

end

/-! ## Blocks and warnings -/

namespace ExpectedBlock

variable {want : ExpectedBlock} {b : Block}

/-- A block is as expected: of this id and type, and with the line, the state and the source that are set. -/
structure MetBy (want : ExpectedBlock) (b : Block) : Prop where
  id : b.id = want.id
  type : b.type.name = want.type
  line : ∀ line ∈ want.line, b.line = line
  state : ∀ state ∈ want.state, ∃ i, b.interactive? = some i ∧ i.stateRef = some state
  source : ∀ source ∈ want.source, ∃ i, b.interactive? = some i ∧ i.sourceRef = some source

/-- A block is found as expected: state and source are looked at only if it is interactive. -/
structure FoundIn (want : ExpectedBlock) (b : Block) : Prop where
  id : b.id = want.id
  type : b.type.name = want.type
  line : ∀ line ∈ want.line, b.line = line
  state : ∀ i, b.interactive? = some i → ∀ state ∈ want.state, i.stateRef = some state
  source : ∀ i, b.interactive? = some i → ∀ source ∈ want.source, i.sourceRef = some source

/-- A state or a source is expected of a block that has neither. -/
def AsksPlainBlock (want : ExpectedBlock) (b : Block) : Prop :=
  b.interactive? = none ∧ (want.state ≠ none ∨ want.source ≠ none)

theorem metBy_iff : want.MetBy b ↔ want.FoundIn b ∧ ¬ want.AsksPlainBlock b := by
  constructor
  · rintro ⟨hid, htype, hline, hstate, hsource⟩
    refine ⟨⟨hid, htype, hline, fun i hi state hmem => ?_, fun i hi source hmem => ?_⟩, ?_⟩
    · obtain ⟨i', hi', h⟩ := hstate state hmem
      rwa [Option.some.inj (hi.symm.trans hi')]
    · obtain ⟨i', hi', h⟩ := hsource source hmem
      rwa [Option.some.inj (hi.symm.trans hi')]
    · rintro ⟨hplain, h | h⟩
      · obtain ⟨state, hmem⟩ := Option.ne_none_iff_exists'.1 h
        obtain ⟨i, hi, -⟩ := hstate state hmem
        simp [hplain] at hi
      · obtain ⟨source, hmem⟩ := Option.ne_none_iff_exists'.1 h
        obtain ⟨i, hi, -⟩ := hsource source hmem
        simp [hplain] at hi
  · rintro ⟨⟨hid, htype, hline, hstate, hsource⟩, hplain⟩
    cases hi : b.interactive? with
    | some i =>
      exact ⟨hid, htype, hline, fun state hmem => ⟨i, hi, hstate i hi state hmem⟩,
        fun source hmem => ⟨i, hi, hsource i hi source hmem⟩⟩
    | none =>
      have hnone : want.state = none ∧ want.source = none := by
        simpa [AsksPlainBlock, hi] using hplain
      exact ⟨hid, htype, hline, by simp [hnone.1], by simp [hnone.2]⟩

/-- What is expected of a reference holds if none is expected or it is this one. -/
theorem isNone_or_beq_iff {expected actual : Option String} :
    (expected.isNone || actual == expected) = true ↔ ∀ name ∈ expected, actual = some name := by
  cases expected <;> simp

theorem checkBlock_eq_none_iff {place : Nat} : Expectations.checkBlock place b want = none ↔ want.FoundIn b := by
  have hrefs (check : InteractiveBlock → Option String) :
      b.interactive?.bind check = none ↔ ∀ i, b.interactive? = some i → check i = none := by
    cases b.interactive? <;> simp
  simp only [Expectations.checkBlock, firstReason_cons_eq_none_iff, firstReason_nil, and_true,
    reasonUnless_eq_none_iff, whenExpected_eq_none_iff, Bool.and_eq_true, beq_iff_eq, hrefs, isNone_or_beq_iff]
  constructor
  · rintro ⟨⟨hid, htype⟩, hline, h⟩
    exact ⟨hid, htype, hline, fun i hi => (h i hi).1, fun i hi => (h i hi).2⟩
  · rintro ⟨hid, htype, hline, hstate, hsource⟩
    exact ⟨⟨hid, htype⟩, hline, fun i hi => ⟨hstate i hi, hsource i hi⟩⟩

end ExpectedBlock

/-- A warning is as expected: it has the part in its message, and the line if that is set. -/
structure ExpectedWarning.MetBy (want : ExpectedWarning) (w : ScheduleWarning) : Prop where
  part : want.part.toList <:+: w.message.toList
  line : ∀ line ∈ want.line, w.line = line

theorem ExpectedWarning.checkWarning_eq_none_iff {want : ExpectedWarning} {w : ScheduleWarning} {place : Nat} :
    Expectations.checkWarning place w want = none ↔ want.MetBy w := by
  simp only [Expectations.checkWarning, firstReason_cons_eq_none_iff, firstReason_nil, and_true,
    reasonUnless_eq_none_iff, whenExpected_eq_none_iff, hasPart_iff, beq_iff_eq]
  exact ⟨fun ⟨hpart, hline⟩ => ⟨hpart, hline⟩, fun ⟨hpart, hline⟩ => ⟨hpart, hline⟩⟩

namespace Expectations

/-! ## What is expected, and what is looked at -/

/-- All that a header expects holds: what is expected of an error takes an error, and what is expected of a page takes a
page. -/
structure Met (e : Expectations) (result : Except CompileError Compiled) : Prop where
  error : ∀ part ∈ e.error, ∃ err, result = .error err ∧ part.toList <:+: err.message.toList
  errorKind : ∀ kind ∈ e.errorKind, ∃ err, result = .error err ∧ err.kind.name = kind
  errorLine : ∀ line ∈ e.errorLine, ∃ err, result = .error err ∧ err.line = line
  hint : ∀ part ∈ e.hint, ∃ err hint, result = .error err ∧ err.hint = some hint ∧ part.toList <:+: hint.toList
  blocks : ∀ wants ∈ e.blocks, ∃ c, result = .ok c ∧
    List.Forall₂ (fun b want => ExpectedBlock.MetBy want b) c.page.blockSet.blocks wants
  sources : ∀ names ∈ e.sources, ∃ c, result = .ok c ∧ names.Perm c.page.config.sources.names
  tokens : ∀ tokens ∈ e.tokens, ∃ c, result = .ok c ∧ c.page.schedules.map (·.raw) = tokens
  imperatives : ∀ kinds ∈ e.imperatives, ∃ c, result = .ok c ∧ c.page.imperatives.map (·.action.kindName) = kinds
  htmlParts : ∀ part ∈ e.htmlParts, ∃ c, result = .ok c ∧ part.toList <:+: c.page.html.toList
  htmlAbsent : ∀ part ∈ e.htmlAbsent, ∃ c, result = .ok c ∧ ¬ part.toList <:+: c.page.html.toList
  warnings : ∀ wants ∈ e.warnings, ∃ c, result = .ok c ∧
    List.Forall₂ (fun w want => ExpectedWarning.MetBy want w) c.warnings wants

/-- What is looked at in an error; one without a hint counts as one with an empty hint. -/
structure FoundInError (e : Expectations) (err : CompileError) : Prop where
  part : ∀ part ∈ e.error, part.toList <:+: err.message.toList
  kind : ∀ kind ∈ e.errorKind, err.kind.name = kind
  line : ∀ line ∈ e.errorLine, err.line = line
  hint : ∀ part ∈ e.hint, part.toList <:+: (err.hint.getD "").toList

/-- What is looked at in a page. -/
structure FoundInPage (e : Expectations) (c : Compiled) : Prop where
  blocks : ∀ wants ∈ e.blocks, List.Forall₂ (fun b want => ExpectedBlock.FoundIn want b) c.page.blockSet.blocks wants
  sources : ∀ names ∈ e.sources, c.page.config.sources.names = sorted names
  tokens : ∀ tokens ∈ e.tokens, c.page.schedules.map (·.raw) = tokens
  imperatives : ∀ kinds ∈ e.imperatives, c.page.imperatives.map (·.action.kindName) = kinds
  htmlParts : ∀ part ∈ e.htmlParts, part.toList <:+: c.page.html.toList
  htmlAbsent : ∀ part ∈ e.htmlAbsent, ¬ part.toList <:+: c.page.html.toList
  warnings : ∀ wants ∈ e.warnings, List.Forall₂ (fun w want => ExpectedWarning.MetBy want w) c.warnings wants

/-- What a test that passes has found: an error and what it looks at there if a part of its message is expected, else a
page and what it looks at there. -/
def Found (e : Expectations) : Except CompileError Compiled → Prop
  | .error err => e.error ≠ none ∧ e.FoundInError err
  | .ok c => e.error = none ∧ e.FoundInPage c

/-- Something is expected of a page. -/
def AsksPage (e : Expectations) : Prop :=
  e.blocks ≠ none ∨ e.sources ≠ none ∨ e.tokens ≠ none ∨ e.imperatives ≠ none ∨ e.htmlParts ≠ [] ∨ e.htmlAbsent ≠ [] ∨
    e.warnings ≠ none

/-- More is expected of an error than a part of its message. -/
def AsksErrorDetail (e : Expectations) : Prop := e.errorKind ≠ none ∨ e.errorLine ≠ none ∨ e.hint ≠ none

/-- Something is expected that is not looked at: of a page if there is an error, or an empty part of a hint that is not
there; of an error if there is a page, or a state or a source of a block that is not interactive. -/
def PassesOver (e : Expectations) : Except CompileError Compiled → Prop
  | .error err => e.AsksPage ∨ (e.hint = some "" ∧ err.hint = none)
  | .ok c => e.AsksErrorDetail ∨ ∃ wants ∈ e.blocks, ∃ p ∈ c.page.blockSet.blocks.zip wants, p.2.AsksPlainBlock p.1

variable {e : Expectations} {err : CompileError} {c : Compiled} {result : Except CompileError Compiled}

theorem checkError_eq_none_iff : e.checkError err = none ↔ e.FoundInError err := by
  simp only [checkError, firstReason_cons_eq_none_iff, firstReason_nil, and_true,
    reasonUnless_eq_none_iff, whenExpected_eq_none_iff, hasPart_iff, beq_iff_eq]
  exact ⟨fun ⟨h1, h2, h3, h4⟩ => ⟨h1, h2, h3, h4⟩, fun ⟨h1, h2, h3, h4⟩ => ⟨h1, h2, h3, h4⟩⟩

theorem checkBlocks_eq_none_iff {blocks : List Block} {wants : List ExpectedBlock} :
    checkBlocks blocks wants = none ↔ List.Forall₂ (fun b want => ExpectedBlock.FoundIn want b) blocks wants :=
  firstReason_places fun _ _ _ => ExpectedBlock.checkBlock_eq_none_iff

theorem checkWarnings_eq_none_iff {warnings : List ScheduleWarning} {wants : List ExpectedWarning} :
    checkWarnings warnings wants = none ↔ List.Forall₂ (fun w want => ExpectedWarning.MetBy want w) warnings wants :=
  firstReason_places fun _ _ _ => ExpectedWarning.checkWarning_eq_none_iff

theorem checkPage_eq_none_iff : e.checkPage c = none ↔ e.FoundInPage c := by
  simp only [checkPage, checkTexts, firstReason_cons_eq_none_iff, firstReason_nil, and_true,
    reasonUnless_eq_none_iff, whenExpected_eq_none_iff, checkBlocks_eq_none_iff, checkWarnings_eq_none_iff,
    firstReason_map_eq_none_iff, hasPart_iff, Bool.not_eq_true', ← Bool.not_eq_true, beq_iff_eq]
  exact ⟨fun ⟨h1, h2, h3, h4, h5, h6, h7⟩ => ⟨h1, h2, h3, h4, h5, h6, h7⟩,
    fun ⟨h1, h2, h3, h4, h5, h6, h7⟩ => ⟨h1, h2, h3, h4, h5, h6, h7⟩⟩

/-- **What a check looks at.** It gives no reason to fail just where all of that is found. -/
theorem check_eq_none_iff : e.check result = none ↔ e.Found result := by
  cases hpart : e.error with
  | none => cases result <;> simp [check, Found, hpart, checkPage_eq_none_iff]
  | some part => cases result <;> simp [check, Found, hpart, checkError_eq_none_iff]

/-! ## What is passed over -/

/-- Of an error all is met that is looked at, and nothing else can be. -/
theorem met_error_iff (h : e.FoundInError err) : e.Met (.error err) ↔ ¬ e.PassesOver (.error err) := by
  -- There is no page, so nothing may be expected of one.
  have hpage {α : Type} {expected : Option α} {P : α → Compiled → Prop} :
      (∀ a ∈ expected, ∃ c, (Except.error err : Except CompileError Compiled) = .ok c ∧ P a c) ↔ expected = none := by
    cases expected <;> simp
  have hparts {P : String → Compiled → Prop} {parts : List String} :
      (∀ part ∈ parts, ∃ c, (Except.error err : Except CompileError Compiled) = .ok c ∧ P part c) ↔ parts = [] := by
    simp [List.eq_nil_iff_forall_not_mem]
  have hhint : (∀ part ∈ e.hint, ∃ hint, err.hint = some hint ∧ part.toList <:+: hint.toList) ↔
      ¬ (e.hint = some "" ∧ err.hint = none) := by
    have hfound := h.hint
    cases hwant : e.hint with
    | none => simp
    | some part =>
      simp only [hwant, Option.mem_def, Option.some.injEq, forall_eq'] at hfound ⊢
      cases hgot : err.hint with
      | some hint => simpa [hgot] using hfound
      | none => simpa [hgot] using hfound
  simp only [PassesOver, AsksPage, not_or, not_not, ← hhint]
  constructor
  · rintro ⟨-, -, -, hhint, h1, h2, h3, h4, h5, h6, h7⟩
    refine ⟨⟨hpage.1 h1, hpage.1 h2, hpage.1 h3, hpage.1 h4, hparts.1 h5, hparts.1 h6, hpage.1 h7⟩,
      fun part hpart => ?_⟩
    obtain ⟨err', hint, herr, hsome, hin⟩ := hhint part hpart
    cases herr
    exact ⟨hint, hsome, hin⟩
  · rintro ⟨⟨h1, h2, h3, h4, h5, h6, h7⟩, hhint⟩
    refine ⟨fun part hpart => ⟨err, rfl, h.part part hpart⟩, fun kind hkind => ⟨err, rfl, h.kind kind hkind⟩,
      fun line hline => ⟨err, rfl, h.line line hline⟩, fun part hpart => ?_, hpage.2 h1, hpage.2 h2, hpage.2 h3,
      hpage.2 h4, hparts.2 h5, hparts.2 h6, hpage.2 h7⟩
    obtain ⟨hint, hsome, hin⟩ := hhint part hpart
    exact ⟨err, hint, rfl, hsome, hin⟩

theorem forall₂_metBy_iff {blocks : List Block} {wants : List ExpectedBlock}
    (h : List.Forall₂ (fun b want => ExpectedBlock.FoundIn want b) blocks wants) :
    List.Forall₂ (fun b want => ExpectedBlock.MetBy want b) blocks wants ↔
      ¬ ∃ p ∈ blocks.zip wants, p.2.AsksPlainBlock p.1 := by
  rw [List.forall₂_iff_zip] at h ⊢
  simp only [not_exists, not_and, Prod.forall, ExpectedBlock.metBy_iff]
  exact ⟨fun hmet b want hmem => (hmet.2 hmem).2, fun hno => ⟨h.1, fun hmem => ⟨h.2 hmem, hno _ _ hmem⟩⟩⟩

/-- Of a page all is met that is looked at, and nothing else can be. -/
theorem met_page_iff (herror : e.error = none) (h : e.FoundInPage c) : e.Met (.ok c) ↔ ¬ e.PassesOver (.ok c) := by
  have hdetail {α : Type} {expected : Option α} {P : α → CompileError → Prop} :
      (∀ a ∈ expected, ∃ err, (Except.ok c : Except CompileError Compiled) = .error err ∧ P a err) ↔
        expected = none := by
    cases expected <;> simp
  have hblocks : (∀ wants ∈ e.blocks,
      List.Forall₂ (fun b want => ExpectedBlock.MetBy want b) c.page.blockSet.blocks wants) ↔
      ¬ ∃ wants ∈ e.blocks, ∃ p ∈ c.page.blockSet.blocks.zip wants, p.2.AsksPlainBlock p.1 := by
    rw [not_exists]
    refine forall_congr' fun wants => ?_
    rw [not_and]
    exact forall_congr' fun hwants => forall₂_metBy_iff (h.blocks wants hwants)
  simp only [PassesOver, AsksErrorDetail, not_or, not_not, ← hblocks]
  constructor
  · rintro ⟨-, h1, h2, h3, hblocks, -⟩
    refine ⟨⟨hdetail.1 h1, hdetail.1 h2, ?_⟩, fun wants hwants => ?_⟩
    · cases hhint : e.hint with
      | none => rfl
      | some part =>
        obtain ⟨err, hint, herr, -⟩ := h3 part hhint
        cases herr
    · obtain ⟨c', hc, hmet⟩ := hblocks wants hwants
      cases hc
      exact hmet
  · rintro ⟨⟨h1, h2, h3⟩, hblocks⟩
    exact ⟨by simp [herror], hdetail.2 h1, hdetail.2 h2, by simp [h3],
      fun wants hwants => ⟨c, rfl, hblocks wants hwants⟩,
      fun names hnames => ⟨c, rfl, h.sources names hnames ▸ (List.mergeSort_perm names _).symm⟩,
      fun tokens htokens => ⟨c, rfl, h.tokens tokens htokens⟩, fun kinds hkinds => ⟨c, rfl, h.imperatives kinds hkinds⟩,
      fun part hpart => ⟨c, rfl, h.htmlParts part hpart⟩, fun part hpart => ⟨c, rfl, h.htmlAbsent part hpart⟩,
      fun wants hwants => ⟨c, rfl, h.warnings wants hwants⟩⟩

/-- A check that finds no fault leaves nothing unmet but what it passes over. -/
theorem met_iff (h : e.Found result) : e.Met result ↔ ¬ e.PassesOver result := by
  cases result with
  | error err => exact met_error_iff h.2
  | ok c => exact met_page_iff h.1 h.2

end Expectations

/-! ## Tests -/

/-- A test whose header can be read compiles its document and checks the expectations. -/
theorem runTest_eq_some {path content document : String} {e : Expectations} {r : TestResult}
    (hsplit : splitTest content = .ok (e, document)) (hrun : runTest path (.ok content) = some r) :
    ∃ result : Except CompileError Compiled, compile document path {} = result.mapError .error ∧
      (r.outcome = .pass ↔ e.check result = none) := by
  simp only [runTest, hsplit] at hrun
  cases hcompile : compile document path {} with
  | ok compiled =>
    rw [hcompile, Option.some.injEq] at hrun
    subst hrun
    refine ⟨.ok compiled, rfl, ?_⟩
    cases e.check (.ok compiled) <;> simp
  | error failure =>
    cases failure with
    | noScan => rw [hcompile] at hrun; cases hrun
    | error err =>
      rw [hcompile, Option.some.injEq] at hrun
      subst hrun
      refine ⟨.error err, rfl, ?_⟩
      cases e.check (.error err) <;> simp

/-- **What a passing test shows.** A test whose header can be read passes just where all is found that it looks at in
what its document compiles to. Then all its expectations are met if and only if it passes over none of them. -/
theorem passes_met_iff {path content document : String} {e : Expectations} {r : TestResult}
    (hsplit : splitTest content = .ok (e, document)) (hrun : runTest path (.ok content) = some r) :
    ∃ result : Except CompileError Compiled, compile document path {} = result.mapError .error ∧
      (r.outcome = .pass ↔ e.Found result) ∧ (r.outcome = .pass → (e.Met result ↔ ¬ e.PassesOver result)) := by
  obtain ⟨result, hresult, hpass⟩ := runTest_eq_some hsplit hrun
  have hfound := hpass.trans Expectations.check_eq_none_iff
  exact ⟨result, hresult, hfound, fun h => Expectations.met_iff (hfound.1 h)⟩

/-- A test that expects one server block on the first line of its document. -/
def serverTest : String :=
  "+++\nexpect_blocks = [\x7b id = \"server-0\", type = \"server\", line = 1 \x7d]\n+++\n```go server\n```\n"

/-- It passes, and its page has the block. -/
theorem serverTest_met :
    splitTest serverTest =
      .ok ({ blocks := some [{ id := "server-0", type := "server", line := some 1 }] }, "```go server\n```\n") ∧
    runTest "a.test.md" (.ok serverTest) = some ⟨"a.test.md", none, .pass⟩ ∧
    ∃ result : Except CompileError Compiled, compile "```go server\n```\n" "a.test.md" {} = result.mapError .error ∧
      Expectations.Met { blocks := some [{ id := "server-0", type := "server", line := some 1 }] } result := by
  have hsplit : splitTest serverTest =
      .ok ({ blocks := some [{ id := "server-0", type := "server", line := some 1 }] }, "```go server\n```\n") := by
    decide +kernel
  have hrun : runTest "a.test.md" (.ok serverTest) = some ⟨"a.test.md", none, .pass⟩ := by decide +kernel
  obtain ⟨result, hresult, hfound, hmet⟩ := passes_met_iff hsplit hrun
  refine ⟨hsplit, hrun, result, hresult, (hmet rfl).2 ?_⟩
  cases result with
  | error err => exact absurd rfl (hfound.1 rfl).1
  | ok c =>
    rintro (hdetail | ⟨wants, hwants, p, hp, hplain⟩)
    · simp [Expectations.AsksErrorDetail] at hdetail
    · obtain rfl := Option.some.inj hwants
      have hwant := List.mem_singleton.1 (List.of_mem_zip hp).2
      simp [ExpectedBlock.AsksPlainBlock, hwant] at hplain

/-- A test that expects an error on a line, and no part of its message. -/
def errorLineTest : String := "+++\nexpect_error_line = 5\n+++\n# A\n"

/-- A test that expects a state of a server block. -/
def serverStateTest : String :=
  "+++\nexpect_blocks = [\x7b id = \"server-0\", type = \"server\", state = \"nope\" \x7d]\n+++\n```go server\n```\n"

/-- Both tests pass. But the first document compiles, so there is no error on any line, and a server block has no
state. -/
theorem passed_over :
    (runTest "a.test.md" (.ok errorLineTest) = some ⟨"a.test.md", none, .pass⟩ ∧
      ∃ result : Except CompileError Compiled, compile "# A\n" "a.test.md" {} = result.mapError .error ∧
        ¬ Expectations.Met { errorLine := some 5 } result) ∧
    runTest "a.test.md" (.ok serverStateTest) = some ⟨"a.test.md", none, .pass⟩ ∧
      ∃ result : Except CompileError Compiled, compile "```go server\n```\n" "a.test.md" {} = result.mapError .error ∧
        ¬ Expectations.Met { blocks := some [{ id := "server-0", type := "server", state := some "nope" }] }
          result := by
  have hline : runTest "a.test.md" (.ok errorLineTest) = some ⟨"a.test.md", none, .pass⟩ := by decide +kernel
  have hstate : runTest "a.test.md" (.ok serverStateTest) = some ⟨"a.test.md", none, .pass⟩ := by decide +kernel
  refine ⟨⟨hline, ?_⟩, hstate, ?_⟩
  · have hsplit : splitTest errorLineTest = .ok ({ errorLine := some 5 }, "# A\n") := by decide +kernel
    obtain ⟨result, hresult, hpass⟩ := runTest_eq_some hsplit hline
    have hfound := Expectations.check_eq_none_iff.1 (hpass.1 rfl)
    refine ⟨result, hresult, fun hmet => ?_⟩
    obtain ⟨err, rfl, -⟩ := hmet.errorLine 5 rfl
    exact hfound.1 rfl
  · have hsplit : splitTest serverStateTest =
        .ok ({ blocks := some [{ id := "server-0", type := "server", state := some "nope" }] },
          "```go server\n```\n") := by decide +kernel
    obtain ⟨result, hresult, -⟩ := runTest_eq_some hsplit hstate
    refine ⟨result, hresult, fun hmet => ?_⟩
    obtain ⟨c, -, hblocks⟩ := hmet.blocks _ rfl
    obtain ⟨b, -, hb, -, -⟩ := List.forall₂_cons_right_iff.1 hblocks
    obtain ⟨i, hi, -⟩ := hb.state "nope" rfl
    have htype := hb.type
    cases b with
    | interactive i => exact absurd htype (by simp [Block.type, BlockType.name])
    | _ => cases hi

end LivePage
