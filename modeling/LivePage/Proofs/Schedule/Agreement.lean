import LivePage.Proofs.Schedule.Form
import Mathlib.Data.List.Sort
/-!
# What a scan finds and what it reads agree

A scan finds tokens at the at signs of a line, and imperatives look for theirs among its words. The token of an
imperative is one that the scan found; a malformed one has one warning, whoever comes across it; and what an imperative
warns about are other tokens that the scan found, each once.
-/
namespace LivePage

open Text

/-- What is found at the candidates of masked lines, the first of which starts at a byte of the body. -/
def findings (lines : LineMap) : Nat → List (List Char) → List Finding
  | _, [] => []
  | start, line :: rest => (tokenSpans none 0 (dropLineEnd line)).map (.ofCandidate (lines.lineOf start)) ++
      findings lines (start + byteLength line) rest

/-- Whether a warning is that a token comes too late to be used. -/
def ScheduleWarning.isRepeat (w : ScheduleWarning) : Bool :=
  w.message == "multiple schedule tokens in imperative; only the first is used"

/-- The tokens, imperatives and warnings of a scan agree about what is found. -/
structure ScanResult.Agrees (found : List Finding) (r : ScanResult) : Prop where
  tokens : r.tokens = found.filterMap (·.token?)
  /-- The token of an imperative is one of the tokens. -/
  used : ∀ imperative ∈ r.imperatives, ∀ t, imperative.token = some t → t ∈ r.tokens
  /-- Every malformed candidate has one warning. -/
  malformed : r.warnings.filter (!·.isRepeat) = found.filterMap (·.malformed?)
  /-- The other warnings are about tokens, no two about the same. -/
  late : ∃ late : List ScheduleToken, late.Sublist r.tokens ∧ r.warnings.filter (·.isRepeat) = late.map (·.repeatWarning)

theorem ScanResult.Agrees.append {found later : List Finding} {a b : ScanResult} (ha : a.Agrees found)
    (hb : b.Agrees later) : (a.append b).Agrees (found ++ later) := by
  obtain ⟨lateA, hsubA, hlateA⟩ := ha.late
  obtain ⟨lateB, hsubB, hlateB⟩ := hb.late
  constructor
  case tokens => rw [ScanResult.append, ha.tokens, hb.tokens, List.filterMap_append]
  case used =>
    intro imperative himperative t ht
    rcases List.mem_append.1 himperative with hmem | hmem
    · exact List.mem_append_left _ (ha.used imperative hmem t ht)
    · exact List.mem_append_right _ (hb.used imperative hmem t ht)
  case malformed => rw [ScanResult.append, List.filter_append, ha.malformed, hb.malformed, List.filterMap_append]
  case late =>
    exact ⟨lateA ++ lateB, hsubA.append hsubB, by rw [ScanResult.append, List.filter_append, hlateA, hlateB, List.map_append]⟩

/-! ## Warnings of two kinds -/

theorem head?_message (fault : TokenFault) : fault.message.toList.head? ≠ some 'm' := by
  have happend {start rest : String} (h : start.toList.head? ≠ some 'm') (hne : start.toList.head?.isSome = true) :
      (start ++ rest).toList.head? ≠ some 'm' := by
    rw [String.toList_append, List.head?_append_of_ne_nil _ (by rintro heq; simp [heq] at hne)]
    exact h
  cases fault with
  | missingAt => decide +kernel
  | empty => decide +kernel
  | unrecognized token =>
    change ("unrecognized schedule token `" ++ token ++ "`").toList.head? ≠ some 'm'
    rw [String.append_assoc]
    exact happend (by decide +kernel) (by decide +kernel)
  | invalid token what =>
    change ("invalid " ++ what ++ " in schedule token `" ++ token ++ "`").toList.head? ≠ some 'm'
    rw [String.append_assoc, String.append_assoc, String.append_assoc]
    exact happend (by decide +kernel) (by decide +kernel)

/-- The messages about malformed tokens start with other letters. -/
theorem isRepeat_malformed (raw : String) (line column : Nat) (fault : TokenFault) :
    (⟨raw, line, column, fault.message⟩ : ScheduleWarning).isRepeat = false := by
  rw [ScheduleWarning.isRepeat, beq_eq_false_iff_ne]
  intro heq
  refine head?_message fault ?_
  rw [show fault.message = _ from heq]
  decide +kernel

theorem isRepeat_repeatWarning (t : ScheduleToken) : t.repeatWarning.isRepeat = true := beq_self_eq_true _

theorem Finding.malformed?_isRepeat {line : Nat} {w : PlacedWord} {x : ScheduleWarning}
    (h : (Finding.ofCandidate line w).malformed? = some x) : x.isRepeat = false := by
  unfold Finding.ofCandidate at h
  split at h
  · cases h
  · obtain rfl := Option.some.inj h
    exact isRepeat_malformed ..

/-! ## One line -/

section
variable {ranges : List Span} {i line : Nat} {masked unmasked : List Char}

/-- The token of a word is what is found at its piece of a token. -/
theorem PlacedWord.token?_tokenPiece (w : PlacedWord) (line : Nat) :
    (Finding.ofCandidate line w.tokenPiece).token? = w.token? line := by
  unfold Finding.ofCandidate PlacedWord.token? PlacedWord.schedule? PlacedWord.tokenPiece
  dsimp only
  cases Schedule.parseToken (String.ofList (tokenText w.text)) <;> rfl

/-- The words with an at sign, all but signs alone, are candidates of the line, in the same order. -/
theorem tokenPieces_sublist (masked : List Char) :
    (((Imperative.form masked).words.filter fun w => w.isToken && !w.isLoneSign).map (·.tokenPiece)).Sublist
      (tokenSpans none 0 masked) := by
  have hascending : (((Imperative.form masked).words.filter fun w => w.isToken && !w.isLoneSign).map
      (·.tokenPiece)).Pairwise fun a b => a.start < b.start :=
    List.pairwise_map.2 ((Imperative.ascending_words masked).sublist List.filter_sublist)
  refine List.sublist_of_subperm_of_pairwise ?_ hascending (sorted_tokenSpans none 0 masked)
  refine List.subperm_of_subset (hascending.imp fun hlt heq => ?_) fun piece hpiece => ?_
  · exact absurd hlt (by rw [heq]; exact Nat.lt_irrefl _)
  · obtain ⟨w, hw, rfl⟩ := List.mem_map.1 hpiece
    obtain ⟨hword, hsign⟩ := List.mem_filter.1 hw
    rw [Bool.and_eq_true, Bool.not_eq_true'] at hsign
    exact (Imperative.standsApart_of_mem_words hword).mem_tokenSpans hsign.1 hsign.2

theorem tokens_sublist (masked : List Char) (line : Nat) :
    (((Imperative.form masked).words.filter (·.isToken)).filterMap (·.token? line)).Sublist
      (((tokenSpans none 0 masked).map (Finding.ofCandidate line)).filterMap Finding.token?) := by
  have hsame : ((Imperative.form masked).words.filter (·.isToken)).filterMap (·.token? line) =
      ((((Imperative.form masked).words.filter fun w => w.isToken && !w.isLoneSign).map (·.tokenPiece)).map
        (Finding.ofCandidate line)).filterMap Finding.token? := by
    rw [List.map_map, List.filterMap_map, List.filterMap_filter, List.filterMap_filter]
    congr 1
    funext w
    cases hlone : w.isLoneSign with
    | true => simp [PlacedWord.token?_eq_none_of_isLoneSign hlone]
    | false => simp [PlacedWord.token?_tokenPiece]
  rw [hsame]
  exact ((tokenPieces_sublist masked).map _).filterMap _

/-- **On a line all agree** about the candidates of the masked line. -/
theorem agrees_scanLine? (h : Mask.Masks ranges i masked unmasked) {r : ScanResult}
    (hr : scanLine? masked unmasked line = some r) : r.Agrees ((tokenSpans none 0 masked).map (.ofCandidate line)) := by
  rw [scanLine?_eq, Imperative.parseLine?_eq_read h, Imperative.Form.read, Option.map_map] at hr
  obtain ⟨action, -, rfl⟩ := Option.map_eq_some_iff.1 hr
  have hwords := tokens_sublist masked line
  have hmalformed : ∀ x ∈ ((tokenSpans none 0 masked).map (Finding.ofCandidate line)).filterMap (·.malformed?),
      x.isRepeat = false := by
    intro x hx
    obtain ⟨f, hf, hx⟩ := List.mem_filterMap.1 hx
    obtain ⟨w, -, rfl⟩ := List.mem_map.1 hf
    exact Finding.malformed?_isRepeat hx
  have hlate (ts : List ScheduleToken) : ∀ x ∈ ts.map (·.repeatWarning), x.isRepeat = true := by
    intro x hx
    obtain ⟨t, -, rfl⟩ := List.mem_map.1 hx
    exact isRepeat_repeatWarning t
  constructor
  case tokens => rfl
  case used =>
    intro imperative himperative t ht
    obtain ⟨_, -, rfl⟩ := Option.map_eq_some_iff.1 (Option.mem_toList.1 himperative)
    obtain ⟨w, hw, htoken⟩ := Option.bind_eq_some_iff.1 ht
    obtain ⟨hword, hsign⟩ := Imperative.Form.tokenWord?_spec hw
    exact hwords.mem (List.mem_filterMap.2 ⟨w, List.mem_filter.2 ⟨hword, hsign⟩, htoken⟩)
  case malformed =>
    change List.filter _ (_ ++ _) = _
    rw [List.filter_append, List.filter_eq_self.2 fun x hx => by rw [hmalformed x hx, Bool.not_false],
      List.filter_eq_nil_iff.2 fun x hx => by rw [hlate _ x hx]; decide, List.append_nil]
  case late =>
    refine ⟨((Imperative.form masked).repeated (·.isToken)).filterMap (·.token? line),
      (((Imperative.form masked).repeated_sublist _).filterMap _).trans hwords, ?_⟩
    change List.filter _ (_ ++ _) = _
    rw [List.filter_append, List.filter_eq_nil_iff.2 fun x hx => by rw [hmalformed x hx]; decide,
      List.filter_eq_self.2 (hlate _), List.nil_append]

end

/-! ## Bodies -/

section
variable {ranges : List Span} {lines : LineMap} {i : Nat} {r : ScanResult}

theorem agrees_scanLines? {pairs : List (List Char × List Char)}
    (h : ∀ p ∈ pairs, ∃ used start, Mask.Masks used start (dropLineEnd p.1) (dropLineEnd p.2))
    (hr : scanLines? lines i pairs = some r) : r.Agrees (findings lines i (pairs.map (·.1))) := by
  induction pairs generalizing i r with
  | nil =>
    obtain rfl := Option.some.inj hr
    exact ⟨rfl, by simp, rfl, [], .slnil, rfl⟩
  | cons p rest ih =>
    simp only [scanLines?, Option.bind_eq_bind, Option.bind_eq_some_iff] at hr
    obtain ⟨here, hhere, later, hlater, hr⟩ := hr
    obtain rfl := Option.some.inj hr
    obtain ⟨used, start, hmasks⟩ := h p List.mem_cons_self
    exact (agrees_scanLine? hmasks hhere).append (ih (fun q hq => h q (List.mem_cons_of_mem _ hq)) hlater)

/-- **A scan agrees about the candidates of all lines of the masked body**, whatever ranges were to be skipped. -/
theorem agrees_scan? {body : String} (h : scan? body ranges lines = some r) :
    r.Agrees (findings lines 0 (linesWithEnds (Mask.apply ranges body.toList))) := by
  obtain ⟨used, -, hmasks⟩ := Mask.exists_masks_apply ranges body.toList
  have hlines : (linePairs ranges body.toList).map (·.1) = linesWithEnds (Mask.apply ranges body.toList) :=
    List.map_fst_zip hmasks.lines.length_eq.le
  rw [← hlines]
  refine agrees_scanLines? (fun p hp => ?_) (scanLines?_of_scan? h)
  obtain ⟨used, -, start, hp⟩ := exists_masks_of_mem_linePairs hp
  exact ⟨used, start, hp⟩

end

/-- Two imperatives with code, brackets, and tokens that are used, malformed, escaped, glued or late. -/
def lateTokens : String := "> Notify @mon. (see `@9am` @25) \\@tue @wed,\n- Run action:x @ @fri;@sat @in:5m!\n"

theorem lateTokens_agree :
    let ranges : List Span := [⟨20, 26⟩]
    let lines := LineMap.identity lateTokens 1
    ∃ r, scan? lateTokens ranges lines = some r ∧
      r.tokens.map (·.mention) = [⟨"@mon", 1, 10⟩, ⟨"@wed", 1, 39⟩, ⟨"@fri", 2, 18⟩, ⟨"@sat", 2, 23⟩, ⟨"@in:5m", 2, 28⟩] ∧
      r.imperatives.map (·.token.map (·.mention)) = [some ⟨"@mon", 1, 10⟩, none] ∧
      r.warnings.map (·.mention) = [⟨"@25", 1, 28⟩, ⟨"@wed", 1, 39⟩, ⟨"@fri", 2, 18⟩, ⟨"@in:5m", 2, 28⟩] ∧
      r.Agrees (findings lines 0 (linesWithEnds (Mask.apply ranges lateTokens.toList))) := by
  intro ranges lines
  have hscan : (scan? lateTokens ranges lines).map (fun r => (r.tokens.map (·.mention),
      r.imperatives.map (·.token.map (·.mention)), r.warnings.map (·.mention))) =
      some ([⟨"@mon", 1, 10⟩, ⟨"@wed", 1, 39⟩, ⟨"@fri", 2, 18⟩, ⟨"@sat", 2, 23⟩, ⟨"@in:5m", 2, 28⟩],
        [some ⟨"@mon", 1, 10⟩, none], [⟨"@25", 1, 28⟩, ⟨"@wed", 1, 39⟩, ⟨"@fri", 2, 18⟩, ⟨"@in:5m", 2, 28⟩]) := by
    decide +kernel
  obtain ⟨r, hr, hmentions⟩ := Option.map_eq_some_iff.1 hscan
  obtain ⟨htokens, hrest⟩ := Prod.mk.inj hmentions
  obtain ⟨himperatives, hwarnings⟩ := Prod.mk.inj hrest
  exact ⟨r, hr, htokens, himperatives, hwarnings, agrees_scan? hr⟩

end LivePage
