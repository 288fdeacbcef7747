import LivePage.Proofs.Schedule.Exact
import LivePage.Proofs.Schedule.Word
/-!
# What a line reads like

After its markers a masked line is a notification, the run of an action, or prose. Which of its words count as tokens is
one rule; what is read by it is another matter, and is the same for all rules: the word that says when, the words that
are tokens too late, and what is said. The parser's rule is that a word counts when it starts with an at sign.
-/
namespace LivePage

open Text

/-- The warning that a token of an imperative comes too late to be used. -/
def ScheduleToken.repeatWarning (t : ScheduleToken) : ScheduleWarning :=
  ⟨t.raw, t.line, t.column, "multiple schedule tokens in imperative; only the first is used"⟩

theorem PlacedWord.flatMap_extraWarning (ws : List PlacedWord) (line : Nat) : ws.flatMap (·.extraWarning line) =
    ((ws.filter (·.isToken)).filterMap (·.token? line)).map (·.repeatWarning) := by
  induction ws with
  | nil => rfl
  | cons w ws ih =>
    rw [List.flatMap_cons, ih, extraWarning]
    cases hsign : w.isToken with
    | false => simp [hsign]
    | true => cases hs : w.schedule? <;> simp [hsign, token?, hs, ScheduleToken.repeatWarning]

namespace Imperative

/-! ## Forms -/

/-- What a masked line reads like after its markers: the byte offset after the keyword, and the words from there on. -/
inductive Form where
  | notification (start : Nat) (ws : List PlacedWord)
  | run (start : Nat) (ws : List PlacedWord)
  | prose
deriving DecidableEq, Repr

/-- What a masked line reads like. -/
def form (masked : List Char) : Form :=
  let (start, rest) := skipMarkers 0 masked
  match dropPrefix? notifyKeyword rest, dropPrefix? runKeyword rest with
  | some tail, _ => .notification (start + notifyKeyword.length) (PlacedWord.list (start + notifyKeyword.length) tail)
  | none, some tail => .run (start + runKeyword.length) (PlacedWord.list (start + runKeyword.length) tail)
  | none, none => .prose

/-- The line goes on after its markers with a keyword, and then with these words from a byte offset. -/
def GoesOn (masked keyword : List Char) (start : Nat) (ws : List PlacedWord) : Prop :=
  ∃ lead tail, masked = lead ++ keyword ++ tail ∧ skipMarkers 0 masked = (byteLength lead, keyword ++ tail) ∧
    byteLength (lead ++ keyword) = start ∧ ws = PlacedWord.list start tail

/-- A masked line has the form of what it goes on with. -/
theorem form_spec (masked : List Char) : match form masked with
    | .notification start ws => GoesOn masked notifyKeyword start ws
    | .run start ws => GoesOn masked runKeyword start ws
    | .prose => ∀ tail, (skipMarkers 0 masked).2 ≠ notifyKeyword ++ tail ∧ (skipMarkers 0 masked).2 ≠ runKeyword ++ tail := by
  obtain ⟨lead, hmasked, hlead⟩ := skipMarkers_spec 0 masked
  rw [Nat.zero_add] at hlead
  have hgoesOn {keyword tail : List Char} (hbytes : byteLength keyword = keyword.length)
      (hrest : (skipMarkers 0 masked).2 = keyword ++ tail) : GoesOn masked keyword
        ((skipMarkers 0 masked).1 + keyword.length) (PlacedWord.list ((skipMarkers 0 masked).1 + keyword.length) tail) := by
    refine ⟨lead, tail, ?_, Prod.ext hlead.symm hrest, ?_, rfl⟩
    · rw [List.append_assoc, ← hrest, ← hmasked]
    · rw [byteLength_append, hlead, hbytes]
  unfold form
  dsimp only
  cases hnotify : dropPrefix? notifyKeyword (skipMarkers 0 masked).2 with
  | some tail => exact hgoesOn (by decide) (dropPrefix?_eq_some hnotify)
  | none =>
    cases hrun : dropPrefix? runKeyword (skipMarkers 0 masked).2 with
    | some tail => exact hgoesOn (by decide) (dropPrefix?_eq_some hrun)
    | none =>
      refine fun tail => ⟨fun heq => ?_, fun heq => ?_⟩
      · rw [heq, dropPrefix?_append] at hnotify
        cases hnotify
      · rw [heq, dropPrefix?_append] at hrun
        cases hrun

/-! ## Readings -/

namespace Form

variable (counts : PlacedWord → Bool)

/-- The words among which tokens are looked for: after the keyword, or after the name of the action. -/
def words : Form → List PlacedWord
  | notification _ ws => ws
  | run _ ws => ws.tail
  | prose => []

/-- The word that says when: the first word of a notification, or the first of a run that counts as a token. -/
def tokenWord? : Form → Option PlacedWord
  | notification _ ws => ws.head?.filter counts
  | run _ ws => ws.tail.find? counts
  | prose => none

/-- The other words that count as tokens. -/
def repeated : Form → List PlacedWord
  | notification _ ws => (if (ws.head?.filter counts).isSome then ws.tail else ws).filter counts
  | run _ ws => (ws.tail.filter counts).tail
  | prose => []

/-- What is said: all of the line as written that comes after the word that says when, or after the keyword, or the words
other than that word. There is no answer if it would start inside a character. -/
def action? (unmasked : List Char) : Form → Option (Option ImperativeAction)
  | notification start ws =>
    (dropBytes? unmasked (((ws.head?.filter counts).map (·.stop)).getD start)).map fun rest =>
      some (.notify (String.ofList (trim rest)))
  | run _ [] => some none
  | run _ (name :: rest) =>
    some (some (.runAction (String.ofList name.text) ((rest.eraseP counts).map fun w => String.ofList w.text)))
  | prose => some none

/-- What a line gives when it is read with a rule for the words that count as tokens. A notification that says nothing, at
no time, is none. -/
def read (unmasked : List Char) (line : Nat) (f : Form) : Option (Option Imperative × List ScheduleWarning) :=
  let token := (f.tokenWord? counts).bind (·.token? line)
  (f.action? counts unmasked).map fun action =>
    ((action.filter fun a => a ≠ .notify "" ∨ token.isSome).map fun a => ⟨a, token, line, String.ofList (trim unmasked)⟩,
      ((f.repeated counts).filterMap (·.token? line)).map (·.repeatWarning))

theorem repeated_sublist (f : Form) : (f.repeated counts).Sublist (f.words.filter counts) := by
  cases f with
  | notification start ws =>
    refine List.Sublist.filter _ ?_
    split_ifs
    · exact List.tail_sublist ws
    · exact .refl ws
  | run start ws => exact List.tail_sublist _
  | prose => exact .slnil

variable {counts}

theorem tokenWord?_spec {f : Form} {w : PlacedWord} (h : f.tokenWord? counts = some w) : w ∈ f.words ∧ counts w = true := by
  cases f with
  | notification start ws =>
    obtain ⟨hhead, hcounts⟩ := Option.filter_eq_some_iff.1 h
    exact ⟨List.mem_of_head? hhead, hcounts⟩
  | run start ws => exact ⟨List.mem_of_find?_eq_some h, List.find?_some h⟩
  | prose => cases h

/-- The first word that counts as a token is cut out of the others. -/
theorem first_spec {w : PlacedWord} {first : List PlacedWord} (hfirst : ∀ v ∈ first, counts v = false) (hw : counts w = true)
    (last : List PlacedWord) :
    (first ++ w :: last).find? counts = some w ∧ (first ++ w :: last).eraseP counts = first ++ last ∧
      ((first ++ w :: last).filter counts).tail = last.filter counts := by
  refine ⟨?_, ?_, ?_⟩
  · rw [List.find?_append, List.find?_eq_none.2 fun v hv => by rw [hfirst v hv]; decide, List.find?_cons_of_pos hw]
    rfl
  · rw [List.eraseP_append_right _ fun v hv => by rw [hfirst v hv]; decide, List.eraseP_cons_of_pos hw]
  · rw [List.filter_append, List.filter_eq_nil_iff.2 fun v hv => by rw [hfirst v hv]; decide, List.nil_append,
      List.filter_cons_of_pos hw, List.tail_cons]

/-- No word counts, and none is cut out. -/
theorem none_spec {ws : List PlacedWord} (h : ∀ w ∈ ws, counts w = false) :
    ws.find? counts = none ∧ ws.eraseP counts = ws ∧ ws.filter counts = [] :=
  ⟨List.find?_eq_none.2 fun w hw => by rw [h w hw]; decide, List.eraseP_of_forall_not fun w hw => by rw [h w hw]; decide,
    List.filter_eq_nil_iff.2 fun w hw => by rw [h w hw]; decide⟩

/-- An imperative that is read says what its line says. -/
theorem action?_of_read {f : Form} {unmasked : List Char} {line : Nat} {imperative : Imperative} {extra : List ScheduleWarning}
    (h : f.read counts unmasked line = some (some imperative, extra)) :
    f.action? counts unmasked = some (some imperative.action) := by
  obtain ⟨said, hsaid, heq⟩ := Option.map_eq_some_iff.1 h
  obtain ⟨action, haction, rfl⟩ := Option.map_eq_some_iff.1 (Prod.mk.inj heq).1
  rw [hsaid, (Option.filter_eq_some_iff.1 haction).1]

end Form

/-! ## The parser's rule -/

section
variable {masked unmasked : List Char} {line start i : Nat} {ws rest : List PlacedWord} {ranges : List Span}

theorem lead?_eq (ws : List PlacedWord) : lead? ws = ws.head?.filter (·.isToken) := by
  cases ws with
  | nil => rfl
  | cons w rest => cases hw : w.isToken <;> simp [lead?, hw, Option.filter]

/-- A notification is read by the rule that a word with an at sign counts. -/
theorem notify?_eq_read : (notify? unmasked start ws line).map (ofResult unmasked line) =
    (Form.notification start ws).read (·.isToken) unmasked line := by
  rw [notify?_eq, messageStart, Form.read, Form.action?, Form.tokenWord?, Form.repeated, lead?_eq]
  cases dropBytes? unmasked (((ws.head?.filter (·.isToken)).map (·.stop)).getD start) with
  | none => rfl
  | some rest =>
    simp only [Option.map_some, notification, lead?_eq, PlacedWord.flatMap_extraWarning, ofResult]
    generalize (Option.filter (·.isToken) ws.head?).bind (·.token? line) = token
    generalize String.ofList (trim rest) = message
    have hkept : (ImperativeAction.notify message ≠ .notify "" ∨ token.isSome = true) ↔
        ¬ (message.isEmpty = true ∧ token.isNone = true) := by
      rw [not_and_or, String.isEmpty_iff, Option.isNone_iff_eq_none, ← Ne, ← Ne, ← Option.isSome_iff_ne_none]
      exact or_congr_left (not_congr (ImperativeAction.notify.injEq ..).to_iff)
    by_cases hempty : message.isEmpty = true ∧ token.isNone = true
    · rw [if_pos hempty, Option.filter_some_neg (by rw [decide_eq_false_iff_not, hkept, not_not]; exact hempty)]
      rfl
    · rw [if_neg hempty, Option.filter_some_pos (by rw [decide_eq_true_eq, hkept]; exact hempty)]
      rfl

theorem filter_dropWhile_not {p : PlacedWord → Bool} (ws : List PlacedWord) :
    (ws.dropWhile (!p ·)).tail.filter p = (ws.filter p).tail := by
  induction ws with
  | nil => rfl
  | cons w ws ih => cases hw : p w <;> simp [hw, ih]

theorem takeWhile_append_tail {p : PlacedWord → Bool} (ws : List PlacedWord) :
    ws.takeWhile (!p ·) ++ (ws.dropWhile (!p ·)).tail = ws.eraseP p := by
  induction ws with
  | nil => rfl
  | cons w ws ih => cases hw : p w <;> simp [hw, ih]

/-- The run of an action is read by the rule that a word with an at sign counts. -/
theorem runAction?_eq_read (h : ∀ w ∈ ws, sliceBytes? unmasked w.start (byteLength w.text) = some w.text) :
    (runAction? unmasked ws line).map (ofResult unmasked line) = (Form.run start ws).read (·.isToken) unmasked line := by
  cases ws with
  | nil => rfl
  | cons name rest =>
    have htext {l : List PlacedWord} (hl : ∀ w ∈ l, w ∈ rest) :
        (l.mapM fun w => (sliceBytes? unmasked w.start (byteLength w.text)).map String.ofList) =
          some (l.map fun w => String.ofList w.text) :=
      mapM_eq_some_iff.2 <| List.forall₂_map_right_iff.2 <| List.forall₂_same.2 fun w hw => by
        rw [h w (List.mem_cons_of_mem _ (hl w hw)), Option.map_some]
    have hbefore : ∀ w ∈ rest.takeWhile (!·.isToken), w ∈ rest := fun w hw => (List.takeWhile_prefix _).mem hw
    have hrest := List.dropWhile_suffix (!·.isToken) (l := rest)
    unfold runAction?
    simp only [h name List.mem_cons_self, Option.map_some, Option.bind_eq_bind, Option.bind_some, Form.read,
      Form.action?, Form.tokenWord?, Form.repeated, List.tail_cons, List.find?_eq_head?_dropWhile_not,
      ← filter_dropWhile_not, ← takeWhile_append_tail]
    cases hfirst : rest.dropWhile (!·.isToken) with
    | nil => simp [htext hbefore, ofResult, Option.filter_some]
    | cons first others =>
      have hothers : ∀ w ∈ others, w ∈ rest := fun w hw => hrest.mem (hfirst ▸ List.mem_cons_of_mem _ hw)
      have hargs := htext (l := rest.takeWhile (!·.isToken) ++ others) fun w hw =>
        (List.mem_append.1 hw).elim (hbefore w) (hothers w)
      simp only [hargs, List.head?_cons, List.tail_cons, Option.bind_some, Option.pure_def, Option.map_some, ofResult,
        PlacedWord.flatMap_extraWarning]
      rfl

/-- **The parser's rule**: a word counts as a token when it starts with an at sign. -/
theorem parseLine?_eq_read (h : Mask.Masks ranges i masked unmasked) (line : Nat) :
    parseLine? masked unmasked line = (form masked).read (·.isToken) unmasked line := by
  have hform := form_spec masked
  unfold parseLine?
  unfold form at hform ⊢
  dsimp only at hform ⊢
  cases hnotify : dropPrefix? notifyKeyword (skipMarkers 0 masked).2 with
  | some tail => rw [← notify?_eq_read, Option.map_eq_bind]; rfl
  | none =>
    cases hrun : dropPrefix? runKeyword (skipMarkers 0 masked).2 with
    | some tail =>
      have hwords (w : PlacedWord) (hw : w ∈ PlacedWord.list ((skipMarkers 0 masked).1 + runKeyword.length) tail) :=
        ((isIn_of_mem_words (by decide) (dropPrefix?_eq_some hrun) hw).unmask h).slice
      rw [← runAction?_eq_read hwords, Option.map_eq_bind]
      rfl
    | none => rfl

/-! ## The words of a form -/

theorem GoesOn.spaced {keyword : List Char} (h : GoesOn masked keyword start ws) :
    ∃ before tail, masked = before ++ tail ∧ byteLength before = start ∧
      before.getLast? = keyword.getLast?.or before.getLast? ∧ PlacedWord.Spaced start tail ws := by
  obtain ⟨lead, tail, rfl, -, hstart, rfl⟩ := h
  refine ⟨lead ++ keyword, tail, rfl, hstart, ?_, PlacedWord.spaced_list start tail⟩
  rw [List.getLast?_append]
  cases keyword.getLast? <;> simp

theorem standsApart_of_mem_words {w : PlacedWord} (hw : w ∈ (form masked).words) : w.StandsApart masked := by
  have hform := form_spec masked
  cases hf : form masked with
  | notification start ws =>
    rw [hf] at hw hform
    obtain ⟨before, tail, rfl, hstart, hlast, hspaced⟩ := GoesOn.spaced hform
    refine hspaced.standsApart hstart (.inl ?_) hw
    rw [hlast, show notifyKeyword.getLast? = some ' ' by decide]
    exact show isBlank ' ' = true by decide
  | run start ws =>
    rw [hf] at hw hform
    obtain ⟨before, tail, rfl, hstart, -, hspaced⟩ := GoesOn.spaced hform
    cases hspaced with
    | blank => cases hw
    | @word _ gap name rest _ hgap _ _ hrest h =>
      have happart : w.StandsApart (before ++ gap ++ name ++ rest) :=
        h.standsApart (by simp [hstart, Nat.add_assoc]) (.inr hrest) hw
      simpa using happart
  | prose =>
    rw [hf] at hw
    cases hw

theorem ascending_words (masked : List Char) : (form masked).words.Pairwise fun a b => a.start < b.start := by
  have hform := form_spec masked
  cases hf : form masked with
  | notification start ws =>
    rw [hf] at hform
    obtain ⟨before, tail, -, -, -, hspaced⟩ := GoesOn.spaced hform
    exact hspaced.ascending
  | run start ws =>
    rw [hf] at hform
    obtain ⟨before, tail, -, -, -, hspaced⟩ := GoesOn.spaced hform
    exact hspaced.ascending.sublist (List.tail_sublist ws)
  | prose => exact .nil

end

end Imperative

/-! ## Lines of bodies -/

section
variable {ranges : List Span} {lines : LineMap} {imperative : Imperative} {r : ScanResult} {i : Nat}

/-- Whatever the ranges, a line of the masked body masks the line of the body beside it. -/
theorem exists_masks_of_mem_linePairs {cs : List Char} {p : List Char × List Char} (hp : p ∈ linePairs ranges cs) :
    ∃ used ⊆ ranges, ∃ start, Mask.Masks used start (dropLineEnd p.1) (dropLineEnd p.2) := by
  obtain ⟨used, hused, hmasks⟩ := Mask.exists_masks_apply ranges cs
  obtain ⟨before, after, hsplit⟩ := List.append_of_mem hp
  exact ⟨used, hused, _, (hmasks.lines.stands hsplit).1.dropLineEnd⟩

/-- An imperative has the number of its line, and its text as written. -/
theorem Imperative.line_of_parseLine? {masked unmasked : List Char} {number : Nat} {extra : List ScheduleWarning}
    (h : parseLine? masked unmasked number = some (some imperative, extra)) :
    imperative.line = number ∧ imperative.raw = String.ofList (trim unmasked) := by
  obtain ⟨ws, r, -, -, hfound⟩ := exists_result h
  obtain ⟨⟨action, token⟩, -, rfl⟩ := Option.map_eq_some_iff.1 (Prod.mk.inj hfound).1
  exact ⟨rfl, rfl⟩

/-- The line of a body from which an imperative is read, masked and as written, apart from its line end. -/
structure Imperative.ReadFrom (ranges : List Span) (lines : LineMap) (body masked unmasked : List Char)
    (imperative : Imperative) : Prop where
  line : ∃ before p after, linePairs ranges body = before ++ p :: after ∧ masked = dropLineEnd p.1 ∧
    unmasked = dropLineEnd p.2 ∧ imperative.line = lines.lineOf (byteLength (before.map (·.2)).flatten)
  read : ∃ extra, parseLine? masked unmasked imperative.line = some (some imperative, extra)

/-- The imperatives of a scan of lines are read from its lines. -/
theorem exists_line_of_scanLines? {pairs : List (List Char × List Char)} (h : scanLines? lines i pairs = some r)
    (himperative : imperative ∈ r.imperatives) : ∃ before p after, pairs = before ++ p :: after ∧
      imperative.line = lines.lineOf (i + byteLength (before.map (·.1)).flatten) ∧
      ∃ extra, Imperative.parseLine? (dropLineEnd p.1) (dropLineEnd p.2) imperative.line = some (some imperative, extra) := by
  induction pairs generalizing i r with
  | nil =>
    obtain rfl := Option.some.inj h
    cases himperative
  | cons p rest ih =>
    simp only [scanLines?, Option.bind_eq_bind, Option.bind_eq_some_iff] at h
    obtain ⟨here, hhere, later, hlater, h⟩ := h
    obtain rfl := Option.some.inj h
    rcases List.mem_append.1 himperative with hmem | hmem
    · rw [scanLine?_eq] at hhere
      obtain ⟨⟨found, extra⟩, hparse, rfl⟩ := Option.map_eq_some_iff.1 hhere
      obtain rfl : found = some imperative := Option.mem_toList.1 hmem
      have hline := (Imperative.line_of_parseLine? hparse).1
      exact ⟨[], p, rest, rfl, hline, extra, by rw [hline, hparse]⟩
    · obtain ⟨before, q, after, rfl, hline, hparse⟩ := ih hlater hmem
      exact ⟨p :: before, q, after, rfl, by simp [hline, Nat.add_assoc], hparse⟩

/-- The imperatives of a scan are read from the lines of its body. -/
theorem exists_readFrom_of_scan? {body : String} (h : scan? body ranges lines = some r)
    (himperative : imperative ∈ r.imperatives) :
    ∃ masked unmasked, imperative.ReadFrom ranges lines body.toList masked unmasked := by
  obtain ⟨before, p, after, hsplit, hline, hread⟩ := exists_line_of_scanLines? (scanLines?_of_scan? h) himperative
  obtain ⟨used, -, hmasks⟩ := Mask.exists_masks_apply ranges body.toList
  rw [Nat.zero_add, ← (hmasks.lines.stands hsplit).2.2] at hline
  exact ⟨_, _, ⟨before, p, after, hsplit, rfl, rfl, hline⟩, hread⟩

theorem Imperative.ReadFrom.mem_linePairs {body masked unmasked : List Char}
    (h : imperative.ReadFrom ranges lines body masked unmasked) :
    ∃ p ∈ linePairs ranges body, masked = dropLineEnd p.1 ∧ unmasked = dropLineEnd p.2 := by
  obtain ⟨before, p, after, hsplit, hmasked, hunmasked, -⟩ := h.line
  exact ⟨p, by rw [hsplit]; simp, hmasked, hunmasked⟩

theorem Imperative.ReadFrom.masks {body masked unmasked : List Char}
    (h : imperative.ReadFrom ranges lines body masked unmasked) :
    ∃ used ⊆ ranges, ∃ start, Mask.Masks used start masked unmasked := by
  obtain ⟨p, hp, rfl, rfl⟩ := h.mem_linePairs
  exact exists_masks_of_mem_linePairs hp

/-- An imperative asks for what the form of its line asks for. -/
theorem Imperative.ReadFrom.action?_eq {body masked unmasked : List Char}
    (h : imperative.ReadFrom ranges lines body masked unmasked) :
    (form masked).action? (·.isToken) unmasked = some (some imperative.action) := by
  obtain ⟨used, -, start, hmasks⟩ := h.masks
  obtain ⟨extra, hread⟩ := h.read
  rw [parseLine?_eq_read hmasks] at hread
  exact Form.action?_of_read hread

end

end LivePage
