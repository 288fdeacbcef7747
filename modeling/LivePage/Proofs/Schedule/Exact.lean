import LivePage.Proofs.Block.SkipRange
import LivePage.Proofs.Schedule.Candidate
/-!
# What a scan finds

A scan that has an answer finds on every line just the at signs that start a token, from left to right, and reads each
of them; what it names stands in the body, outside all ranges that were to be skipped. All code of a document lies in
such a range.
-/
namespace LivePage

open Text Markdown

/-- What is found at an at sign: a token, or that its text is malformed. -/
inductive Finding where
  | token (t : ScheduleToken)
  | malformed (w : ScheduleWarning)
deriving DecidableEq, Repr

namespace Finding

def mention : Finding → Mention
  | token t => t.mention
  | malformed w => w.mention

def token? : Finding → Option ScheduleToken
  | token t => some t
  | malformed _ => none

def malformed? : Finding → Option ScheduleWarning
  | token _ => none
  | malformed w => some w

/-- A token names the schedule that its text says, and a warning why its text says none. -/
def IsReading : Finding → Prop
  | token t => Schedule.parseToken t.raw = .ok t.schedule
  | malformed w => ∃ fault, Schedule.parseToken w.raw = .error fault ∧ w.message = fault.message

/-- What a candidate of a line is read as. -/
def ofCandidate (line : Nat) (w : PlacedWord) : Finding :=
  match Schedule.parseToken (String.ofList w.text) with
  | .ok s => token ⟨String.ofList w.text, line, w.start + 1, s⟩
  | .error e => malformed ⟨String.ofList w.text, line, w.start + 1, e.message⟩

variable {line : Nat} {w : PlacedWord}

theorem mention_ofCandidate (line : Nat) (w : PlacedWord) : (ofCandidate line w).mention = w.mention line := by
  unfold ofCandidate
  split <;> rfl

theorem isReading_ofCandidate (line : Nat) (w : PlacedWord) : (ofCandidate line w).IsReading := by
  unfold ofCandidate
  split
  · assumption
  · rename_i fault hparse
    exact ⟨fault, hparse, rfl⟩

end Finding

/-- The result of a line with these findings, an imperative and its warnings. -/
def ScanResult.ofLine (found : List Finding) (imperative : Option Imperative) (extra : List ScheduleWarning) :
    ScanResult :=
  ⟨found.filterMap (·.token?), imperative.toList, found.filterMap (·.malformed?) ++ extra⟩

theorem readCandidate_append (line : Nat) (w : PlacedWord) (found : List Finding) (imperative : Option Imperative)
    (extra : List ScheduleWarning) : (readCandidate line w).append (.ofLine found imperative extra) =
      .ofLine (.ofCandidate line w :: found) imperative extra := by
  unfold readCandidate Finding.ofCandidate
  dsimp only
  cases Schedule.parseToken (String.ofList w.text) <;> rfl

theorem scanLine?_eq (masked unmasked : List Char) (line : Nat) : scanLine? masked unmasked line =
    (Imperative.parseLine? masked unmasked line).map fun (imperative, extra) =>
      .ofLine ((tokenSpans none 0 masked).map (.ofCandidate line)) imperative extra := by
  -- Candidates come before what is read of an imperative, so they are put in front of it one by one.
  have hfold (candidates : List PlacedWord) (imperative : Option Imperative) (extra : List ScheduleWarning) :
      (candidates.map (readCandidate line)).foldr ScanResult.append { imperatives := imperative.toList, warnings := extra } =
        .ofLine (candidates.map (.ofCandidate line)) imperative extra := by
    induction candidates with
    | nil => rfl
    | cons w candidates ih => rw [List.map_cons, List.foldr_cons, ih, readCandidate_append, List.map_cons]
  rw [scanLine?]
  cases Imperative.parseLine? masked unmasked line with
  | none => rfl
  | some found => exact congrArg some (hfold _ _ _)

/-- A text that is named stands in a body, on the line that starts at a byte, and no range holds a byte of it. -/
structure Mention.StandsOutside (m : Mention) (ranges : List Span) (body : List Char) (start : Nat) : Prop where
  stands : sliceBytes? body (start + (m.column - 1)) m.raw.utf8ByteSize = some m.raw.toList
  outside : ∀ r ∈ ranges, ∀ k < m.raw.utf8ByteSize, r.contains (start + (m.column - 1) + k) = false

/-- A text that is named stands on a line of a body, at the line's number, and no range holds a byte of it. -/
def Mention.StandsOnLine (m : Mention) (ranges : List Span) (body : List Char) (lines : LineMap) : Prop :=
  ∃ above line below, linesWithEnds body = above ++ line :: below ∧ m.line = lines.lineOf (byteLength above.flatten) ∧
    m.StandsOutside ranges body (byteLength above.flatten)

theorem Mention.StandsOnLine.mono {m : Mention} {ranges fewer : List Span} {body : List Char} {lines : LineMap}
    (h : m.StandsOnLine ranges body lines) (hsub : fewer ⊆ ranges) : m.StandsOnLine fewer body lines := by
  obtain ⟨above, line, below, hlines, hnumber, hstands⟩ := h
  exact ⟨above, line, below, hlines, hnumber, hstands.stands, fun r hr => hstands.outside r (hsub hr)⟩

/-- Just what there is on a line that starts at a byte of a body and has a number. -/
structure FindsExactly (ranges : List Span) (body : List Char) (start number : Nat) (masked line : List Char)
    (found : List Finding) (imperative : Option Imperative) (extra : List ScheduleWarning) : Prop where
  ascending : found.Pairwise fun a b => a.mention.column < b.mention.column
  complete : ∀ place, (∃ f ∈ found, f.mention.column = place + 1) ↔ OpensToken ranges start masked line place
  text : ∀ f ∈ found, ∃ before rest, masked = before ++ rest ∧ f.mention.column = byteLength before + 1 ∧
    f.mention.raw = String.ofList (tokenText rest)
  reading : ∀ f ∈ found, f.IsReading
  wellFormed : ∀ w ∈ extra, ∃ s, Schedule.parseToken w.raw = .ok s
  named : ∀ m ∈ (ScanResult.ofLine found imperative extra).mentions, m.line = number ∧ m.StandsOutside ranges body start

/-- Just what there is on each of some lines, the first of which starts at a byte of a body. -/
inductive ScansExactly (ranges : List Span) (body : List Char) (lines : LineMap) :
    Nat → List (List Char × List Char) → ScanResult → Prop
  | nil (start : Nat) : ScansExactly ranges body lines start [] {}
  | cons {start : Nat} {p : List Char × List Char} {rest : List (List Char × List Char)} {found : List Finding}
      {imperative : Option Imperative} {extra : List ScheduleWarning} {later : ScanResult}
      (here : FindsExactly ranges body start (lines.lineOf start) (dropLineEnd p.1) (dropLineEnd p.2) found imperative extra)
      (h : ScansExactly ranges body lines (start + byteLength p.2) rest later) :
      ScansExactly ranges body lines start (p :: rest) ((ScanResult.ofLine found imperative extra).append later)

/-! ## One line -/

section
variable {ranges : List Span} {body : List Char} {before after : List (List Char × List Char)} {p : List Char × List Char}
  {w : PlacedWord}

/-- What is named on a masked line stands in the body outside all ranges. -/
theorem PlacedWord.IsIn.standsOutside (h : ∀ r ∈ ranges, r.OnBoundaries body)
    (hp : linePairs ranges body = before ++ p :: after) (hw : w.IsIn 0 (dropLineEnd p.1)) (number : Nat) :
    (w.mention number).StandsOutside ranges body (byteLength (before.map (·.2)).flatten) := by
  obtain ⟨hmasks, hlines, hlen⟩ := stands_linePairs h hp
  constructor
  · rw [w.utf8ByteSize_mention, PlacedWord.mention, Nat.add_sub_cancel, String.toList_ofList]
    exact (hw.unmask hmasks.dropLineEnd).slice_line hlines
  · intro r hr k hk
    rw [w.utf8ByteSize_mention] at hk
    obtain ⟨front, back, hline, hstart⟩ := hw.stands
    have hskips := Mask.Masks.not_skips hw.not_blank (hline ▸ hmasks.dropLineEnd) hk
    rw [PlacedWord.mention, Nat.add_sub_cancel, ← hstart, Nat.zero_add, hlen]
    exact Mask.skips_eq_false_iff.1 hskips r hr

/-- **A line on which a scan has an answer gives just what there is on it.** -/
theorem findsExactly_of_scanLine? (h : ∀ r ∈ ranges, r.OnBoundaries body)
    (hp : linePairs ranges body = before ++ p :: after) {number : Nat} {r : ScanResult}
    (hr : scanLine? (dropLineEnd p.1) (dropLineEnd p.2) number = some r) :
    ∃ found imperative extra, r = .ofLine found imperative extra ∧
      FindsExactly ranges body (byteLength (before.map (·.2)).flatten) number (dropLineEnd p.1) (dropLineEnd p.2)
        found imperative extra := by
  have hline := hr
  rw [scanLine?_eq] at hline
  obtain ⟨⟨imperative, extra⟩, hparse, rfl⟩ := Option.map_eq_some_iff.1 hline
  obtain ⟨hmasks, -, hlen⟩ := stands_linePairs h hp
  rw [← hlen] at hmasks
  refine ⟨_, imperative, extra, rfl, ?_⟩
  constructor
  case ascending =>
    rw [List.pairwise_map]
    refine (sorted_tokenSpans none 0 (dropLineEnd p.1)).imp fun {a b} hab => ?_
    rw [Finding.mention_ofCandidate, Finding.mention_ofCandidate]
    exact Nat.add_lt_add_right hab 1
  case complete =>
    intro place
    rw [← exists_tokenSpans_iff hmasks.dropLineEnd]
    simp [Finding.mention_ofCandidate, PlacedWord.mention]
  case text =>
    intro f hf
    obtain ⟨w, hw, rfl⟩ := List.mem_map.1 hf
    obtain ⟨front, rest, hfront, hstart, -, -, htext⟩ := mem_tokenSpans_iff.1 hw
    refine ⟨front, _, hfront, ?_, ?_⟩
    · rw [Finding.mention_ofCandidate, PlacedWord.mention, ← hstart, Nat.zero_add]
    · rw [Finding.mention_ofCandidate, PlacedWord.mention, htext]
  case reading =>
    intro f hf
    obtain ⟨w, -, rfl⟩ := List.mem_map.1 hf
    exact Finding.isReading_ofCandidate number w
  case wellFormed => exact fun x hx => Imperative.schedule_of_mem_warnings hparse hx
  case named =>
    intro m hm
    obtain ⟨w, hw, rfl⟩ := mentions_scanLine? hr hm
    exact ⟨rfl, hw.standsOutside h hp number⟩

end

/-! ## Bodies -/

section
variable {ranges : List Span} {body : List Char} {lines : LineMap} {r : ScanResult} {m : Mention}

theorem map_snd_linePairs (h : ∀ r ∈ ranges, r.OnBoundaries body) :
    (linePairs ranges body).map (·.2) = linesWithEnds body :=
  List.map_snd_zip (Mask.masks_apply h).lines.length_eq.ge

/-- Whatever lines a scan goes on with, it finds on them just what there is. -/
theorem scansExactly_of_scanLines? (before : List (List Char × List Char)) {pairs : List (List Char × List Char)}
    (h : ∀ r ∈ ranges, r.OnBoundaries body) (hp : linePairs ranges body = before ++ pairs)
    (hr : scanLines? lines (byteLength (before.map (·.2)).flatten) pairs = some r) :
    ScansExactly ranges body lines (byteLength (before.map (·.2)).flatten) pairs r := by
  induction pairs generalizing before r with
  | nil =>
    obtain rfl := Option.some.inj hr
    exact .nil _
  | cons p rest ih =>
    simp only [scanLines?, Option.bind_eq_bind, Option.bind_eq_some_iff] at hr
    obtain ⟨here, hhere, later, hlater, hr⟩ := hr
    obtain rfl := Option.some.inj hr
    obtain ⟨found, imperative, extra, rfl, hfinds⟩ := findsExactly_of_scanLine? h hp hhere
    -- The next line starts after the bytes of this one, which the masked line has too.
    have hnext : byteLength (before.map (·.2)).flatten + byteLength p.2 =
        byteLength ((before ++ [p]).map (·.2)).flatten := by simp
    rw [(stands_linePairs h hp).1.byteLength_eq, hnext] at hlater
    refine .cons hfinds ?_
    rw [hnext]
    exact ih (before ++ [p]) (by rw [hp, List.append_assoc, List.singleton_append]) hlater

/-- All that a scan names stands on lines of the body, outside all ranges. -/
theorem standsOnLine_of_scanLines? (h : ∀ r ∈ ranges, r.OnBoundaries body)
    (hr : scanLines? lines 0 (linePairs ranges body) = some r) (hm : m ∈ r.mentions) :
    m.StandsOnLine ranges body lines := by
  obtain ⟨before, p, after, w, hp, hw, rfl⟩ := mentions_scanLines? hr hm
  obtain ⟨-, hlines, hlen⟩ := stands_linePairs h hp
  refine ⟨_, _, _, hlines, ?_, hw.standsOutside h hp _⟩
  rw [hlen, Nat.zero_add]
  rfl

theorem scanLines?_of_scan? {body : String} (h : scan? body ranges lines = some r) :
    scanLines? lines 0 (linePairs ranges body.toList) = some r := by
  unfold scan? at h
  dsimp only at h
  split_ifs at h
  exact h

end

/-- The ranges of all code among events. -/
def allCode (events : List PlacedEvent) : List Span := (events.filter (·.event.isCode)).map (·.span)

/-- **A scan that has an answer finds just the tokens of prose.** It has one unless a line cuts a message. On every line
of the body it finds the at signs that start a token outside the ranges that were to be skipped, from left to right, and
what it names is written there. If there is no code within a code block, then all code is skipped, and nothing is named that
has a byte in it; and so it is for the events of a document. -/
theorem scansExactly_unless_cutsMessage (body : String) (events : List PlacedEvent)
    (h : ∀ e ∈ events, e.span.OnBoundaries body.toList) (lines : LineMap) :
    let ranges := skipRanges body.toList false events
    (linePairs ranges body.toList).map (·.2) = linesWithEnds body.toList ∧
    ((∃ r, scan? body ranges lines = some r) ↔
      ∀ p ∈ linePairs ranges body.toList, ¬ Imperative.CutsMessage (dropLineEnd p.1) (dropLineEnd p.2)) ∧
    (∀ r, scan? body ranges lines = some r →
      ScansExactly ranges body.toList lines 0 (linePairs ranges body.toList) r ∧
      ∀ m ∈ r.mentions, m.StandsOnLine ranges body.toList lines) ∧
    (CodeApart false events → allCode events ⊆ ranges ∧
      ∀ r, scan? body ranges lines = some r → ∀ m ∈ r.mentions, m.StandsOnLine (allCode events) body.toList lines) ∧
    CodeApart false (Markdown.events body) := by
  intro ranges
  have hranges : ∀ r ∈ ranges, r.OnBoundaries body.toList := skipRanges_onBoundaries h
  have hnamed (r : ScanResult) (hr : scan? body ranges lines = some r) (m : Mention) (hm : m ∈ r.mentions) :
      m.StandsOnLine ranges body.toList lines := standsOnLine_of_scanLines? hranges (scanLines?_of_scan? hr) hm
  refine ⟨map_snd_linePairs hranges, ?_, fun r hr => ⟨?_, hnamed r hr⟩, fun hapart => ?_, codeApart_events body⟩
  · rw [← Option.ne_none_iff_exists', Ne, scan?_eq_none_iff hranges]
    push Not
    rfl
  · exact scansExactly_of_scanLines? [] hranges rfl (scanLines?_of_scan? hr)
  · have hcode : allCode events ⊆ ranges := by
      intro span hspan
      obtain ⟨e, he, rfl⟩ := List.mem_map.1 hspan
      obtain ⟨he, hcode⟩ := List.mem_filter.1 he
      exact mem_skipRanges_of_isCode body.toList hapart he hcode
    exact ⟨hcode, fun r hr m hm => (hnamed r hr m hm).mono hcode⟩

/-- A notification with code, a text that is no token, and two tokens. -/
def noticeWithCode : String := "Notify @9pm `@9am` (@25) @daily"

theorem noticeWithCode_scansExactly :
    let ranges := skipRanges noticeWithCode.toList false (events noticeWithCode)
    let lines := LineMap.identity noticeWithCode 1
    (∀ e ∈ events noticeWithCode, e.span.OnBoundaries noticeWithCode.toList) ∧
    ∃ r, scan? noticeWithCode ranges lines = some r ∧
      r.mentions = [⟨"@9pm", 1, 8⟩, ⟨"@daily", 1, 26⟩, ⟨"@9pm", 1, 8⟩, ⟨"@25", 1, 21⟩, ⟨"@daily", 1, 26⟩] ∧
      ScansExactly ranges noticeWithCode.toList lines 0 (linePairs ranges noticeWithCode.toList) r ∧
      ∀ m ∈ r.mentions, m.StandsOnLine (allCode (events noticeWithCode)) noticeWithCode.toList lines := by
  intro ranges lines
  have hevents : ∀ e ∈ events noticeWithCode, e.span.OnBoundaries noticeWithCode.toList := by decide +kernel
  obtain ⟨-, -, hexact, hcode, hapart⟩ :=
    scansExactly_unless_cutsMessage noticeWithCode (events noticeWithCode) hevents lines
  have hscan : (scan? noticeWithCode ranges lines).map (·.mentions) =
      some [⟨"@9pm", 1, 8⟩, ⟨"@daily", 1, 26⟩, ⟨"@9pm", 1, 8⟩, ⟨"@25", 1, 21⟩, ⟨"@daily", 1, 26⟩] := by decide +kernel
  obtain ⟨r, hr, hmentions⟩ := Option.map_eq_some_iff.1 hscan
  exact ⟨hevents, r, hr, hmentions, (hexact r hr).1, (hcode hapart).2 r hr⟩

/-- A document in which the destination of a link is found in its title, right after `Notify`, and a token comes later
on that line. -/
def todayBelowTitle : String := "[x](é \"\nNotifyé\") @today"

/-- **A token of prose that is lost.** The at sign starts a token outside all ranges, which run between characters, and
the scan has no answer. -/
theorem todayBelowTitle_lost :
    let ranges := skipRanges todayBelowTitle.toList false (events todayBelowTitle)
    (∀ e ∈ events todayBelowTitle, e.span.OnBoundaries todayBelowTitle.toList) ∧
    linePairs ranges todayBelowTitle.toList = [("[x](é \"\n".toList, "[x](é \"\n".toList),
      ("Notify  \") @today".toList, "Notifyé\") @today".toList)] ∧
    OpensToken ranges (byteLength "[x](é \"\n".toList) "Notify  \") @today".toList "Notifyé\") @today".toList 11 ∧
    scan? todayBelowTitle ranges (LineMap.identity todayBelowTitle 1) = none := by
  intro ranges
  have hranges : ranges = [⟨15, 17⟩] := by decide +kernel
  rw [hranges]
  refine ⟨by decide +kernel, by decide +kernel, ?_, by decide +kernel⟩
  constructor
  case sign => exact ⟨"Notifyé\") ".toList, "today".toList, by decide, by decide⟩
  case outside => decide
  case opens => exact ⟨"Notify  \") ".toList, "@today".toList, by decide, by decide, by decide, by decide⟩

end LivePage
