import LivePage.Program
import LivePage.Proofs.Compile
import LivePage.Proofs.Schedule.Exact
/-!
# Destinations of links

An autolink is masked from end to end, so nothing is named in it. Of a link with a destination in parentheses the place
is masked at which the destination, as it is decoded, stands last in the link. That is where it is written if it is
written as it is decoded and does not come up again in the title.
-/
namespace LivePage

open Text Markdown

/-! ## Last places -/

section
variable {piece front raw back : List Char} {c : Char}

/-- A piece with a character that does not come after it does not stand further back. -/
theorem standsLast_of_not_mem (hc : c ∈ piece) (hback : c ∉ back) : StandsLast piece front back := by
  obtain ⟨y, x, hpiece, hy⟩ := List.eq_append_cons_of_mem (List.mem_reverse.2 hc)
  -- Nothing after this character in the piece is the same one.
  replace hpiece : piece = x.reverse ++ c :: y.reverse := by
    rw [← List.reverse_reverse piece, hpiece]
    simp
  intro b a h
  by_contra hlt
  have hat : (front ++ piece ++ back)[b.length + x.length]? = some c := by
    rw [h, hpiece]
    simp
  obtain ⟨k, hk⟩ : ∃ k, b.length + x.length = (front ++ x.reverse ++ [c]).length + k := by
    refine ⟨b.length - front.length - 1, ?_⟩
    simp only [List.length_append, List.length_reverse, List.length_singleton]
    omega
  have hsplit : front ++ piece ++ back = front ++ x.reverse ++ [c] ++ (y.reverse ++ back) := by
    rw [hpiece]
    simp
  rw [hsplit, hk, List.getElem?_append_right (Nat.le_add_right _ _), Nat.add_sub_cancel_left] at hat
  rcases List.mem_append.1 (List.mem_of_getElem? hat) with hmem | hmem
  · exact hy (List.mem_reverse.1 hmem)
  · exact hback hmem

variable {body : List Char} {span : Span} {target : LinkTarget}

theorem Span.contains_iff {i : Nat} : span.contains i = true ↔ span.start ≤ i ∧ i < span.stop := by
  rw [Span.contains, Bool.and_eq_true, decide_eq_true_iff, decide_eq_true_iff]

/-- **When the destination of a link is masked where it is written.** -/
theorem destinationSpan?_eq_written_iff (hkind : target.kind = .inline)
    (hlink : sliceBytes? body span.start span.length = some (front ++ raw ++ back)) :
    destinationSpan? body span target = some (span.pieceAt front raw) ↔
      target.destination ≠ "" ∧ raw = target.destination.toList ∧ StandsLast raw front back := by
  rw [destinationSpan?_inline hkind hlink]
  refine and_congr_right fun _ => ⟨?_, ?_⟩
  · rintro ⟨before, after, hcut, hlast, hspan⟩
    obtain ⟨hstart, hstop⟩ := Span.mk.inj hspan
    have hfront : byteLength front = byteLength before := by omega
    rw [List.append_assoc, List.append_assoc] at hcut
    obtain ⟨rfl, hrest⟩ := append_inj_of_byteLength hcut hfront
    obtain ⟨hraw, rfl⟩ := append_inj_of_byteLength hrest (by omega)
    exact ⟨hraw, hraw ▸ hlast⟩
  · rintro ⟨rfl, hlast⟩
    exact ⟨front, back, rfl, hlast, rfl⟩

/-- A destination that is written as it is decoded is not masked before the place at which it is written. -/
theorem le_destinationSpan? (hkind : target.kind = .inline)
    (hlink : sliceBytes? body span.start span.length = some (front ++ target.destination.toList ++ back)) {r : Span}
    (hr : destinationSpan? body span target = some r) : span.start + byteLength front ≤ r.start := by
  obtain ⟨-, before, after, hcut, hlast, rfl⟩ := (destinationSpan?_inline hkind hlink).1 hr
  have hle := hlast front back hcut.symm
  have hfront : front <+: front ++ target.destination.toList ++ back := ⟨_, (List.append_assoc ..).symm⟩
  have hbefore : before <+: front ++ target.destination.toList ++ back := ⟨_, by rw [hcut, List.append_assoc]⟩
  obtain ⟨more, rfl⟩ := List.prefix_of_prefix_length_le hfront hbefore hle
  change _ ≤ span.start + byteLength (front ++ more)
  rw [byteLength_append]
  omega

end

/-! ## Where texts are named -/

/-- A scan names a text at a byte of a body: the scan of the line that holds the byte names it in the byte's column. -/
def NamesAt (ranges : List Span) (body : List Char) (lines : LineMap) (m : Mention) (n : Nat) : Prop :=
  ∃ before p after found, linePairs ranges body = before ++ p :: after ∧
    scanLine? (dropLineEnd p.1) (dropLineEnd p.2) (lines.lineOf (byteLength (before.map (·.2)).flatten)) = some found ∧
    m ∈ found.mentions ∧ n = byteLength (before.map (·.2)).flatten + (m.column - 1)

section
variable {ranges : List Span} {body : List Char} {lines : LineMap} {r : ScanResult} {m : Mention} {n : Nat}

/-- What a scan names is what it names at some byte. -/
theorem mem_mentions_iff_namesAt (h : ∀ r ∈ ranges, r.OnBoundaries body)
    (hr : scanLines? lines 0 (linePairs ranges body) = some r) :
    m ∈ r.mentions ↔ ∃ n, NamesAt ranges body lines m n := by
  rw [mem_mentions_scanLines?_iff hr]
  constructor
  · rintro ⟨before, p, after, found, hp, hfound, hm⟩
    rw [Nat.zero_add, ← (stands_linePairs h hp).2.2] at hfound
    exact ⟨_, before, p, after, found, hp, hfound, hm, rfl⟩
  · rintro ⟨_, before, p, after, found, hp, hfound, hm, rfl⟩
    rw [(stands_linePairs h hp).2.2, ← Nat.zero_add (byteLength _)] at hfound
    exact ⟨before, p, after, found, hp, hfound, hm⟩

theorem NamesAt.standsOutside (h : ∀ r ∈ ranges, r.OnBoundaries body) (hm : NamesAt ranges body lines m n) :
    sliceBytes? body n m.raw.utf8ByteSize = some m.raw.toList ∧ ∀ r ∈ ranges, r.contains n = false := by
  obtain ⟨before, p, after, found, hp, hfound, hm, rfl⟩ := hm
  obtain ⟨w, hw, rfl⟩ := mentions_scanLine? hfound hm
  have hstands := hw.standsOutside h hp (lines.lineOf (byteLength (before.map (·.2)).flatten))
  have hpos : 0 < (w.mention (lines.lineOf (byteLength (before.map (·.2)).flatten))).raw.utf8ByteSize := by
    rw [w.utf8ByteSize_mention]
    exact Nat.pos_of_ne_zero fun hzero => hw.ne_nil (eq_nil_of_byteLength hzero)
  exact ⟨hstands.stands, fun r hr => hstands.outside r hr 0 hpos⟩

theorem tokenText_sign {after : List Char} (h : 1 < (tokenText ('@' :: after)).length) :
    ∃ rest, tokenText ('@' :: after) = '@' :: rest := by
  obtain ⟨more, hmore⟩ := PlacedWord.tokenText_prefix ('@' :: after)
  cases htext : tokenText ('@' :: after) with
  | nil => rw [htext] at h; cases h
  | cons c rest =>
    rw [htext] at hmore
    exact ⟨rest, by rw [(List.cons.inj hmore).1]⟩

theorem exists_of_parseToken {raw : String} {s : Schedule} (h : Schedule.parseToken raw = .ok s) :
    ∃ rest, raw.toList = '@' :: rest := by
  unfold Schedule.parseToken at h
  split at h
  · rename_i rest hraw
    exact ⟨rest, hraw⟩
  · cases h

/-- What a scan of a line names starts with an at sign. -/
theorem exists_raw_eq {masked unmasked : List Char} {line : Nat} (hr : scanLine? masked unmasked line = some r)
    (hm : m ∈ r.mentions) : ∃ rest, m.raw.toList = '@' :: rest := by
  simp only [scanLine?, Option.bind_eq_bind, Option.bind_eq_some_iff] at hr
  obtain ⟨⟨imperative, warnings⟩, hparse, hr⟩ := hr
  obtain rfl := Option.some.inj hr
  rcases ScanResult.mem_mentions_foldr.1 hm with ⟨_, hcandidate, hm⟩ | hm
  · obtain ⟨w, hw, rfl⟩ := List.mem_map.1 hcandidate
    rw [mentions_readCandidate, List.mem_singleton] at hm
    obtain ⟨_, after, -, -, -, hlength, htext⟩ := mem_tokenSpans_iff.1 hw
    rw [hm, PlacedWord.mention, String.toList_ofList, htext]
    exact tokenText_sign hlength
  · obtain ⟨ws, result, hnames, -, hfound⟩ := Imperative.exists_result hparse
    obtain ⟨rfl, rfl⟩ := Prod.mk.inj hfound
    obtain ⟨w, -, hs, rfl⟩ := hnames.mention hm
    obtain ⟨s, hs⟩ := Option.isSome_iff_exists.1 hs
    unfold PlacedWord.schedule? at hs
    split at hs
    · rename_i hparsed
      exact exists_of_parseToken hparsed
    · cases hs

theorem NamesAt.sign (h : ∀ r ∈ ranges, r.OnBoundaries body) (hm : NamesAt ranges body lines m n) :
    ∃ front back, body = front ++ '@' :: back ∧ byteLength front = n := by
  obtain ⟨hstands, -⟩ := hm.standsOutside h
  obtain ⟨before, p, after, found, hp, hfound, hm, -⟩ := hm
  obtain ⟨rest, hraw⟩ := exists_raw_eq hfound hm
  obtain ⟨front, back, hbody, hlen, -⟩ := sliceBytes?_eq_some_iff.1 hstands
  exact ⟨front, rest ++ back, by rw [hbody, hraw]; simp, hlen⟩

theorem exists_scanLine? {before after : List (List Char × List Char)} {p : List Char × List Char} {i : Nat}
    (h : scanLines? lines i (before ++ p :: after) = some r) : ∃ found, scanLine? (dropLineEnd p.1) (dropLineEnd p.2)
      (lines.lineOf (i + byteLength (before.map (·.1)).flatten)) = some found := by
  induction before generalizing i r with
  | nil =>
    simp only [List.nil_append, scanLines?, Option.bind_eq_bind, Option.bind_eq_some_iff] at h
    obtain ⟨here, hhere, -⟩ := h
    exact ⟨here, hhere⟩
  | cons q before ih =>
    simp only [List.cons_append, scanLines?, Option.bind_eq_bind, Option.bind_eq_some_iff] at h
    obtain ⟨-, -, later, hlater, -⟩ := h
    rw [List.map_cons, List.flatten_cons, byteLength_append, ← Nat.add_assoc]
    exact ih hlater

theorem mention_mem_ofLine {found : List Finding} {imperative : Option Imperative} {extra : List ScheduleWarning}
    {f : Finding} (hf : f ∈ found) : f.mention ∈ (ScanResult.ofLine found imperative extra).mentions := by
  simp only [ScanResult.mentions, mentionsOf, ScanResult.ofLine, List.mem_append, List.mem_map, List.mem_filterMap]
  cases f with
  | token t => exact .inl (.inl ⟨t, ⟨_, hf, rfl⟩, rfl⟩)
  | malformed w => exact .inr ⟨w, .inl ⟨_, hf, rfl⟩, rfl⟩

/-- An at sign that starts a token is named. -/
theorem exists_namesAt_of_opensToken {before after : List (List Char × List Char)} {p : List Char × List Char} {place : Nat}
    (h : ∀ r ∈ ranges, r.OnBoundaries body) (hr : scanLines? lines 0 (linePairs ranges body) = some r)
    (hp : linePairs ranges body = before ++ p :: after)
    (hopens : OpensToken ranges (byteLength (before.map (·.2)).flatten) (dropLineEnd p.1) (dropLineEnd p.2) place) :
    ∃ m, NamesAt ranges body lines m (byteLength (before.map (·.2)).flatten + place) := by
  obtain ⟨here, hhere⟩ : ∃ here, scanLine? (dropLineEnd p.1) (dropLineEnd p.2)
      (lines.lineOf (byteLength (before.map (·.2)).flatten)) = some here := by
    have hhere := exists_scanLine? (hp ▸ hr)
    rwa [Nat.zero_add, ← (stands_linePairs h hp).2.2] at hhere
  obtain ⟨found, imperative, extra, rfl, hfinds⟩ := findsExactly_of_scanLine? h hp hhere
  obtain ⟨f, hf, hcolumn⟩ := (hfinds.complete place).2 hopens
  refine ⟨f.mention, before, p, after, _, hp, hhere, ?_, by rw [hcolumn, Nat.add_sub_cancel]⟩
  exact mention_mem_ofLine hf

end

/-! ## Links -/

/-- Nothing that a scan names has its at sign in a byte range. -/
def NothingNamedIn (ranges : List Span) (body : List Char) (lines : LineMap) (s : Span) : Prop :=
  ∀ m n, NamesAt ranges body lines m n → s.contains n = false

section
variable {body front raw back : List Char} {events : List PlacedEvent} {e : PlacedEvent} {target : LinkTarget}
  {lines : LineMap}

theorem nothingNamedIn_of_not_mem {ranges : List Span} {span : Span} (h : ∀ r ∈ ranges, r.OnBoundaries body)
    (hlink : sliceBytes? body span.start span.length = some (front ++ raw ++ back)) (hraw : '@' ∉ raw) :
    NothingNamedIn ranges body lines (span.pieceAt front raw) := by
  intro m n hm
  refine eq_false_of_ne_true fun hcontains => hraw ?_
  obtain ⟨f, b, hbody, rfl⟩ := hm.sign h
  obtain ⟨before, after, hcut, hstart, -⟩ := sliceBytes?_eq_some_iff.1 hlink
  obtain ⟨hle, hlt⟩ : span.start + byteLength front ≤ byteLength f ∧
      byteLength f < span.start + byteLength front + byteLength raw := Span.contains_iff.1 hcontains
  have hsplit : before ++ front ++ (raw ++ (back ++ after)) = f ++ '@' :: b := by
    rw [← hbody, hcut]
    simp
  refine mem_of_byteLength hsplit ?_ ?_
  · rw [byteLength_append]
    omega
  · rw [byteLength_append]
    omega

theorem nothingNamedIn_autolink (h : ∀ e ∈ events, e.span.OnBoundaries body)
    (hcode : OutOfCode (·.linkTarget?.isSome) false events) (he : e ∈ events) (ht : e.event.linkTarget? = some target)
    (hkind : target.kind = .autolink ∨ target.kind = .email) :
    NothingNamedIn (skipRanges body false events) body lines e.span := by
  intro m n hm
  refine (hm.standsOutside (skipRanges_onBoundaries h)).2 _ (mem_skipRanges_of_link hcode he ht ?_)
  unfold destinationSpan?
  rcases hkind with hkind | hkind
  · rw [hkind]
  · rw [hkind]

/-- Nothing is named in the destination of a link, if it is written as it is decoded and does not come up again, or if
there is no at sign after it. -/
theorem nothingNamedIn_written (h : ∀ e ∈ events, e.span.OnBoundaries body)
    (hcode : OutOfCode (·.linkTarget?.isSome) false events) (he : e ∈ events) (ht : e.event.linkTarget? = some target)
    (hkind : target.kind = .inline) (hlink : sliceBytes? body e.span.start e.span.length = some (front ++ raw ++ back))
    (hraw : raw = target.destination.toList) (hback : StandsLast raw front back ∨ '@' ∉ back) :
    NothingNamedIn (skipRanges body false events) body lines (e.span.pieceAt front raw) := by
  by_cases hsign : '@' ∈ raw
  · have hlast : StandsLast raw front back := hback.elim id (standsLast_of_not_mem hsign)
    have hne : target.destination ≠ "" := by
      rintro hempty
      rw [hraw, hempty] at hsign
      cases hsign
    have hspan := (destinationSpan?_eq_written_iff hkind hlink).2 ⟨hne, hraw, hlast⟩
    exact fun m n hm => (hm.standsOutside (skipRanges_onBoundaries h)).2 _ (mem_skipRanges_of_link hcode he ht hspan)
  · exact nothingNamedIn_of_not_mem (skipRanges_onBoundaries h) hlink hsign

/-- What is masked of a link with a destination in parentheses, and what is named in it, when the link is cut into what
comes before the destination, the destination as it is written, and what comes after. -/
structure MasksLink (ranges : List Span) (body : List Char) (lines : LineMap) (span : Span) (target : LinkTarget)
    (front raw back : List Char) : Prop where
  /-- The place is masked at which the destination, as it is decoded, stands last. -/
  masked : ∀ r, destinationSpan? body span target = some r ↔ target.destination ≠ "" ∧
    ∃ before after, front ++ raw ++ back = before ++ target.destination.toList ++ after ∧
      StandsLast target.destination.toList before after ∧ r = span.pieceAt before target.destination.toList
  /-- That is where the destination is written just if it is written as it is decoded and does not come up again. -/
  masksWritten : destinationSpan? body span target = some (span.pieceAt front raw) ↔
    target.destination ≠ "" ∧ raw = target.destination.toList ∧ StandsLast raw front back
  /-- Then nothing is named in it, nor if it is written as it is decoded and no at sign comes after it. -/
  unnamed : raw = target.destination.toList → StandsLast raw front back ∨ '@' ∉ back →
    NothingNamedIn ranges body lines (span.pieceAt front raw)
  /-- If it is written as it is decoded, nothing that comes before it is masked in its stead. -/
  keepsText : raw = target.destination.toList → ∀ r, destinationSpan? body span target = some r →
    (span.pieceAt front raw).start ≤ r.start

theorem masksLink (h : ∀ e ∈ events, e.span.OnBoundaries body)
    (hcode : OutOfCode (·.linkTarget?.isSome) false events) (he : e ∈ events) (ht : e.event.linkTarget? = some target)
    (hkind : target.kind = .inline) (hlink : sliceBytes? body e.span.start e.span.length = some (front ++ raw ++ back)) :
    MasksLink (skipRanges body false events) body lines e.span target front raw back where
  masked _ := destinationSpan?_inline hkind hlink
  masksWritten := destinationSpan?_eq_written_iff hkind hlink
  unnamed := nothingNamedIn_written h hcode he ht hkind hlink
  keepsText hraw _ hr := le_destinationSpan? hkind (hraw ▸ hlink) hr

end

/-! ## Compilations -/

section
variable {decode : String → Except DecodeFault Header} {source file : String} {options : CompileOptions} {c : Compiled}

/-- **What is named in links.** All that a compilation names is named at bytes of the body that is read, outside the masked
ranges, and every at sign that starts a token outside of them is. Nothing is named in an autolink. What is masked of a
link with a destination in parentheses, and when that is the destination, depends on how the destination is written. -/
theorem links_unnamed_where_written (h : compileWith decode source file options = .ok c)
    (hevents : ∀ e ∈ events c.page.markdown, e.span.OnBoundaries c.page.markdown.toList) :
    let body := c.page.markdown.toList
    let ranges := skipRanges body false (events c.page.markdown)
    let named := mentionsOf c.page.schedules c.page.imperatives c.warnings
    ∃ lines, (∀ m ∈ named, ∃ n, NamesAt ranges body lines m n) ∧ (∀ r ∈ ranges, NothingNamedIn ranges body lines r) ∧
      (options.schedule = true → (∀ m n, NamesAt ranges body lines m n → m ∈ named) ∧
        ∀ before p after place, linePairs ranges body = before ++ p :: after →
          OpensToken ranges (byteLength (before.map (·.2)).flatten) (dropLineEnd p.1) (dropLineEnd p.2) place →
          ∃ m, NamesAt ranges body lines m (byteLength (before.map (·.2)).flatten + place)) ∧
      ∀ e ∈ events c.page.markdown, ∀ target, e.event.linkTarget? = some target →
        (target.kind = .autolink ∨ target.kind = .email → NothingNamedIn ranges body lines e.span) ∧
        (target.kind = .inline → ∀ front raw back,
          sliceBytes? body e.span.start e.span.length = some (front ++ raw ++ back) →
          MasksLink ranges body lines e.span target front raw back) := by
  intro body ranges named
  obtain ⟨x, -, hc⟩ := compileWith_eq_ok h
  obtain ⟨-, scan, -, hscan, -, -, hmarkdown, htokens, himperatives, hwarnings⟩ := compileExtracted_eq_ok hc
  have hranges : ∀ r ∈ ranges, r.OnBoundaries body := skipRanges_onBoundaries hevents
  have hcode : OutOfCode (·.linkTarget?.isSome) false (events c.page.markdown) := outOfCode_events (fun _ => rfl) rfl _
  have hnamed : named = scan.mentions := by
    simp only [named, htokens, himperatives, hwarnings]
    rfl
  have hread : options.schedule = true →
      scanLines? ((x.synthesis file options).lineMap x.bodyLine) 0 (linePairs ranges body) = some scan := by
    intro hschedule
    rw [Synthesis.scan?, if_pos hschedule, Synthesis.skipRanges, ← hmarkdown] at hscan
    exact scanLines?_of_scan? hscan
  refine ⟨(x.synthesis file options).lineMap x.bodyLine, fun m hm => ?_,
    fun r hr m n hm => (hm.standsOutside hranges).2 r hr, fun hschedule => ⟨fun m n hm => ?_, ?_⟩,
    fun e he target ht => ⟨nothingNamedIn_autolink hevents hcode he ht, fun hkind front raw back hlink =>
      masksLink hevents hcode he ht hkind hlink⟩⟩
  · cases hschedule : options.schedule with
    | true => exact (mem_mentions_iff_namesAt hranges (hread hschedule)).1 (hnamed ▸ hm)
    | false =>
      rw [Synthesis.scan?, hschedule, if_neg Bool.false_ne_true] at hscan
      obtain rfl := Option.some.inj hscan
      rw [hnamed] at hm
      cases hm
  · exact hnamed ▸ (mem_mentions_iff_namesAt hranges (hread hschedule)).2 ⟨n, hm⟩
  · intro before p after place hp hopens
    exact exists_namesAt_of_opensToken hranges (hread hschedule) hp hopens

/-- A link with a time in its text and a day in its destination. -/
def linkToToday : String := "[@9am](/@today)"

theorem linkToToday_unnamed : ∃ c lines, compile linkToToday "page.md" {} = .ok c ∧
    (∀ e ∈ events c.page.markdown, e.span.OnBoundaries c.page.markdown.toList) ∧
    mentionsOf c.page.schedules c.page.imperatives c.warnings = [⟨"@9am", 1, 2⟩] ∧
    NothingNamedIn (skipRanges linkToToday.toList false (events linkToToday)) linkToToday.toList lines ⟨7, 14⟩ := by
  have hrun : (compile linkToToday "page.md" {}).toOption.any (fun c => c.page.markdown = linkToToday ∧
      mentionsOf c.page.schedules c.page.imperatives c.warnings = [⟨"@9am", 1, 2⟩]) = true := by
    decide +kernel
  have hevents : ∀ e ∈ events linkToToday, e.span.OnBoundaries linkToToday.toList := by decide +kernel
  have hlink : ⟨.start (.link ⟨.inline, "/@today", ""⟩), ⟨0, 15⟩⟩ ∈ events linkToToday := by decide +kernel
  have hcut : sliceBytes? linkToToday.toList 0 15 = some ("[@9am](".toList ++ "/@today".toList ++ ")".toList) := by
    decide +kernel
  obtain ⟨c, hcompile, hc⟩ := exists_ok_of_any hrun
  obtain ⟨hmarkdown, hmentions⟩ := of_decide_eq_true hc
  rw [← hmarkdown] at hevents
  obtain ⟨lines, -, -, -, hlinks⟩ := links_unnamed_where_written hcompile hevents
  rw [hmarkdown] at hlinks
  have hmasks := (hlinks _ hlink _ rfl).2 rfl _ _ _ hcut
  exact ⟨c, lines, hcompile, hevents, hmentions, hmasks.unnamed rfl (.inr (by decide))⟩

/-- A link with an escape in its destination, which is its text when it is decoded. -/
def escapedOffset : String := "[@in:5m](@in\\:5m)"

/-- **A destination that is scanned, and a text that is not.** The destination has the columns from 10 to 16, and a warning
is about what starts in column 10. The text has the columns from 2 to 7; it is masked, and its token is lost. -/
theorem escapedOffset_scanned :
    ⟨.start (.link ⟨.inline, "@in:5m", ""⟩), ⟨0, 17⟩⟩ ∈ events escapedOffset ∧
    escapedOffset.toList = "[".toList ++ "@in:5m".toList ++ "](".toList ++ "@in\\:5m".toList ++ ")".toList ∧
    destinationSpan? escapedOffset.toList ⟨0, 17⟩ ⟨.inline, "@in:5m", ""⟩ = some ⟨1, 7⟩ ∧
    ∃ c, compile escapedOffset "page.md" {} = .ok c ∧ c.page.schedules = [] ∧
      c.warnings.map (·.mention) = [⟨"@in\\:5m", 1, 10⟩] := by
  have hrun : (compile escapedOffset "page.md" {}).toOption.any (fun c => c.page.schedules = [] ∧
      c.warnings.map (·.mention) = [⟨"@in\\:5m", 1, 10⟩]) = true := by
    decide +kernel
  obtain ⟨c, hcompile, hc⟩ := exists_ok_of_any hrun
  exact ⟨by decide +kernel, by decide +kernel, by decide +kernel, c, hcompile, of_decide_eq_true hc⟩

end

end LivePage
