import LivePage.Proofs.Schedule.Form
/-!
# What leads an imperative

White space, quotation marks and list markers may come before the keyword of an imperative. They are looked for in the
masked line, in which code is white space too. So the line as written is led by the keyword only if what stands there, as
written, is white space and markers.
-/
namespace LivePage

open Text

/-! ## Markers -/

/-- A marker, and what comes after it: bullets and ordinals stand before white space. -/
inductive Marks : List Char → List Char → Prop
  | quote (rest : List Char) : Marks ['>'] rest
  | bullet {c b : Char} {rest : List Char} (hc : (c == '-' || c == '*' || c == '+') = true) (hb : isBlank b = true) :
      Marks [c] (b :: rest)
  | ordinal {digits : List Char} {d b : Char} {rest : List Char} (hne : digits ≠ [])
      (hdigits : ∀ c ∈ digits, c.isDigit = true) (hd : (d == '.' || d == ')') = true) (hb : isBlank b = true) :
      Marks (digits ++ [d]) (b :: rest)

/-- White space and markers. -/
inductive Lead : List Char → Prop
  | nil : Lead []
  | blank {c : Char} {cs : List Char} (hc : isBlank c = true) (h : Lead cs) : Lead (c :: cs)
  | marker {mark cs : List Char} (hmark : Marks mark cs) (h : Lead cs) : Lead (mark ++ cs)

section
variable {mark lead rest cs : List Char} {b c : Char} {offset : Nat}

theorem Marks.append (h : Marks mark cs) (rest : List Char) : Marks mark (cs ++ rest) := by
  cases h with
  | quote => exact .quote _
  | bullet hc hb => exact .bullet hc hb
  | ordinal hne hdigits hd hb => exact .ordinal hne hdigits hd hb

/-- The white space after a marker is no part of what goes on without white space. -/
theorem Marks.of_append (h : Marks mark (cs ++ rest)) (hrest : rest.head?.all (!isBlank ·) = true) : Marks mark cs := by
  generalize hcs : cs ++ rest = whole at h
  have hblank {b : Char} {more : List Char} (hb : isBlank b = true) (heq : cs ++ rest = b :: more) :
      ∃ more', cs = b :: more' := by
    cases cs with
    | nil =>
      obtain rfl : rest = b :: more := heq
      rw [List.head?_cons, Option.all_some, hb] at hrest
      cases hrest
    | cons c cs => exact ⟨cs, by rw [(List.cons.inj heq).1]⟩
  cases h with
  | quote => exact .quote _
  | bullet hc hb =>
    obtain ⟨more, rfl⟩ := hblank hb hcs
    exact .bullet hc hb
  | ordinal hne hdigits hd hb =>
    obtain ⟨more, rfl⟩ := hblank hb hcs
    exact .ordinal hne hdigits hd hb

/-- A character that is no quotation mark and no bullet starts at most an ordinal. -/
theorem markerLength_eq_ordinal (hquote : c ≠ '>') (hbullet : (c == '-' || c == '*' || c == '+') = false) (cs : List Char) :
    markerLength (c :: cs) = markerLength.ordinal (c :: cs) := by
  unfold markerLength
  split
  · rename_i heq
    exact absurd (List.cons.inj heq).1 hquote
  · rename_i heq
    rw [← (List.cons.inj heq).1, hbullet, Bool.false_and, if_neg Bool.false_ne_true]
  · rfl

theorem Marks.markerLength_eq (h : Marks mark rest) : markerLength (mark ++ rest) = mark.length := by
  cases h with
  | quote => rfl
  | @bullet c b rest hc hb =>
    have hquote : c ≠ '>' := by
      rintro rfl
      exact absurd hc (by decide)
    simp [markerLength, hc, hb]
  | @ordinal digits d b rest hne hdigits hd hb =>
    obtain ⟨c, digits, rfl⟩ := List.exists_cons_of_ne_nil hne
    have hdigit : c.isDigit = true := hdigits c List.mem_cons_self
    have hquote : c ≠ '>' := by
      rintro rfl
      exact absurd hdigit (by decide)
    have hbullet : (c == '-' || c == '*' || c == '+') = false := by
      rw [Bool.eq_false_iff]
      intro hc
      simp only [Bool.or_eq_true, beq_iff_eq] at hc
      rcases hc with (rfl | rfl) | rfl <;> exact absurd hdigit (by decide)
    have hstop : d.isDigit = false := by
      simp only [Bool.or_eq_true, beq_iff_eq] at hd
      rcases hd with rfl | rfl <;> decide
    rw [List.append_assoc, List.singleton_append, List.cons_append, markerLength_eq_ordinal hquote hbullet,
      ← List.cons_append]
    unfold markerLength.ordinal
    rw [takeWhile_append_cons hdigits hstop, dropWhile_append_cons hdigits hstop]
    simp [hd, hb]

/-- What is recognised as a marker is one. -/
theorem exists_marks_of_markerLength (h : 0 < markerLength cs) :
    ∃ mark rest, cs = mark ++ rest ∧ Marks mark rest ∧ mark.length = markerLength cs := by
  have hordinal (h : 0 < markerLength.ordinal cs) :
      ∃ mark rest, cs = mark ++ rest ∧ Marks mark rest ∧ mark.length = markerLength.ordinal cs := by
    unfold markerLength.ordinal at h ⊢
    dsimp only at h ⊢
    split at h
    · rename_i first digits d b rest hdigits hrest
      split_ifs at h with hdot
      · rw [Bool.and_eq_true] at hdot
        have hcs : cs = (cs.takeWhile Char.isDigit ++ [d]) ++ b :: rest := by
          rw [List.append_assoc, List.singleton_append, ← hrest, List.takeWhile_append_dropWhile]
        refine ⟨_, _, hcs, .ordinal (by simp [hdigits]) (fun c hc => List.mem_takeWhile_imp hc) hdot.1 hdot.2, ?_⟩
        simp [hdigits, hdot]
      · cases h
    · cases h
  unfold markerLength at h ⊢
  split at h
  · exact ⟨['>'], _, rfl, .quote _, rfl⟩
  · rename_i c b rest _
    split_ifs at h ⊢ with hbullet
    · rw [Bool.and_eq_true] at hbullet
      exact ⟨[c], b :: rest, rfl, .bullet hbullet.1 hbullet.2, rfl⟩
    · exact hordinal h
  · exact hordinal h

/-! ## What is skipped -/

theorem skipMarkers_blank (hb : isBlank b = true) (cs : List Char) :
    skipMarkers offset (b :: cs) = skipMarkers (offset + b.utf8Size) cs := by
  conv_lhs => rw [skipMarkers]
  conv_rhs => rw [skipMarkers]
  rw [List.dropWhile_cons_of_pos hb, List.takeWhile_cons_of_pos hb, byteLength_cons, ← Nat.add_assoc]

theorem Marks.byteLength_eq (h : Marks mark rest) : byteLength mark = mark.length := by
  have htake := byteLength_take_markerLength (mark ++ rest)
  rwa [h.markerLength_eq, List.take_left] at htake

theorem Marks.exists_cons (h : Marks mark rest) : ∃ c more, mark = c :: more ∧ isBlank c = false := by
  cases h with
  | quote => exact ⟨'>', [], rfl, by decide⟩
  | @bullet c _ _ hc =>
    simp only [Bool.or_eq_true, beq_iff_eq] at hc
    rcases hc with (rfl | rfl) | rfl <;> exact ⟨_, [], rfl, by decide⟩
  | @ordinal digits d _ _ hne hdigits =>
    obtain ⟨c, more, rfl⟩ := List.exists_cons_of_ne_nil hne
    exact ⟨c, more ++ [d], rfl, isBlank_of_isDigit (hdigits c List.mem_cons_self)⟩

theorem skipMarkers_marks (h : Marks mark rest) :
    skipMarkers offset (mark ++ rest) = skipMarkers (offset + byteLength mark) rest := by
  obtain ⟨c, more, rfl, hc⟩ := h.exists_cons
  have hdrop : (c :: more ++ rest).dropWhile isBlank = c :: more ++ rest := List.dropWhile_cons_of_neg (by simp [hc])
  have htake : (c :: more ++ rest).takeWhile isBlank = [] := List.takeWhile_cons_of_neg (by simp [hc])
  conv_lhs => rw [skipMarkers]
  simp only [hdrop, htake, h.markerLength_eq]
  rw [dif_pos (by simp), List.drop_left, h.byteLength_eq, byteLength_nil, Nat.add_zero]

/-- Nothing is skipped before a character that is no white space and starts no marker. -/
theorem skipMarkers_stop (hc : isBlank c = false) (h : markerLength (c :: cs) = 0) :
    skipMarkers offset (c :: cs) = (offset, c :: cs) := by
  rw [skipMarkers]
  have hdrop : (c :: cs).dropWhile isBlank = c :: cs := List.dropWhile_cons_of_neg (by simp [hc])
  have htake : (c :: cs).takeWhile isBlank = [] := List.takeWhile_cons_of_neg (by simp [hc])
  simp only [hdrop, htake, h]
  rfl

theorem head?_skipMarkers (offset : Nat) (cs : List Char) : (skipMarkers offset cs).2.head?.all (!isBlank ·) = true := by
  fun_induction skipMarkers offset cs with
  | case1 offset cs rest start n h ih => exact ih
  | case2 offset cs rest start n h => exact head?_dropWhile isBlank cs

theorem Lead.append_blank {gap : List Char} (hgap : Blank gap) (h : Lead cs) : Lead (gap ++ cs) := by
  induction gap with
  | nil => exact h
  | cons c gap ih => exact .blank (hgap c List.mem_cons_self) (ih fun d hd => hgap d (List.mem_cons_of_mem _ hd))

theorem exists_lead_of_skipMarkers (offset : Nat) (cs : List Char) :
    ∃ lead, cs = lead ++ (skipMarkers offset cs).2 ∧ Lead lead := by
  fun_induction skipMarkers offset cs with
  | case1 offset cs rest start n h ih =>
    obtain ⟨lead, hrest, hlead⟩ := ih
    obtain ⟨mark, more, hmark, hmarks, hlength⟩ := exists_marks_of_markerLength h.1
    have hmore : rest.drop n = more := by rw [show n = mark.length from hlength.symm, hmark, List.drop_left]
    rw [hmore] at hrest ⊢
    have hhead := head?_skipMarkers (start + n) more
    refine ⟨cs.takeWhile isBlank ++ (mark ++ lead), ?_, ?_⟩
    · rw [List.append_assoc, List.append_assoc, ← hrest, ← hmark, List.takeWhile_append_dropWhile]
    · rw [hrest] at hmarks
      exact (Lead.marker (hmarks.of_append hhead) hlead).append_blank fun _ => List.mem_takeWhile_imp
  | case2 offset cs rest start n h =>
    exact ⟨cs.takeWhile isBlank, List.takeWhile_append_dropWhile.symm,
      by simpa using Lead.nil.append_blank fun _ => List.mem_takeWhile_imp⟩

end

/-- The words that lead imperatives which ask for this kind of action. -/
def ImperativeAction.keyword : ImperativeAction → List Char
  | notify _ => Imperative.notifyKeyword
  | runAction _ _ => Imperative.runKeyword

namespace Imperative

variable {masked unmasked lead rest tail keyword : List Char} {c : Char} {i : Nat}

/-! ## Keywords -/

/-- What may lead an imperative. -/
def keywords : List (List Char) := [notifyKeyword, runKeyword]

/-- A line is led by a keyword, after white space and markers. -/
def LeadsWithKeyword (line : List Char) : Prop := ∃ k ∈ keywords, k <+: (skipMarkers 0 line).2

instance : DecidablePred LeadsWithKeyword := fun line =>
  inferInstanceAs (Decidable (∃ k ∈ keywords, k <+: (skipMarkers 0 line).2))

/-- The first character of a keyword. -/
def IsInitial (c : Char) : Prop := c = 'N' ∨ c = 'R'

/-- A keyword has such a character at its start and nowhere else. -/
theorem exists_initial (h : keyword ∈ keywords) :
    ∃ c more, keyword = c :: more ∧ IsInitial c ∧ ∀ d ∈ more, ¬ IsInitial d := by
  simp only [keywords, List.mem_cons, List.not_mem_nil, or_false] at h
  rcases h with rfl | rfl
  · refine ⟨'N', "otify ".toList, rfl, .inl rfl, ?_⟩
    rintro d hd (rfl | rfl) <;> exact absurd hd (by decide)
  · refine ⟨'R', "un action:".toList, rfl, .inr rfl, ?_⟩
    rintro d hd (rfl | rfl) <;> exact absurd hd (by decide)

/-- Keywords are known by their first characters. -/
theorem eq_of_initial {k more more' : List Char} (hk : k ∈ keywords) (hkeyword : keyword ∈ keywords) (h : k = c :: more)
    (h' : keyword = c :: more') : k = keyword := by
  simp only [keywords, List.mem_cons, List.not_mem_nil, or_false] at hk hkeyword
  rcases hk with rfl | rfl <;> rcases hkeyword with rfl | rfl
  · rfl
  · cases h
    cases h'
  · cases h
    cases h'
  · rfl

theorem IsInitial.not_mem_marks {mark : List Char} (hc : IsInitial c) (h : Marks mark rest) : c ∉ mark := by
  intro hmem
  cases h with
  | quote => rcases hc with rfl | rfl <;> exact absurd hmem (by decide)
  | bullet hbullet =>
    obtain rfl := List.mem_singleton.1 hmem
    rcases hc with rfl | rfl <;> exact absurd hbullet (by decide)
  | ordinal _ hdigits hd =>
    rcases List.mem_append.1 hmem with hmem | hmem
    · have hdigit := hdigits c hmem
      rcases hc with rfl | rfl <;> exact absurd hdigit (by decide)
    · obtain rfl := List.mem_singleton.1 hmem
      rcases hc with rfl | rfl <;> exact absurd hd (by decide)

/-- No keyword starts within white space and markers. -/
theorem IsInitial.not_mem_lead (hc : IsInitial c) (h : Lead lead) : c ∉ lead := by
  induction h with
  | nil => exact List.not_mem_nil
  | blank hb _ ih =>
    refine List.not_mem_cons_of_ne_of_not_mem ?_ ih
    rintro rfl
    rcases hc with rfl | rfl <;> exact absurd hb (by decide)
  | marker hmark _ ih => exact fun hmem => (List.mem_append.1 hmem).elim (hc.not_mem_marks hmark) ih

/-- **White space and markers are skipped**, up to where a keyword may start. -/
theorem skipMarkers_lead (h : Lead lead) (hc : IsInitial c) (offset : Nat) (cs : List Char) :
    skipMarkers offset (lead ++ c :: cs) = (offset + byteLength lead, c :: cs) := by
  induction h generalizing offset with
  | nil => rcases hc with rfl | rfl <;> exact skipMarkers_stop (by decide) (markerLength_eq_ordinal (by decide) (by decide) _)
  | blank hb _ ih => rw [List.cons_append, skipMarkers_blank hb, ih, byteLength_cons, Nat.add_assoc]
  | marker hmark _ ih =>
    rw [List.append_assoc, skipMarkers_marks (hmark.append _), ih, byteLength_append, Nat.add_assoc]

/-- A line which goes on with the first character of a keyword after some text is led by that keyword, if the text is
white space and markers and the keyword stands there, or it is led by a keyword within that text. -/
theorem leadsWithKeyword_iff (hkeyword : keyword ∈ keywords) (hrest : rest.head? = keyword.head?) :
    LeadsWithKeyword (lead ++ rest) ↔ (Lead lead ∧ keyword <+: rest) ∨
      ∃ front k back, lead = front ++ (k ++ back) ∧ Lead front ∧ k ∈ keywords := by
  obtain ⟨c, more, hcons, hc, -⟩ := exists_initial hkeyword
  obtain ⟨after, rfl⟩ : ∃ after, rest = c :: after := by
    rw [hcons, List.head?_cons] at hrest
    exact List.head?_eq_some_iff.1 hrest
  constructor
  · rintro ⟨k, hk, hprefix⟩
    obtain ⟨d, more', hdcons, -, hmore'⟩ := exists_initial hk
    by_cases hlead : Lead lead
    · rw [skipMarkers_lead hlead hc, hdcons, List.cons_prefix_cons] at hprefix
      obtain ⟨rfl, hprefix⟩ := hprefix
      rw [← eq_of_initial hk hkeyword hdcons hcons, hdcons, List.cons_prefix_cons]
      exact .inl ⟨hlead, rfl, hprefix⟩
    · -- The keyword comes before the end of the text, and has no such character but its first one.
      obtain ⟨front, hline, hfront⟩ := exists_lead_of_skipMarkers 0 (lead ++ c :: after)
      obtain ⟨back, hback⟩ := hprefix
      rw [← hback] at hline
      right
      rcases List.append_eq_append_iff.1 hline with ⟨gap, rfl, hgap⟩ | ⟨gap, rfl, hgap⟩
      · cases gap with
        | nil => exact absurd (by simpa using hfront) hlead
        | cons e gap =>
          obtain rfl := (List.cons.inj hgap).1
          exact absurd (by simp) (hc.not_mem_lead hfront)
      · rcases List.append_eq_append_iff.1 hgap with ⟨x, rfl, -⟩ | ⟨x, rfl, hx⟩
        · exact ⟨front, k, x, rfl, hfront, hk⟩
        · cases x with
          | nil => exact ⟨front, gap, [], by simp, hfront, by simpa using hk⟩
          | cons e x =>
            obtain rfl := (List.cons.inj hx).1
            cases gap with
            | nil => exact absurd (by simpa using hfront) hlead
            | cons g gap => exact absurd hc (hmore' c (by rw [← (List.cons.inj hdcons).2]; simp))
  · rintro (⟨hlead, hprefix⟩ | ⟨front, k, back, rfl, hfront, hk⟩)
    · refine ⟨keyword, hkeyword, ?_⟩
      rwa [skipMarkers_lead hlead hc]
    · obtain ⟨d, more', rfl, hd, -⟩ := exists_initial hk
      refine ⟨d :: more', hk, ?_⟩
      rw [List.append_assoc, List.append_assoc, List.cons_append, skipMarkers_lead hfront hd]
      exact List.prefix_append (d :: more') (back ++ c :: after)

/-! ## Lines of bodies -/

theorem keyword_mem (action : ImperativeAction) : action.keyword ∈ keywords := by
  cases action with
  | notify => exact List.mem_cons_self
  | runAction => exact List.mem_cons_of_mem _ List.mem_cons_self

/-- A masked line is led by the keyword of the imperative that is read from it. -/
theorem ReadFrom.goesOn {ranges : List Span} {lines : LineMap} {body : List Char} {imperative : Imperative}
    (h : imperative.ReadFrom ranges lines body masked unmasked) :
    ∃ start ws, GoesOn masked imperative.action.keyword start ws := by
  have hfound := h.action?_eq
  have hform := form_spec masked
  cases hf : form masked with
  | notification start ws =>
    rw [hf] at hform hfound
    obtain ⟨rest, -, haction⟩ := Option.map_eq_some_iff.1 hfound
    exact ⟨start, ws, by rw [← Option.some.inj haction]; exact hform⟩
  | run start ws =>
    rw [hf] at hform hfound
    refine ⟨start, ws, ?_⟩
    cases ws with
    | nil => cases hfound
    | cons name rest =>
      rw [← Option.some.inj (Option.some.inj hfound)]
      exact hform
  | prose =>
    rw [hf] at hfound
    cases hfound

end Imperative

open Imperative

/-- **Imperatives lead their lines once these are masked.** Only white space and markers come before the keyword in the
masked line. As many bytes come before its first character in the line as written. That line is led by a keyword iff these
are white space and markers too and the keyword stands there as written, or another keyword leads within them. -/
theorem leadsAsWritten_iff {body : String} {ranges : List Span} {lines : LineMap} {r : ScanResult}
    (h : scan? body ranges lines = some r) {imperative : Imperative} (himperative : imperative ∈ r.imperatives) :
    ∃ masked unmasked, imperative.ReadFrom ranges lines body.toList masked unmasked ∧
      ∃ lead tail before rest,
        masked = lead ++ (imperative.action.keyword ++ tail) ∧ Lead lead ∧
        unmasked = before ++ rest ∧ byteLength before = byteLength lead ∧
        (LeadsWithKeyword unmasked ↔ (Lead before ∧ imperative.action.keyword <+: rest) ∨
          ∃ front k back, before = front ++ (k ++ back) ∧ Lead front ∧ k ∈ keywords) := by
  obtain ⟨masked, unmasked, hread⟩ := exists_readFrom_of_scan? h himperative
  refine ⟨masked, unmasked, hread, ?_⟩
  obtain ⟨used, -, i, hmasks⟩ := hread.masks
  obtain ⟨start, ws, lead, tail, hmasked, hskip, -⟩ := hread.goesOn
  rw [List.append_assoc] at hmasked
  have hlead : Lead lead := by
    obtain ⟨lead', hmasked', hlead⟩ := exists_lead_of_skipMarkers 0 masked
    rw [hskip, hmasked, List.append_cancel_right_eq] at hmasked'
    rwa [hmasked']
  have hkeyword := keyword_mem imperative.action
  obtain ⟨c, more, hcons, hc, -⟩ := exists_initial hkeyword
  have hspace : c ≠ ' ' := by rcases hc with rfl | rfl <;> decide
  rw [hmasked, hcons, List.cons_append] at hmasks
  obtain ⟨before, after, rfl, hbefore, -, -⟩ := hmasks.split_at hspace
  exact ⟨lead, tail, before, c :: after, hmasked, hlead, rfl, hbefore.byteLength_eq.symm,
    leadsWithKeyword_iff hkeyword (by rw [hcons]; rfl)⟩

/-- A quoted item of a list, with white space that is to be skipped and code in its message. -/
def quotedNotice : String := "> 1. \tNotify see `x`"

theorem quotedNotice_leads :
    let ranges : List Span := [⟨4, 6⟩, ⟨17, 20⟩]
    let lines := LineMap.identity quotedNotice 1
    ∃ r imperative, scan? quotedNotice ranges lines = some r ∧ imperative ∈ r.imperatives ∧
      imperative.action = .notify "see `x`" ∧
      ∃ masked unmasked, imperative.ReadFrom ranges lines quotedNotice.toList masked unmasked ∧
        masked = "> 1.  Notify see    ".toList ∧ LeadsWithKeyword unmasked := by
  intro ranges lines
  have hscan : (scan? quotedNotice ranges lines).map (·.imperatives.map (·.action)) = some [.notify "see `x`"] := by
    decide +kernel
  obtain ⟨r, hr, hactions⟩ := Option.map_eq_some_iff.1 hscan
  obtain ⟨imperative, himperative, haction⟩ := List.mem_map.1 (hactions ▸ List.mem_cons_self)
  obtain ⟨masked, unmasked, hread, lead, tail, before, rest, hmasked, hlead, hwritten, hbefore, hiff⟩ :=
    leadsAsWritten_iff hr himperative
  have hpairs : linePairs ranges quotedNotice.toList = [("> 1.  Notify see    ".toList, quotedNotice.toList)] := by
    decide +kernel
  obtain ⟨p, hp, rfl, rfl⟩ := hread.mem_linePairs
  obtain rfl := List.mem_singleton.1 (hpairs ▸ hp)
  refine ⟨r, imperative, hr, himperative, haction, _, _, hread, by decide +kernel, hiff.2 (.inl ?_)⟩
  rw [haction] at hmasked ⊢
  -- What comes before the keyword as written has as many bytes as what is skipped of the masked line.
  have hlength : byteLength before = 6 := by
    have hskip : skipMarkers 0 (lead ++ (notifyKeyword ++ tail)) = (0 + byteLength lead, notifyKeyword ++ tail) :=
      skipMarkers_lead hlead (.inl rfl) 0 ("otify ".toList ++ tail)
    have hmarkers : (skipMarkers 0 (dropLineEnd "> 1.  Notify see    ".toList)).1 = 6 := by decide +kernel
    change dropLineEnd "> 1.  Notify see    ".toList = lead ++ (notifyKeyword ++ tail) at hmasked
    rw [hmasked, hskip, Nat.zero_add] at hmarkers
    exact hbefore.trans hmarkers
  have hline : dropLineEnd quotedNotice.toList = "> 1. \t".toList ++ "Notify see `x`".toList := by decide +kernel
  obtain ⟨rfl, rfl⟩ := append_inj_of_byteLength (hwritten.symm.trans hline) hlength
  refine ⟨.marker (.quote _) (.blank (by decide) ?_), by decide +kernel⟩
  have hordinal : Marks (['1'] ++ ['.']) [' ', '\t'] :=
    .ordinal (by decide) (by simp) (by decide) (by decide)
  exact .marker hordinal (.blank (by decide) (.blank (by decide) .nil))

/-- **Code may lead the line of an imperative.** The masked line starts with white space and the keyword, but what is
written starts with code. -/
theorem codeLeads_imperative :
    let line := "`x` Notify hi"
    (scan? line [⟨0, 3⟩] (.identity line 1)).map (·.imperatives.map (·.action)) = some [.notify "hi"] ∧
    ¬ LeadsWithKeyword line.toList := by
  intro line
  exact ⟨by decide +kernel, by decide +kernel⟩

end LivePage
