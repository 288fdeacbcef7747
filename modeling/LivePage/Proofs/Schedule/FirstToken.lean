import LivePage.Proofs.Schedule.Form
import LivePage.Proofs.Text.Ink
/-!
# The first token of an imperative

An imperative is meant to use the first candidate token among its words. The parser looks for the first word with an at
sign instead, so the two part at an at sign alone: it takes the place of the token, and its text is lost.
-/
namespace LivePage.Imperative

open Text

variable {masked unmasked : List Char} {line i : Nat} {ranges : List Span}

/-- The words of a line that count as tokens for the parser are its candidates and its lone at signs. -/
theorem isCandidate_of_mem_words {w : PlacedWord} (hw : w ∈ (form masked).words) :
    w.isCandidate masked = (w.isToken && !w.isLoneSign) := (standsApart_of_mem_words hw).isCandidate_eq

namespace Form

variable {counts : PlacedWord → Bool} {f : Form} {w : PlacedWord} {ws : List PlacedWord}

/-- An at sign alone, where it counts as a token, does not change which words have one. -/
theorem filterMap_token?_eq (hcounts : ∀ w ∈ ws, counts w = (w.isToken && !w.isLoneSign)) (line : Nat) :
    (ws.filter (·.isToken)).filterMap (·.token? line) = (ws.filter counts).filterMap (·.token? line) := by
  rw [List.filter_congr hcounts, List.filterMap_filter, List.filterMap_filter]
  refine List.filterMap_congr fun w _ => ?_
  cases hlone : w.isLoneSign with
  | true => simp [PlacedWord.token?_eq_none_of_isLoneSign hlone]
  | false => simp

/-- A rule that leaves out lone at signs gives the same reading, if no such sign is taken for the token. -/
theorem read_eq (hcounts : ∀ w ∈ f.words, counts w = (w.isToken && !w.isLoneSign))
    (h : ∀ w, f.tokenWord? (·.isToken) = some w → w.isLoneSign = false) (unmasked : List Char) (line : Nat) :
    f.read (·.isToken) unmasked line = f.read counts unmasked line := by
  cases f with
  | notification start ws =>
    have hhead : ws.head?.filter counts = ws.head?.filter (·.isToken) := by
      cases ws with
      | nil => rfl
      | cons w ws =>
        have hw := hcounts w List.mem_cons_self
        cases hsign : w.isToken with
        | false => simp [Option.filter, hw, hsign]
        | true =>
          have hlone : w.isLoneSign = false := h w (by simp [tokenWord?, Option.filter, hsign])
          simp [Option.filter, hw, hsign, hlone]
    have hothers : ∀ w ∈ (if (ws.head?.filter (·.isToken)).isSome then ws.tail else ws),
        counts w = (w.isToken && !w.isLoneSign) := by
      intro w hw
      split_ifs at hw
      · exact hcounts w (List.mem_of_mem_tail hw)
      · exact hcounts w hw
    simp only [read, tokenWord?, action?, repeated, hhead, filterMap_token?_eq hothers]
    rfl
  | run start ws =>
    cases ws with
    | nil => rfl
    | cons name rest =>
      have hunsigned {w : PlacedWord} (hw : w ∈ rest) (hsign : w.isToken = false) : counts w = false := by
        rw [hcounts w hw, hsign, Bool.false_and]
      -- The first word with a sign is no lone sign, so the same word is the first that counts.
      cases hfind : rest.find? (·.isToken) with
      | none =>
        have hsigns : ∀ w ∈ rest, w.isToken = false := fun w hw => by simpa using List.find?_eq_none.1 hfind w hw
        obtain ⟨hfind, herase, hfilter⟩ := none_spec hsigns
        obtain ⟨hfind', herase', hfilter'⟩ := none_spec fun w hw => hunsigned hw (hsigns w hw)
        simp only [read, tokenWord?, action?, repeated, List.tail_cons, hfind, herase, hfilter, hfind', herase', hfilter']
      | some w =>
        obtain ⟨hsign, first, last, rfl, hfirst⟩ := List.find?_eq_some_iff_append.1 hfind
        have hsigns : ∀ v ∈ first, v.isToken = false := fun v hv => by simpa using hfirst v hv
        have hw : counts w = true := by rw [hcounts w (by simp [words]), hsign, h w hfind]; rfl
        have hlast : ∀ v ∈ last, counts v = (v.isToken && !v.isLoneSign) := fun v hv => hcounts v (by simp [words, hv])
        obtain ⟨hfind, herase, hfilter⟩ := first_spec hsigns hsign last
        obtain ⟨hfind', herase', hfilter'⟩ := first_spec (fun v hv => hunsigned (List.mem_append_left _ hv) (hsigns v hv)) hw last
        simp only [read, tokenWord?, action?, repeated, List.tail_cons, hfind, herase, hfilter, hfind', herase', hfilter',
          filterMap_token?_eq hlast]
  | prose => rfl

/-! ## A lone at sign -/

/-- A text that holds a word is not the text after the word, whatever white space is trimmed. -/
theorem trim_ne_of_word {gap text after : List Char} (hne : text ≠ []) (htext : ∀ c ∈ text, isBlank c = false) :
    trim after ≠ trim (gap ++ (text ++ after)) := by
  intro heq
  have hink := congrArg (List.length ∘ ink) heq
  simp only [Function.comp, ink_trim, ink_append, ink_eq_self htext, List.length_append] at hink
  have hpos := List.length_pos_of_ne_nil hne
  omega

/-- Notifications at no time with different messages are different, if one of them says nothing too. -/
theorem message_inj {m n raw : String} {line : Nat}
    (h : ((some (ImperativeAction.notify m)).filter fun a => a ≠ .notify "" ∨ (none : Option ScheduleToken).isSome).map
        (Imperative.mk · none line raw) =
      ((some (ImperativeAction.notify n)).filter fun a => a ≠ .notify "" ∨ (none : Option ScheduleToken).isSome).map
        (Imperative.mk · none line raw)) : m = n := by
  by_cases hm : m = "" <;> by_cases hn : n = "" <;> simp_all [Option.filter_some]

/-- A notification that starts with a lone at sign drops it, though it is text for a rule by which it does not count. -/
theorem read_notification_ne {start : Nat} (h : ws.head?.filter (·.isToken) = some w) (hlone : w.isLoneSign = true)
    (hcounts : counts w = false) (hstart : start ≤ w.start) (hin : w.IsIn 0 unmasked) (line : Nat) :
    (notification start ws).read (·.isToken) unmasked line ≠ (notification start ws).read counts unmasked line := by
  have hnone : ws.head?.filter counts = none := by
    rw [(Option.filter_eq_some_iff.1 h).1, Option.filter_some_neg hcounts]
  obtain ⟨before, after, rfl, hbefore⟩ := hin.stands
  rw [Nat.zero_add] at hbefore
  have hafter : dropBytes? (before ++ w.text ++ after) w.stop = some after :=
    dropBytes?_eq_some_iff.2 ⟨before ++ w.text, rfl, by rw [byteLength_append, hbefore, PlacedWord.stop]⟩
  simp only [read, tokenWord?, action?, h, hnone, Option.map_some, Option.getD_some, hafter, Option.bind_some, Option.map_none,
    Option.getD_none, Option.bind_none, PlacedWord.token?_eq_none_of_isLoneSign hlone]
  intro heq
  cases hdrop : dropBytes? (before ++ w.text ++ after) start with
  | none =>
    rw [hdrop] at heq
    cases heq
  | some written =>
    rw [hdrop] at heq
    have hmessage := String.ofList_injective (message_inj (Prod.mk.inj (Option.some.inj heq)).1)
    -- What comes after the keyword holds the sign, so it is not what comes after the sign.
    obtain ⟨lead, hcut, hlead⟩ := dropBytes?_eq_some_iff.1 hdrop
    obtain ⟨gap, rfl⟩ : ∃ gap, written = gap ++ (w.text ++ after) := by
      rw [List.append_assoc] at hcut
      rcases List.append_eq_append_iff.1 hcut with ⟨more, rfl, hmore⟩ | ⟨more, rfl, hmore⟩
      · rw [byteLength_append] at hlead
        obtain rfl := eq_nil_of_byteLength (show byteLength more = 0 by omega)
        exact ⟨[], by simpa using hmore.symm⟩
      · exact ⟨more, hmore⟩
    exact trim_ne_of_word hin.ne_nil hin.not_blank hmessage

theorem action_read_run (start : Nat) (name : PlacedWord) (rest : List PlacedWord) (unmasked : List Char) (line : Nat) :
    ((run start (name :: rest)).read counts unmasked line).map (fun found => found.1.map (·.action)) =
      some (some (.runAction (String.ofList name.text) ((rest.eraseP counts).map fun w => String.ofList w.text))) := by
  simp [read, action?, Option.filter]

/-- The run of an action that has a lone at sign before all other words with such signs drops it from its arguments, though
it is an argument for a rule by which it does not count. -/
theorem read_run_ne {start : Nat} (h : ws.tail.find? (·.isToken) = some w) (hlone : w.isLoneSign = true)
    (hcounts : ∀ v ∈ ws.tail, counts v = (v.isToken && !v.isLoneSign)) (unmasked : List Char) (line : Nat) :
    (run start ws).read (·.isToken) unmasked line ≠ (run start ws).read counts unmasked line := by
  obtain ⟨name, rest, rfl⟩ : ∃ name rest, ws = name :: rest := by
    cases ws with
    | nil => cases h
    | cons name rest => exact ⟨name, rest, rfl⟩
  obtain ⟨hsign, first, last, hrest, hfirst⟩ := List.find?_eq_some_iff_append.1 h
  obtain rfl : rest = first ++ w :: last := hrest
  have hw : counts w = false := by rw [hcounts w (by simp), hlone, Bool.not_true, Bool.and_false]
  have hunsigned : ∀ v ∈ first, counts v = false := fun v hv => by
    rw [hcounts v (by simp [hv]), show v.isToken = false by simpa using hfirst v hv, Bool.false_and]
  obtain ⟨-, herase, -⟩ := first_spec (fun v hv => by simpa using hfirst v hv) hsign last
  have herase' : (first ++ w :: last).eraseP counts = first ++ w :: last.eraseP counts := by
    rw [List.eraseP_append_right _ fun v hv => by rw [hunsigned v hv]; decide, List.eraseP_cons_of_neg (by simp [hw])]
  intro heq
  have hargs := congrArg (Option.map fun found => found.1.map (·.action)) heq
  rw [action_read_run, action_read_run, herase, herase'] at hargs
  simp only [Option.some.injEq, ImperativeAction.runAction.injEq, true_and, List.map_append, List.map_cons,
    List.append_cancel_left_eq] at hargs
  rcases List.exists_or_eq_self_of_eraseP counts last with hnone | ⟨v, front, back, -, hv, rfl, hcut⟩
  · rw [hnone] at hargs
    simpa using congrArg List.length hargs
  · -- The lone sign and the candidate that is cut out instead would be the same text.
    rw [hcut] at hargs
    have hcount := congrArg (List.count (String.ofList w.text)) hargs
    simp only [List.map_append, List.map_cons, List.count_append, List.count_cons, beq_self_eq_true, if_true] at hcount
    have htext : v.text = w.text := by
      by_contra hne
      rw [if_neg (by simpa using fun h => hne (String.ofList_injective h))] at hcount
      omega
    rw [hcounts v (by simp), PlacedWord.isLoneSign, PlacedWord.isToken, htext] at hv
    rw [PlacedWord.isLoneSign, PlacedWord.isToken] at hlone
    rw [hlone, Bool.not_true, Bool.and_false] at hv
    cases hv

end Form

/-! ## Lines of bodies -/

/-- **Imperatives use the first candidate, but for lone at signs.** The words that count as tokens for the parser are those
with an at sign; a candidate has more than the sign. A line is read with its first candidate, and all else in it is text,
iff the parser does not take a lone at sign for its token. -/
theorem parseLine?_eq_read_candidates_iff {body : String} {p : List Char × List Char}
    (hp : p ∈ linePairs ranges body.toList) (number : Nat) :
    let masked := dropLineEnd p.1
    let unmasked := dropLineEnd p.2
    (∀ w ∈ (form masked).words, w.isCandidate masked = (w.isToken && !w.isLoneSign)) ∧
    parseLine? masked unmasked number = (form masked).read (·.isToken) unmasked number ∧
    (parseLine? masked unmasked number = (form masked).read (·.isCandidate masked) unmasked number ↔
      ∀ w, (form masked).tokenWord? (·.isToken) = some w → w.isLoneSign = false) := by
  intro masked unmasked
  obtain ⟨used, -, start, hmasks⟩ := exists_masks_of_mem_linePairs hp
  have hparse := parseLine?_eq_read hmasks number
  refine ⟨fun w => isCandidate_of_mem_words, hparse, ?_⟩
  rw [hparse]
  constructor
  · intro heq w hw
    by_contra hlone
    rw [Bool.not_eq_false] at hlone
    obtain ⟨hword, hsign⟩ := Form.tokenWord?_spec hw
    have hcandidate : w.isCandidate masked = false := by
      rw [isCandidate_of_mem_words hword, hlone, Bool.not_true, Bool.and_false]
    have hform := form_spec masked
    cases hf : form masked with
    | notification start ws =>
      rw [hf] at heq hw hform hword
      obtain ⟨before, tail, -, -, -, hspaced⟩ := GoesOn.spaced hform
      have hin := ((standsApart_of_mem_words (hf ▸ hword)).isIn (PlacedWord.ne_nil_of_isToken hsign)).unmask hmasks
      exact Form.read_notification_ne hw hlone hcandidate (hspaced.offset_le hword) hin number heq
    | run start ws =>
      rw [hf] at heq hw
      refine Form.read_run_ne hw hlone (fun v hv => ?_) unmasked number heq
      exact isCandidate_of_mem_words (by rw [hf]; exact hv)
    | prose =>
      rw [hf] at hw
      cases hw
  · exact fun h => Form.read_eq (fun w => isCandidate_of_mem_words) h unmasked number

/-- The run of an action with code, a malformed token, a token that comes too late, and an at sign after both. -/
def lateLoneSign : String := "Run action:sync `@9am` @25. @daily @ x"

theorem lateLoneSign_isText :
    let ranges : List Span := [⟨16, 22⟩]
    let p := ("Run action:sync        @25. @daily @ x".toList, lateLoneSign.toList)
    p ∈ linePairs ranges lateLoneSign.toList ∧
    ((form (dropLineEnd p.1)).tokenWord? (·.isToken)).map (·.text) = some "@25.".toList ∧
    parseLine? (dropLineEnd p.1) (dropLineEnd p.2) 1 = some (some ⟨.runAction "sync" ["@daily", "@", "x"], none, 1, lateLoneSign⟩,
      [⟨"@daily", 1, 29, "multiple schedule tokens in imperative; only the first is used"⟩]) ∧
    parseLine? (dropLineEnd p.1) (dropLineEnd p.2) 1 =
      (form (dropLineEnd p.1)).read (·.isCandidate (dropLineEnd p.1)) (dropLineEnd p.2) 1 := by
  intro ranges p
  have hp : p ∈ linePairs ranges lateLoneSign.toList := by decide +kernel
  have htoken : (form (dropLineEnd p.1)).tokenWord? (·.isToken) = some ⟨23, "@25.".toList⟩ := by decide +kernel
  refine ⟨hp, by rw [htoken]; rfl, by decide +kernel, (parseLine?_eq_read_candidates_iff hp 1).2.2.2 fun w hw => ?_⟩
  obtain rfl := Option.some.inj (htoken.symm.trans hw)
  decide +kernel

/-- **A lone at sign takes the place of the token.** The scan finds one candidate on the line, `@daily`, and the sign before
it is text; but the parser drops the sign, uses no token, and warns that the only one there is comes too late. -/
theorem loneSign_takesToken :
    let line := "Run action:sync @ @daily now".toList
    (form line).words.map (fun w => (String.ofList w.text, w.isCandidate line)) =
      [("@", false), ("@daily", true), ("now", false)] ∧
    (form line).read (·.isCandidate line) line 1 = some (some ⟨.runAction "sync" ["@", "now"],
      some ⟨"@daily", 1, 19, .daily none⟩, 1, "Run action:sync @ @daily now"⟩, []) ∧
    parseLine? line line 1 = some (some ⟨.runAction "sync" ["@daily", "now"], none, 1, "Run action:sync @ @daily now"⟩,
      [⟨"@daily", 1, 19, "multiple schedule tokens in imperative; only the first is used"⟩]) := by
  intro line
  refine ⟨by decide +kernel, by decide +kernel, by decide +kernel⟩

end LivePage.Imperative
