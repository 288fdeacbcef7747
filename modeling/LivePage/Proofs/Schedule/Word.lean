import LivePage.Proofs.Schedule.Candidate
import LivePage.Proofs.Text.Piece
/-!
# Words and candidates

A text is white space and words in turn. A word of a line that starts with an at sign is a candidate token of the line,
with the same text of a token, unless there is no more to that text than the sign.
-/
namespace LivePage

open Text

namespace PlacedWord

variable {offset : Nat} {cs line : List Char} {w : PlacedWord} {ws : List PlacedWord}

/-! ## White space and words in turn -/

/-- A text that starts at a byte offset is white space and words in turn. -/
inductive Spaced : Nat → List Char → List PlacedWord → Prop
  | blank {offset : Nat} {gap : List Char} (hgap : Blank gap) : Spaced offset gap []
  | word {offset : Nat} {gap text rest : List Char} {ws : List PlacedWord} (hgap : Blank gap) (hne : text ≠ [])
      (htext : ∀ c ∈ text, isBlank c = false) (hrest : rest.head?.all isBlank = true)
      (h : Spaced (offset + byteLength gap + byteLength text) rest ws) :
      Spaced offset (gap ++ (text ++ rest)) (⟨offset + byteLength gap, text⟩ :: ws)

theorem spaced_list (offset : Nat) (cs : List Char) : Spaced offset cs (list offset cs) := by
  fun_induction list offset cs with
  | case1 offset cs hdrop => exact .blank (List.dropWhile_eq_nil_iff.1 hdrop)
  | case2 offset cs c rest hdrop start text ih =>
    have hc : isBlank c = false := by
      have := head?_dropWhile isBlank cs
      simpa [hdrop] using this
    have hrest : ((c :: rest).dropWhile (!isBlank ·)).head?.all isBlank = true := by
      simpa using head?_dropWhile (!isBlank ·) (c :: rest)
    have hcs : cs = cs.takeWhile isBlank ++ (text ++ (c :: rest).dropWhile (!isBlank ·)) := by
      rw [List.takeWhile_append_dropWhile, ← hdrop, List.takeWhile_append_dropWhile]
    rw [hcs]
    exact .word (fun _ => List.mem_takeWhile_imp) (by simp [text, hc]) (fun d hd => by simpa using List.mem_takeWhile_imp hd)
      hrest ih

theorem Spaced.offset_le (h : Spaced offset cs ws) (hw : w ∈ ws) : offset ≤ w.start := by
  induction h with
  | blank => cases hw
  | word _ _ _ _ _ ih =>
    rcases List.mem_cons.1 hw with rfl | hw
    · exact Nat.le_add_right ..
    · exact Nat.le_trans (Nat.le_trans (Nat.le_add_right ..) (Nat.le_add_right ..)) (ih hw)

theorem Spaced.ascending (h : Spaced offset cs ws) : ws.Pairwise fun a b => a.start < b.start := by
  induction h with
  | blank => exact .nil
  | @word offset gap text rest ws _ hne _ _ h ih =>
    refine List.pairwise_cons.2 ⟨fun w hw => ?_, ih⟩
    have hle := h.offset_le hw
    have hpos : 0 < byteLength text := Nat.pos_of_ne_zero fun hzero => hne (eq_nil_of_byteLength hzero)
    simp only
    omega

/-- A word stands between the words before it and those after it. -/
theorem Spaced.split {first last : List PlacedWord} (h : Spaced offset cs (first ++ w :: last)) :
    ∃ before after, cs = before ++ w.text ++ after ∧ offset + byteLength before = w.start ∧ Spaced offset before first ∧
      Spaced w.stop after last := by
  induction first generalizing offset cs with
  | nil =>
    cases h with
    | @word _ gap text rest _ hgap hne htext hrest h =>
      exact ⟨gap, rest, (List.append_assoc ..).symm, rfl, .blank hgap, h⟩
  | cons v first ih =>
    cases h with
    | @word _ gap text rest _ hgap hne htext hrest h =>
      obtain ⟨before, after, rfl, hstart, hbefore, hafter⟩ := ih h
      have hhead : before.head?.all isBlank = true := by
        cases before with
        | nil => rfl
        | cons c before => simpa using hrest
      refine ⟨gap ++ (text ++ before), after, by simp, ?_, .word hgap hne htext hhead hbefore, hafter⟩
      rw [← hstart, byteLength_append, byteLength_append]
      omega

/-! ## Words of a line -/

/-- A word of a line has white space, or an end of the line, on both sides. -/
structure StandsApart (line : List Char) (w : PlacedWord) : Prop where
  apart : ∃ before after, line = before ++ (w.text ++ after) ∧ byteLength before = w.start ∧
    before.getLast?.all isBlank = true ∧ after.head?.all isBlank = true
  not_blank : ∀ c ∈ w.text, isBlank c = false

theorem all_getLast?_append {before gap : List Char} (hgap : Blank gap)
    (h : before.getLast?.all isBlank = true ∨ gap ≠ []) : (before ++ gap).getLast?.all isBlank = true := by
  rw [List.getLast?_append]
  cases hlast : gap.getLast? with
  | none => simpa [List.getLast?_eq_none_iff.1 hlast] using h
  | some c => simpa using hgap c (List.mem_of_getLast? hlast)

/-- The words of the rest of a line stand apart if white space stands where the rest starts, before or after. -/
theorem Spaced.standsApart {before : List Char} (h : Spaced offset cs ws) (hoffset : byteLength before = offset)
    (hstart : before.getLast?.all isBlank = true ∨ cs.head?.all isBlank = true) (hw : w ∈ ws) :
    w.StandsApart (before ++ cs) := by
  induction h generalizing before with
  | blank => cases hw
  | @word offset gap text rest ws hgap hne htext hrest h ih =>
    rcases List.mem_cons.1 hw with rfl | hw
    · refine ⟨⟨before ++ gap, rest, by simp, by rw [byteLength_append, hoffset], ?_, hrest⟩, htext⟩
      refine all_getLast?_append hgap (hstart.imp_right fun hblank hempty => ?_)
      -- Without white space before it the word would be what the text starts with.
      obtain ⟨c, text, rfl⟩ := List.exists_cons_of_ne_nil hne
      rw [hempty, List.nil_append, List.cons_append, List.head?_cons, Option.all_some, htext c List.mem_cons_self] at hblank
      cases hblank
    · have hnext : w.StandsApart (before ++ gap ++ text ++ rest) :=
        ih (by simp [hoffset, Nat.add_assoc]) (.inr hrest) hw
      simpa using hnext

theorem StandsApart.isIn (h : w.StandsApart line) (hne : w.text ≠ []) : w.IsIn 0 line := by
  obtain ⟨before, after, hline, hstart, -, -⟩ := h.apart
  exact ⟨⟨before, after, by rw [hline, List.append_assoc], by rw [Nat.zero_add, hstart]⟩, hne, h.not_blank⟩

theorem ne_nil_of_isToken (h : w.isToken = true) : w.text ≠ [] := by
  rintro hempty
  rw [isToken, hempty] at h
  cases h

/-! ## Candidates -/

/-- Whether the scan of a line finds a candidate token where a word starts. -/
def isCandidate (line : List Char) (w : PlacedWord) : Bool := (tokenSpans none 0 line).any (·.start == w.start)

/-- Whether a word starts with an at sign and has no text of a token after it. -/
def isLoneSign (w : PlacedWord) : Bool := w.isToken && decide ((tokenText w.text).length ≤ 1)

theorem startsToken_of_isBlank {c : Char} (h : isBlank c = true) : startsToken (some c) = true := by
  have hpoints : ∀ n ∈ blankBoundaries.points, n ≠ '\\'.toNat ∧ n ≠ '@'.toNat ∧ alphanumericBoundaries.holds n = false := by
    decide +kernel
  obtain ⟨hescape, hsign, hletter⟩ := hpoints _ (Boundaries.mem_points (by decide) h)
  have hne {d : Char} (hd : c.toNat ≠ d.toNat) : c ≠ d := fun heq => hd (heq ▸ rfl)
  simp [startsToken, isAlphanumeric, hletter, hne hescape, hne hsign]

/-- White space after a word is no part of its token. -/
theorem tokenText_append {text after : List Char} (h : after.head?.all isBlank = true) :
    tokenText (text ++ after) = tokenText text := by
  unfold tokenText
  rw [List.takeWhile_append]
  split_ifs with hall
  · have hafter : after.takeWhile (!endsToken ·) = [] := by
      cases after with
      | nil => rfl
      | cons c after =>
        have hc : isBlank c = true := by simpa using h
        exact List.takeWhile_cons_of_neg (by simp [endsToken, hc])
    rw [hafter, List.append_nil, (List.takeWhile_prefix _).eq_of_length hall]
  · rfl

/-- A word with an at sign is a candidate unless the sign is all there is to it. -/
theorem StandsApart.mem_tokenSpans (h : w.StandsApart line) (hsign : w.isToken = true) (hlone : w.isLoneSign = false) :
    w.tokenPiece ∈ tokenSpans none 0 line := by
  obtain ⟨before, after, rfl, hstart, hbefore, hafter⟩ := h.apart
  obtain ⟨start, text⟩ := w
  obtain ⟨rest, rfl⟩ : ∃ rest, text = '@' :: rest := by
    cases text with
    | nil => cases hsign
    | cons c rest => exact ⟨rest, by rw [show c = '@' by simpa [isToken] using hsign]⟩
  have htext : tokenText ('@' :: (rest ++ after)) = tokenText ('@' :: rest) := by
    rw [← List.cons_append, tokenText_append hafter]
  refine mem_tokenSpans_iff.2 ⟨before, rest ++ after, rfl, ?_, ?_, ?_, htext.symm⟩
  · rw [Nat.zero_add, hstart]
    rfl
  · rw [Option.or_none]
    cases hlast : before.getLast? with
    | none => rfl
    | some c => exact startsToken_of_isBlank (by simpa [hlast] using hbefore)
  · rw [htext]
    simpa [isLoneSign, hsign] using hlone

/-- **The candidates among the words of a line** are those that start with an at sign and have more of a token. -/
theorem StandsApart.isCandidate_eq (h : w.StandsApart line) : w.isCandidate line = (w.isToken && !w.isLoneSign) := by
  rw [Bool.eq_iff_iff, Bool.and_eq_true, Bool.not_eq_true']
  constructor
  · intro hcandidate
    obtain ⟨span, hspan, hstart⟩ := List.any_eq_true.1 hcandidate
    obtain ⟨b, a, hline, hb, -, hlength, -⟩ := mem_tokenSpans_iff.1 hspan
    obtain ⟨before, after, hcut, hbefore, -, hafter⟩ := h.apart
    -- The word and the candidate start at the same byte, so the word starts with the at sign of the candidate.
    have hplace : byteLength before = byteLength b := by rw [hbefore, ← beq_iff_eq.1 hstart, ← hb, Nat.zero_add]
    obtain ⟨rfl, hsame⟩ := append_inj_of_byteLength (hcut.symm.trans hline) hplace
    have htext : tokenText ('@' :: a) = tokenText w.text := by rw [← hsame, tokenText_append hafter]
    have hsign : w.isToken = true := by
      cases hword : w.text with
      | nil =>
        rw [hword, List.nil_append] at hsame
        rw [hsame] at hafter
        have hblank : isBlank '@' = true := by simpa using hafter
        exact absurd hblank (by decide)
      | cons c rest =>
        rw [hword, List.cons_append] at hsame
        simp [isToken, hword, (List.cons.inj hsame).1]
    refine ⟨hsign, ?_⟩
    rw [htext] at hlength
    simpa [isLoneSign, hsign] using hlength
  · rintro ⟨hsign, hlone⟩
    exact List.any_eq_true.2 ⟨w.tokenPiece, h.mem_tokenSpans hsign hlone, by simp [tokenPiece]⟩

/-- The text of a token has more than its at sign. -/
theorem parseToken_short {text : List Char} (h : text.length ≤ 1) (s : Schedule) :
    Schedule.parseToken (String.ofList text) ≠ .ok s := by
  unfold Schedule.parseToken
  rw [String.toList_ofList]
  match text, h with
  | [], _ => simp
  | [c], _ =>
    split
    · rename_i body heq
      simp [← (List.cons.inj heq).2]
    · simp

theorem schedule?_eq_none_of_isLoneSign (h : w.isLoneSign = true) : w.schedule? = none := by
  rw [isLoneSign, Bool.and_eq_true, decide_eq_true_eq] at h
  unfold schedule?
  split
  · rename_i s hparse
    exact absurd hparse (parseToken_short h.2 s)
  · rfl

/-- An at sign alone names no schedule. -/
theorem token?_eq_none_of_isLoneSign (h : w.isLoneSign = true) (number : Nat) : w.token? number = none := by
  rw [token?, schedule?_eq_none_of_isLoneSign h]
  rfl

end PlacedWord

end LivePage
