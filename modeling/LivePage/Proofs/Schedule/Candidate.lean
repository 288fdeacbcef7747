import LivePage.Proofs.Schedule.Scan
/-!
# Candidates

The candidate tokens of a line are, from left to right, its at signs outside all ranges that may start a token and do.
Each is read as a token or gives a warning that it is malformed.
-/
namespace LivePage

open Text

/-! ## At signs -/

section
variable {previous : Option Char} {offset : Nat} {cs : List Char} {w : PlacedWord}

/-- The candidates of a text are its at signs after which, and before which, a token may stand. -/
theorem mem_tokenSpans_iff : w ∈ tokenSpans previous offset cs ↔
    ∃ before after, cs = before ++ '@' :: after ∧ offset + byteLength before = w.start ∧
      startsToken (before.getLast?.or previous) = true ∧ 1 < (tokenText ('@' :: after)).length ∧
      w.text = tokenText ('@' :: after) := by
  induction cs generalizing previous offset with
  | nil => simp [tokenSpans]
  | cons c cs ih =>
    -- A later candidate is one of the rest, before which the first character stands now.
    have hlater : w ∈ tokenSpans (some c) (offset + c.utf8Size) cs ↔
        ∃ before after, c :: cs = c :: before ++ '@' :: after ∧ offset + byteLength (c :: before) = w.start ∧
          startsToken ((c :: before).getLast?.or previous) = true ∧ 1 < (tokenText ('@' :: after)).length ∧
          w.text = tokenText ('@' :: after) := by
      rw [ih]
      refine exists_congr fun before => exists_congr fun after => ?_
      rw [List.getLast?_cons, List.cons_append, List.cons.injEq, byteLength_cons, ← Nat.add_assoc]
      cases before.getLast? <;> simp
    have hsplit : w ∈ tokenSpans previous offset (c :: cs) ↔
        (c = '@' ∧ startsToken previous = true ∧ 1 < (tokenText (c :: cs)).length ∧ w = ⟨offset, tokenText (c :: cs)⟩) ∨
          w ∈ tokenSpans (some c) (offset + c.utf8Size) cs := by
      rw [tokenSpans]
      split_ifs with hopens
      · rw [List.mem_cons, and_iff_right hopens.1, and_iff_right hopens.2.1, and_iff_right hopens.2.2]
      · simp only [← and_assoc]
        rw [or_iff_right fun h => hopens ⟨h.1.1.1, h.1.1.2, h.1.2⟩]
    rw [hsplit, hlater]
    constructor
    · rintro (⟨rfl, hprevious, hlength, rfl⟩ | ⟨before, after, h⟩)
      · exact ⟨[], cs, rfl, rfl, hprevious, hlength, rfl⟩
      · exact ⟨c :: before, after, h⟩
    · rintro ⟨before, after, hcs, hstart, hprevious, hlength, htext⟩
      cases before with
      | nil =>
        obtain ⟨rfl, rfl⟩ := List.cons.inj hcs
        refine .inl ⟨rfl, hprevious, hlength, ?_⟩
        obtain ⟨start, text⟩ := w
        rw [show start = offset from hstart.symm, show text = _ from htext]
      | cons d before =>
        obtain ⟨rfl, -⟩ := List.cons.inj hcs
        exact .inr ⟨before, after, hcs, hstart, hprevious, hlength, htext⟩

theorem offset_le_of_mem_tokenSpans (h : w ∈ tokenSpans previous offset cs) : offset ≤ w.start := by
  obtain ⟨before, -, -, hstart, -⟩ := mem_tokenSpans_iff.1 h
  omega

theorem sorted_tokenSpans (previous : Option Char) (offset : Nat) (cs : List Char) :
    (tokenSpans previous offset cs).Pairwise fun a b => a.start < b.start := by
  induction cs generalizing previous offset with
  | nil => exact .nil
  | cons c cs ih =>
    rw [tokenSpans]
    split_ifs
    · refine List.pairwise_cons.2 ⟨fun w hw => ?_, ih _ _⟩
      have hle := offset_le_of_mem_tokenSpans hw
      have hpos := c.utf8Size_pos
      simp only at hle ⊢
      omega
    · exact ih _ _

end

/-- An at sign of a line as written that starts a token: it lies outside all ranges, the character before it in the
masked line lets a token start, and there is more to the token than the sign. -/
structure OpensToken (ranges : List Span) (start : Nat) (masked line : List Char) (place : Nat) : Prop where
  sign : ∃ before after, line = before ++ '@' :: after ∧ byteLength before = place
  outside : ∀ r ∈ ranges, r.contains (start + place) = false
  opens : ∃ before rest, masked = before ++ rest ∧ byteLength before = place ∧
    startsToken before.getLast? = true ∧ 1 < (tokenText rest).length

/-- **No at sign is lost, and none is found in a range**: the candidates of a masked line are the at signs of the line as
written that start a token. -/
theorem exists_tokenSpans_iff {ranges : List Span} {start place : Nat} {masked line : List Char}
    (h : Mask.Masks ranges start masked line) :
    (∃ w ∈ tokenSpans none 0 masked, w.start = place) ↔ OpensToken ranges start masked line place := by
  -- An at sign is one byte, so a range holds all of it or nothing.
  have hsize (k : Nat) (hk : k < '@'.utf8Size) : k = 0 := by
    have : '@'.utf8Size = 1 := rfl
    omega
  constructor
  · rintro ⟨w, hw, rfl⟩
    obtain ⟨before, after, rfl, hstart, hprevious, hlength, -⟩ := mem_tokenSpans_iff.1 hw
    rw [Nat.zero_add] at hstart
    rw [Option.or_none] at hprevious
    obtain ⟨b, a, rfl, hb, hclear, -⟩ := h.split_at (by decide)
    refine ⟨⟨b, a, rfl, by rw [← hb.byteLength_eq, hstart]⟩, ?_, before, _, rfl, hstart, hprevious, hlength⟩
    rw [← Mask.skips_eq_false_iff, ← hstart]
    exact Mask.skips_eq_false_of_clear (k := 0) hclear (by decide) (by decide)
  · rintro ⟨⟨b, a, rfl, rfl⟩, houtside, before, rest, rfl, hbefore, hprevious, hlength⟩
    obtain ⟨x, y, hmasked, hx⟩ := h.split_clear (Mask.cover_eq_clear fun k hk => by
      rw [hsize k hk, Nat.add_zero]
      exact Mask.skips_eq_false_iff.2 houtside)
    -- Both cut the masked text at the same byte.
    obtain ⟨rfl, rfl⟩ : before = x ∧ rest = '@' :: y := append_inj_of_byteLength hmasked (hbefore.trans hx.symm)
    exact ⟨⟨byteLength before, _⟩, mem_tokenSpans_iff.2 ⟨before, y, rfl, Nat.zero_add _, by rwa [Option.or_none], hlength,
      rfl⟩, hbefore⟩

end LivePage
