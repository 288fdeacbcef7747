import LivePage.Proofs.Text.Trim
import LivePage.Text.Digit
import Mathlib.Algebra.Group.Nat.Defs
import Mathlib.Data.List.Forall2
/-!
# Pieces of a text and numerals

What the functions that cut a text say about it, as equations between the text and its pieces, and which texts are
numerals.
-/
namespace LivePage.Text

/-! ## Cutting -/

section
variable {c : Char} {cs before after : List Char}

theorem splitFirst?_eq_some_iff :
    splitFirst? c cs = some (before, after) ↔ cs = before ++ c :: after ∧ c ∉ before := by
  induction cs generalizing before with
  | nil => simp [splitFirst?]
  | cons x xs ih =>
    by_cases hx : x = c
    · subst hx
      rw [splitFirst?, if_pos rfl]
      constructor
      · rintro ⟨⟩
        exact ⟨rfl, List.not_mem_nil⟩
      · rintro ⟨h, hmem⟩
        cases before with
        | nil => rw [(List.cons.inj h).2]
        | cons b before => exact absurd ((List.cons.inj h).1 ▸ List.mem_cons_self) hmem
    · rw [splitFirst?, if_neg hx, Option.map_eq_some_iff]
      constructor
      · rintro ⟨⟨before', after'⟩, h, heq⟩
        obtain ⟨rfl, rfl⟩ := Prod.mk.inj heq
        obtain ⟨rfl, hmem⟩ := ih.1 h
        exact ⟨rfl, List.not_mem_cons_of_ne_of_not_mem (Ne.symm hx) hmem⟩
      · rintro ⟨h, hmem⟩
        cases before with
        | nil => exact absurd (List.cons.inj h).1 hx
        | cons b before =>
          obtain ⟨rfl, hxs⟩ := List.cons.inj h
          exact ⟨(before, after), ih.2 ⟨hxs, fun h => hmem (List.mem_cons_of_mem _ h)⟩, rfl⟩

theorem splitFirst?_eq_none_iff : splitFirst? c cs = none ↔ c ∉ cs := by
  induction cs with
  | nil => simp [splitFirst?]
  | cons x xs ih =>
    by_cases hx : x = c
    · simp [splitFirst?, hx]
    · simp [splitFirst?, hx, ih, Ne.symm hx]

/-- The pieces between the occurrences of a separator are the only texts without it that it joins to the whole. -/
theorem splitOn_eq_iff {pieces : List (List Char)} :
    splitOn c cs = pieces ↔ pieces ≠ [] ∧ (∀ p ∈ pieces, c ∉ p) ∧ cs = [c].intercalate pieces := by
  constructor
  · rintro rfl
    refine ⟨List.splitOnP_ne_nil _ cs, fun p hp hc => ?_, (List.intercalate_splitOn c).symm⟩
    simpa using eq_false_of_mem_splitOnP hp c hc
  · rintro ⟨hne, hpieces, rfl⟩
    exact List.splitOn_intercalate c hpieces hne

theorem dropSuffix?_eq_some_iff {suf : List Char} : dropSuffix? suf cs = some before ↔ cs = before ++ suf := by
  unfold dropSuffix?
  constructor
  · intro h
    split_ifs at h with hsuf
    rw [← Option.some.inj h]
    exact (List.suffix_iff_eq_append.1 (List.isSuffixOf_iff_suffix.1 hsuf)).symm
  · rintro rfl
    rw [if_pos (List.isSuffixOf_iff_suffix.2 (List.suffix_append before suf))]
    simp

/-- A text whose characters have a property does not end with a character that lacks it. -/
theorem dropSuffix?_eq_none {suf : List Char} (hc : c ∈ suf) (h : c ∉ cs) : dropSuffix? suf cs = none :=
  Option.eq_none_iff_forall_ne_some.2 fun before hsome => by
    rw [dropSuffix?_eq_some_iff.1 hsome] at h
    exact h (List.mem_append_right _ hc)

end

/-- All pieces are read, each on its own. -/
theorem mapM_eq_some_iff {α β : Type} {f : α → Option β} {l : List α} {bs : List β} :
    l.mapM f = some bs ↔ List.Forall₂ (fun a b => f a = some b) l bs := by
  induction l generalizing bs with
  | nil => simp [eq_comm]
  | cons a l ih =>
    simp only [List.mapM_cons, Option.bind_eq_bind, Option.bind_eq_some_iff, ih, Option.pure_def, Option.some_inj,
      List.forall₂_cons_left_iff]
    constructor
    · rintro ⟨b, hb, bs, hbs, rfl⟩
      exact ⟨b, bs, hb, hbs, rfl⟩
    · rintro ⟨b, bs, hb, hbs, rfl⟩
      exact ⟨b, hb, bs, hbs, rfl⟩

/-- What is left of a text without the characters of a class at both ends: the piece between two runs of such characters
that has none of them at its ends. -/
theorem trimWhile_eq_iff {p : Char → Bool} {cs w : List Char} : trimWhile p cs = w ↔
    ∃ before after, cs = before ++ w ++ after ∧ (∀ c ∈ before, p c = true) ∧ (∀ c ∈ after, p c = true) ∧
      (∀ c ∈ w.head?, p c = false) ∧ ∀ c ∈ w.getLast?, p c = false := by
  have hstarts (ds : List Char) : ∀ c ∈ (ds.dropWhile p).head?, p c = false := fun c hc => by
    have hall := head?_dropWhile p ds
    rw [Option.mem_def.1 hc] at hall
    simpa using hall
  constructor
  · rintro rfl
    refine ⟨cs.takeWhile p, ((cs.dropWhile p).reverse.takeWhile p).reverse, ?_, fun c hc => List.mem_takeWhile_imp hc,
      fun c hc => List.mem_takeWhile_imp (List.mem_reverse.1 hc), fun c hc => ?_, fun c hc => ?_⟩
    · rw [trimWhile, dropEndWhile, List.append_assoc, ← List.reverse_append, List.takeWhile_append_dropWhile,
        List.reverse_reverse, List.takeWhile_append_dropWhile]
    · have hall := all_head?_dropEndWhile (p := p) (head?_dropWhile p cs)
      rw [← trimWhile, Option.mem_def.1 hc] at hall
      simpa using hall
    · rw [trimWhile, dropEndWhile, List.getLast?_reverse] at hc
      exact hstarts _ c hc
  · rintro ⟨before, after, rfl, hbefore, hafter, hhead, hlast⟩
    have hend : dropEndWhile p (w ++ after) = w := by
      rw [dropEndWhile, List.reverse_append, List.dropWhile_append_of_pos fun c hc => hafter c (List.mem_reverse.1 hc),
        dropWhile_eq_self, List.reverse_reverse]
      rw [List.head?_reverse, Option.all_eq_true]
      exact fun c hc => by rw [hlast c hc]; rfl
    rw [trimWhile, List.append_assoc, List.dropWhile_append_of_pos hbefore]
    cases w with
    | nil => rw [List.nil_append, List.dropWhile_eq_nil_iff.2 hafter]; rfl
    | cons c w =>
      rw [List.cons_append, List.dropWhile_cons_of_neg (by rw [hhead c rfl]; exact Bool.false_ne_true),
        ← List.cons_append, hend]

/-! ## White space around a text -/

section
variable {cs w before after : List Char}

def Blank (cs : List Char) : Prop := ∀ c ∈ cs, isBlank c = true

theorem blank_nil : Blank [] := List.forall_mem_nil _

/-- A text is its trimmed text with white space before and after. -/
theorem exists_trim (cs : List Char) :
    ∃ before after, cs = before ++ trim cs ++ after ∧ Blank before ∧ Blank after := by
  obtain ⟨before, after, hcs, hbefore, hafter, -⟩ := trimWhile_eq_iff.1 (rfl : trimWhile isBlank cs = trim cs)
  exact ⟨before, after, hcs, hbefore, hafter⟩

theorem trim_padded (hbefore : Blank before) (hafter : Blank after) (h : ∀ c ∈ w, isBlank c = false) :
    trim (before ++ w ++ after) = w :=
  trimWhile_eq_iff.2 ⟨before, after, rfl, hbefore, hafter, fun c hc => h c (List.mem_of_mem_head? hc),
    fun c hc => h c (List.mem_of_mem_getLast? hc)⟩

end

/-! ## Words -/

/-- The words of a text: pieces without white space, with white space between them and perhaps at both ends. -/
inductive IsWords : List Char → List (List Char) → Prop
  | blank {gap : List Char} : Blank gap → IsWords gap []
  | word {gap w rest : List Char} {ws : List (List Char)} : Blank gap → w ≠ [] → (∀ c ∈ w, isBlank c = false) →
      (∀ c ∈ rest.head?, isBlank c = true) → IsWords rest ws → IsWords (gap ++ w ++ rest) (w :: ws)

section
variable {c : Char} {cs w gap : List Char} {ws : List (List Char)}

/-- The words of a text that white space cuts in two. -/
theorem words_append_cons (hc : isBlank c = true) (before after : List Char) :
    words (before ++ c :: after) = words before ++ words after := by
  unfold words
  rw [List.splitOnP_append_cons before after hc, List.filter_append]

theorem words_blank_append (hgap : Blank gap) (cs : List Char) : words (gap ++ cs) = words cs := by
  induction gap with
  | nil => rfl
  | cons c gap ih =>
    rw [List.cons_append, ← List.nil_append (c :: (gap ++ cs)), words_append_cons (hgap c List.mem_cons_self)]
    exact ih fun d hd => hgap d (List.mem_cons_of_mem _ hd)

theorem words_eq_singleton (hne : w ≠ []) (h : ∀ c ∈ w, isBlank c = false) : words w = [w] := by
  rw [words, List.splitOnP_eq_singleton h]
  simp [hne]

theorem IsWords.words_eq (h : IsWords cs ws) : words cs = ws := by
  induction h with
  | @blank gap hgap => rw [← List.append_nil gap, words_blank_append hgap]; rfl
  | @word gap w rest ws hgap hne hw hrest _ ih =>
    rw [List.append_assoc, words_blank_append hgap]
    cases rest with
    | nil => rw [List.append_nil, words_eq_singleton hne hw, ← ih]; rfl
    | cons c rest =>
      have hc : isBlank c = true := hrest c rfl
      have hrest : words (c :: rest) = words rest := words_append_cons hc [] rest
      rw [words_append_cons hc, words_eq_singleton hne hw, ← hrest, ih]
      rfl

/-- Every text has words: the longest pieces without white space. -/
theorem exists_isWords (cs : List Char) : ∃ ws, IsWords cs ws := by
  induction hlen : cs.length using Nat.strong_induction_on generalizing cs with
  | _ n ih =>
    subst hlen
    have hgap : Blank (cs.takeWhile isBlank) := fun c hc => List.mem_takeWhile_imp hc
    cases hink : cs.dropWhile isBlank with
    | nil =>
      rw [← List.takeWhile_append_dropWhile (p := isBlank) (l := cs), hink, List.append_nil]
      exact ⟨[], .blank hgap⟩
    | cons c rest =>
      have hc : isBlank c = false := by simpa [hink] using head?_dropWhile isBlank cs
      have hcut : cs = cs.takeWhile isBlank ++ c :: rest.takeWhile (!isBlank ·) ++ rest.dropWhile (!isBlank ·) := by
        conv_lhs => rw [← List.takeWhile_append_dropWhile (p := isBlank) (l := cs), hink]
        rw [List.append_assoc, List.cons_append, List.takeWhile_append_dropWhile]
      have hshorter : (rest.dropWhile (!isBlank ·)).length < cs.length := by
        conv_rhs => rw [hcut]
        simp only [List.length_append, List.length_cons]
        omega
      obtain ⟨ws, hws⟩ := ih _ hshorter _ rfl
      rw [hcut]
      refine ⟨_, .word hgap (List.cons_ne_nil _ _) (fun d hd => ?_) (fun d hd => ?_) hws⟩
      · rcases List.mem_cons.1 hd with rfl | hd
        · exact hc
        · simpa using List.mem_takeWhile_imp hd
      · have hall := head?_dropWhile (!isBlank ·) rest
        rw [Option.mem_def.1 hd] at hall
        simpa using hall

theorem words_eq_iff : words cs = ws ↔ IsWords cs ws := by
  refine ⟨?_, IsWords.words_eq⟩
  rintro rfl
  obtain ⟨ws, h⟩ := exists_isWords cs
  rwa [h.words_eq]

end

/-! ## Numerals -/

/-- A numeral: a run of ASCII digits, and the number that it writes. -/
def IsNumeral (cs : List Char) (n : Nat) : Prop :=
  cs ≠ [] ∧ (∀ c ∈ cs, c.isDigit = true) ∧ Nat.ofDigitChars 10 cs 0 = n

/-- A numeral that a plus sign may stand before. -/
def IsUnsigned (cs : List Char) (n : Nat) : Prop := ∃ ds, (cs = ds ∨ cs = '+' :: ds) ∧ IsNumeral ds n

section
variable {cs : List Char} {c : Char} {n max : Nat}

theorem toNat_le_of_isDigit (h : c.isDigit = true) : 48 ≤ c.toNat ∧ c.toNat ≤ 57 := by
  simpa [Char.isDigit, UInt32.le_iff_toNat_le] using h

theorem digitsValue?_eq_some_iff : digitsValue? cs = some n ↔ IsNumeral cs n := by
  unfold digitsValue? IsNumeral
  split_ifs with h
  · refine iff_of_false nofun ?_
    rintro ⟨hne, hdigits, -⟩
    simp only [Bool.or_eq_true, List.isEmpty_iff, hne, Bool.not_eq_true', false_or, List.all_eq_false] at h
    obtain ⟨c, hc, hdigit⟩ := h
    exact absurd (hdigits c hc) hdigit
  · simp only [Bool.or_eq_true, not_or, List.isEmpty_iff, Bool.not_eq_true', Bool.not_eq_false, List.all_eq_true] at h
    rw [Option.some_inj, and_iff_right h.1, and_iff_right h.2]
    rfl

theorem ofDigitChars_lt (ds : List Char) {k init : Nat} (hds : ∀ c ∈ ds, c.isDigit = true) (hinit : init < 10 ^ k) :
    Nat.ofDigitChars 10 ds init < 10 ^ (k + ds.length) := by
  induction ds generalizing k init with
  | nil => exact hinit
  | cons c ds ih =>
    have hc := toNat_le_of_isDigit (hds c List.mem_cons_self)
    have hnext : 10 * init + (c.toNat - '0'.toNat) < 10 ^ (k + 1) := by
      rw [Nat.pow_succ, show '0'.toNat = 48 from rfl]
      omega
    rw [List.length_cons, Nat.add_comm ds.length, ← Nat.add_assoc]
    exact ih (fun d hd => hds d (List.mem_cons_of_mem _ hd)) hnext

theorem IsNumeral.lt_pow_length (h : IsNumeral cs n) : n < 10 ^ cs.length := by
  obtain ⟨-, hdigits, rfl⟩ := h
  simpa using ofDigitChars_lt (k := 0) cs hdigits (by simp)

theorem not_isNumeral_plus (ds : List Char) : ¬ IsNumeral ('+' :: ds) n := fun h =>
  absurd (h.2.1 '+' List.mem_cons_self) (by decide)

theorem parseUnsigned?_eq_some_iff : parseUnsigned? max cs = some n ↔ IsUnsigned cs n ∧ n ≤ max := by
  rw [parseUnsigned?, Option.filter_eq_some_iff, digitsValue?_eq_some_iff, decide_eq_true_iff]
  refine and_congr_left' ?_
  split_ifs with hplus
  · obtain ⟨ds, rfl⟩ := List.head?_eq_some_iff.1 hplus
    constructor
    · exact fun h => ⟨ds, .inr rfl, h⟩
    · rintro ⟨ds', rfl | h, hnum⟩
      · exact absurd hnum (not_isNumeral_plus ds)
      · rwa [(List.cons.inj h).2]
  · constructor
    · exact fun h => ⟨cs, .inl rfl, h⟩
    · rintro ⟨ds, rfl | rfl, hnum⟩
      · exact hnum
      · exact absurd rfl hplus

theorem IsUnsigned.mem (h : IsUnsigned cs n) (hc : c ∈ cs) : c.isDigit = true ∨ c = '+' := by
  obtain ⟨ds, rfl | rfl, hnum⟩ := h
  · exact .inl (hnum.2.1 c hc)
  · rcases List.mem_cons.1 hc with rfl | hc
    · exact .inr rfl
    · exact .inl (hnum.2.1 c hc)

theorem isDecimalDigit_of_isDigit (h : c.isDigit = true) : isDecimalDigit c = true := by
  have hrange := toNat_le_of_isDigit h
  have hlo : ¬ c.toNat < 48 := by omega
  have hhi : c.toNat < 58 := by omega
  simp [isDecimalDigit, digitBoundaries, Boundaries.holds, hlo, hhi]

end

/-! ## Small letters -/

section
variable {c : Char}

theorem toNat_le_of_isLower (h : c.isLower = true) : 97 ≤ c.toNat ∧ c.toNat ≤ 122 := by
  have hrange : ('a'.val ≤ c.val && c.val ≤ 'z'.val) = true := h
  simpa [UInt32.le_iff_toNat_le] using hrange

/-- A class without the code points of the lower-case letters of ASCII has none of these letters. -/
theorem holds_eq_false_of_isLower {b : Boundaries} (heven : 2 ∣ b.length) (hb : ∀ n ∈ b.points, ¬ (97 ≤ n ∧ n ≤ 122))
    (h : c.isLower = true) : b.holds c.toNat = false := by
  by_contra hholds
  exact hb _ (Boundaries.mem_points heven (eq_true_of_ne_false hholds)) (toNat_le_of_isLower h)

theorem isBlank_of_isLower (h : c.isLower = true) : isBlank c = false :=
  holds_eq_false_of_isLower (by decide +kernel) (by decide +kernel) h

theorem isBlank_of_isDigit (h : c.isDigit = true) : isBlank c = false := by
  have hpoints : ∀ n ∈ blankBoundaries.points, n < 48 ∨ 57 < n := by decide +kernel
  by_contra hblank
  have hpoint := hpoints _ (Boundaries.mem_points (b := blankBoundaries) (by decide) (eq_true_of_ne_false hblank))
  have hdigit := toNat_le_of_isDigit h
  omega

theorem isLower_eq_false_of_isDigit (h : c.isDigit = true) : c.isLower = false := by
  by_contra hlower
  have hdigit := toNat_le_of_isDigit h
  have hletter := toNat_le_of_isLower (eq_true_of_ne_false hlower)
  omega

/-- A number has no letters. -/
theorem IsUnsigned.isLower_eq_false {cs : List Char} {n : Nat} (h : IsUnsigned cs n) (hc : c ∈ cs) :
    c.isLower = false := by
  rcases h.mem hc with hdigit | rfl
  · exact isLower_eq_false_of_isDigit hdigit
  · decide

theorem isDecimalDigit_of_isLower (h : c.isLower = true) : isDecimalDigit c = false :=
  holds_eq_false_of_isLower (by decide +kernel) (by decide +kernel) h

end

end LivePage.Text
