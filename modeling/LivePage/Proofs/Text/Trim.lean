import LivePage.Proofs.Text.Lines
import LivePage.Text.Word
/-!
# White space around a text

What is left when white space is dropped from both ends of a text has none there. White space is no part of a word, so
the end of a word before it is found by either.
-/
namespace LivePage.Text

/-! ## Classes of characters -/

/-- The code points of a class whose last range has an end. -/
def Boundaries.points : Boundaries → List Nat
  | lo :: hi :: rest => List.range' lo (hi - lo) ++ points rest
  | _ => []

theorem Boundaries.mem_points {b : Boundaries} {n : Nat} (heven : 2 ∣ b.length) (h : b.holds n = true) :
    n ∈ b.points := by
  induction b, n using Boundaries.holds.induct with
  | case1 => cases h
  | case2 => simp at heven
  | case3 n lo hi rest hlo => simp [holds, hlo] at h
  | case4 n lo hi rest hlo hhi => exact List.mem_append_left _ (List.mem_range'_1.2 (by omega))
  | case5 n lo hi rest hlo hhi ih =>
    simp only [holds, hlo, hhi, if_false] at h
    rw [List.length_cons, List.length_cons] at heven
    exact List.mem_append_right _ (ih (by omega) h)

theorem isBlank_eq_false_of_isWord {c : Char} (h : isWord c = true) : isBlank c = false := by
  have hpoints : ∀ n ∈ blankBoundaries.points, wordBoundaries.holds n = false := by decide +kernel
  by_contra hblank
  have hmem := Boundaries.mem_points (b := blankBoundaries) (by decide) (eq_true_of_ne_false hblank)
  rw [isWord, hpoints _ hmem] at h
  cases h

/-! ## Trimmed texts -/

section
variable {cs ds : List Char} {c : Char} {p : Char → Bool}

/-- A run of characters of a class ends where a character of another class stands. -/
theorem dropWhile_append_cons (h : ∀ x ∈ ds, p x = true) (hc : p c = false) (cs : List Char) :
    (ds ++ c :: cs).dropWhile p = c :: cs := by
  rw [List.dropWhile_append_of_pos h, List.dropWhile_cons_of_neg (by simp [hc])]

theorem takeWhile_append_cons (h : ∀ x ∈ ds, p x = true) (hc : p c = false) (cs : List Char) :
    (ds ++ c :: cs).takeWhile p = ds := by
  rw [List.takeWhile_append_of_pos h, List.takeWhile_cons_of_neg (by simp [hc]), List.append_nil]

theorem head?_dropWhile (p : Char → Bool) (cs : List Char) : (cs.dropWhile p).head?.all (!p ·) = true := by
  induction cs with
  | nil => rfl
  | cons c cs ih =>
    by_cases hc : p c = true
    · rwa [List.dropWhile_cons_of_pos hc]
    · rw [List.dropWhile_cons_of_neg hc]
      simpa using hc

theorem dropWhile_eq_self (h : cs.head?.all (!p ·) = true) : cs.dropWhile p = cs := by
  cases cs with
  | nil => rfl
  | cons c cs => exact List.dropWhile_cons_of_neg (by simpa using h)

/-- What is dropped from the end has characters of the class only. -/
theorem exists_dropEndWhile_append (p : Char → Bool) (cs : List Char) :
    ∃ gap, (∀ c ∈ gap, p c = true) ∧ cs = dropEndWhile p cs ++ gap :=
  ⟨List.rtakeWhile p cs, fun _ hc => List.mem_rtakeWhile_imp hc, List.rdropWhile_append_rtakeWhile.symm⟩

theorem dropEndWhile_dropEndWhile (p : Char → Bool) (cs : List Char) :
    dropEndWhile p (dropEndWhile p cs) = dropEndWhile p cs :=
  List.rdropWhile_idempotent p cs

theorem dropWhile_trim (cs : List Char) : (trim cs).dropWhile isBlank = trim cs :=
  dropWhile_eq_self (all_head?_dropEndWhile (head?_dropWhile isBlank cs))

theorem dropEndWhile_trim (cs : List Char) : dropEndWhile isBlank (trim cs) = trim cs :=
  dropEndWhile_dropEndWhile isBlank (cs.dropWhile isBlank)

theorem trim_eq_self_iff : trim cs = cs ↔ cs.dropWhile isBlank = cs ∧ dropEndWhile isBlank cs = cs := by
  constructor
  · intro h
    exact ⟨by rw [← h, dropWhile_trim], by rw [← h, dropEndWhile_trim]⟩
  · rintro ⟨hstart, hend⟩
    rw [trim, trimWhile, hstart, hend]

end

end LivePage.Text
