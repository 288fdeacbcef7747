import LivePage.Proofs.Text.Piece
/-!
# Text apart from white space

The characters of a text that are not white space, of all of it or of a range of its bytes.
-/
namespace LivePage.Text

/-- The characters of a text that are not white space. -/
def ink (cs : List Char) : List Char := cs.filter (!isBlank ·)

/-- The characters, apart from white space, that start in a byte range of a text which starts at a byte offset. -/
def inkIn (r : Span) : Nat → List Char → List Char
  | _, [] => []
  | i, c :: cs => if r.contains i && !isBlank c then c :: inkIn r (i + c.utf8Size) cs else inkIn r (i + c.utf8Size) cs

variable {cs ds : List Char} {r : Span} {i : Nat}

@[simp] theorem ink_append (cs ds : List Char) : ink (cs ++ ds) = ink cs ++ ink ds := List.filter_append ..

theorem ink_eq_nil (h : Blank cs) : ink cs = [] := List.filter_eq_nil_iff.2 fun c hc => by simp [h c hc]

theorem ink_eq_self (h : ∀ c ∈ cs, isBlank c = false) : ink cs = cs := List.filter_eq_self.2 fun c hc => by simp [h c hc]

theorem ink_trim (cs : List Char) : ink (trim cs) = ink cs := by
  obtain ⟨before, after, hcs, hbefore, hafter⟩ := exists_trim cs
  conv_rhs => rw [hcs]
  rw [ink_append, ink_append, ink_eq_nil hbefore, ink_eq_nil hafter, List.nil_append, List.append_nil]

theorem inkIn_append (r : Span) (i : Nat) (cs ds : List Char) :
    inkIn r i (cs ++ ds) = inkIn r i cs ++ inkIn r (i + byteLength cs) ds := by
  induction cs generalizing i with
  | nil => rfl
  | cons c cs ih =>
    simp only [List.cons_append, inkIn, ih, byteLength_cons, Nat.add_assoc]
    split_ifs <;> rfl

theorem inkIn_eq_nil_of_blank (h : Blank cs) : inkIn r i cs = [] := by
  induction cs generalizing i with
  | nil => rfl
  | cons c cs ih => simp [inkIn, h c List.mem_cons_self, ih fun d hd => h d (List.mem_cons_of_mem _ hd)]

theorem inkIn_eq_ink (hstart : r.start ≤ i) (hstop : i + byteLength cs ≤ r.stop) : inkIn r i cs = ink cs := by
  induction cs generalizing i with
  | nil => rfl
  | cons c cs ih =>
    have hpos := c.utf8Size_pos
    rw [byteLength_cons] at hstop
    have hin : r.contains i = true := by
      simp only [Span.contains, Bool.and_eq_true, decide_eq_true_eq]
      omega
    rw [inkIn, ih (by omega) (by omega), hin, Bool.true_and, ink, ink, List.filter_cons]

/-- A range that ends before a text, or starts after it, holds nothing of it. -/
theorem inkIn_eq_nil (h : i + byteLength cs ≤ r.start ∨ r.stop ≤ i) : inkIn r i cs = [] := by
  induction cs generalizing i with
  | nil => rfl
  | cons c cs ih =>
    have hpos := c.utf8Size_pos
    rw [byteLength_cons] at h
    have hout : r.contains i = false := by
      simp only [Span.contains, Bool.and_eq_false_iff, decide_eq_false_iff_not]
      omega
    rw [inkIn, hout, Bool.false_and, if_neg Bool.false_ne_true, ih (by omega)]

theorem inkIn_empty (n : Nat) : inkIn ⟨n, n⟩ i cs = [] := by
  induction cs generalizing i with
  | nil => rfl
  | cons c cs ih =>
    have hout : (Span.mk n n).contains i = false := by
      simp only [Span.contains, Bool.and_eq_false_iff, decide_eq_false_iff_not]
      omega
    rw [inkIn, hout, ih, Bool.false_and, if_neg Bool.false_ne_true]

/-- A range and the range that goes on from there make one range. -/
theorem inkIn_split {start stop : Nat} (n : Nat) (hstart : start ≤ n) (hstop : n ≤ stop) (i : Nat) (cs : List Char) :
    inkIn ⟨start, stop⟩ i cs = inkIn ⟨start, n⟩ i cs ++ inkIn ⟨n, stop⟩ i cs := by
  induction cs generalizing i with
  | nil => rfl
  | cons c cs ih =>
    by_cases hi : i < n
    · have hlater : (Span.mk n stop).contains i = false := by simp [Span.contains, show ¬ n ≤ i by omega]
      have hsame : (Span.mk start stop).contains i = (Span.mk start n).contains i := by
        simp only [Span.contains, hi, show i < stop by omega]
      simp only [inkIn, hlater, hsame, ih]
      split_ifs <;> simp_all
    · -- From here on there is nothing of the first range left.
      have hsame : (Span.mk start stop).contains i = (Span.mk n stop).contains i := by
        simp only [Span.contains, show start ≤ i by omega, show n ≤ i by omega]
      have hout : (Span.mk start n).contains i = false := by simp [Span.contains, hi]
      have hempty : inkIn ⟨start, n⟩ (i + c.utf8Size) cs = [] := inkIn_eq_nil (.inr (show n ≤ i + c.utf8Size by omega))
      simp [inkIn, hsame, hout, ih, hempty]

theorem inkIn_piece {before piece after : List Char} {start stop : Nat} (hstart : byteLength before = start)
    (hstop : start + byteLength piece = stop) : inkIn ⟨start, stop⟩ 0 (before ++ (piece ++ after)) = ink piece := by
  rw [inkIn_append, inkIn_append, inkIn_eq_nil (.inl (by simp [hstart])), inkIn_eq_ink (by simp [hstart]) (by simp; omega),
    inkIn_eq_nil (.inr (by simp; omega)), List.nil_append, List.append_nil]

/-- What comes after a cut of a text. -/
theorem inkIn_rest {rest : List Char} {n : Nat} (h : dropBytes? cs n = some rest) :
    inkIn ⟨n, byteLength cs⟩ 0 cs = ink rest := by
  obtain ⟨before, rfl, rfl⟩ := dropBytes?_eq_some_iff.1 h
  have hpiece : inkIn ⟨byteLength before, byteLength before + byteLength rest⟩ 0 (before ++ (rest ++ [])) = ink rest :=
    inkIn_piece rfl rfl
  simpa using hpiece

end LivePage.Text
