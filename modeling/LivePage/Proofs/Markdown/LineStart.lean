import LivePage.Markdown.Document
import Mathlib.Data.Nat.Basic
import Mathlib.Tactic.ByContra
import Mathlib.Tactic.SplitIfs
/-!
# What stands before a position on its line

Containers put something on every line that goes on in them: a quote its marker, an item or a footnote definition its
indentation. So a position within a quote has ink before it on its line, and one within the others at least a column
of space, unless the line is blank.
-/
namespace LivePage.Markdown

/-- A byte that is a character of its own and ends no line. -/
def inLine (x : UInt8) : Bool := x < 128 && x != 10

instance decidableForallByte {p : UInt8 → Prop} [DecidablePred p] : Decidable (∀ x, p x) :=
  decidable_of_iff (∀ i : Fin 256, p (.ofFin i)) ⟨fun h x => by simpa using h x.toFin, fun h i => h (.ofFin i)⟩

theorem inLine_of_isPunct : ∀ x, isPunct x = true → inLine x = true := by decide +kernel

theorem inLine_of_isInlineSpace : ∀ x, isInlineSpace x = true → inLine x = true := by decide +kernel

theorem not_isEol_of_isPunct : ∀ x, isPunct x = true → isEol x = false := by decide +kernel

namespace Buffer

variable {b : Buffer} {p : UInt8 → Bool} {i j k : Nat}

/-- From one position up to another there are only characters of ASCII, and no line feed. -/
def SameLine (b : Buffer) (i j : Nat) : Prop := i ≤ j ∧ ∀ k, i ≤ k → k < j → b.holdsAt inLine k = true

/-- Something stands before a position on its line. -/
def Indented (b : Buffer) (j : Nat) : Prop := ∃ i < j, b.SameLine i j

/-- A mark stands before a position on its line. -/
def Inked (b : Buffer) (j : Nat) : Prop := ∃ i < j, b.holdsAt isPunct i = true ∧ b.SameLine i j

/-! ## Positions -/

theorem holdsAt_imp {q : UInt8 → Bool} (h : b.holdsAt p i = true) (hpq : ∀ x, p x = true → q x = true) :
    b.holdsAt q i = true := by
  unfold holdsAt at *
  cases hx : b.get? i with
  | none => simp [hx] at h
  | some x =>
    rw [hx] at h
    exact hpq x h

theorem isAt_iff {c : Char} : b.isAt i c = true ↔ b.get? i = some c.toUInt8 := by simp [isAt]

theorem holdsAt_of_isAt {c : Char} (h : b.isAt i c = true) (hc : p c.toUInt8 = true) : b.holdsAt p i = true := by
  rw [holdsAt, isAt_iff.1 h]
  exact hc

namespace SameLine

theorem refl (b : Buffer) (i : Nat) : b.SameLine i i := ⟨le_rfl, fun _ _ _ => by omega⟩

theorem trans (h : b.SameLine i j) (h' : b.SameLine j k) : b.SameLine i k := by
  refine ⟨Nat.le_trans h.1 h'.1, fun n h1 h2 => ?_⟩
  by_cases hn : n < j
  · exact h.2 n h1 hn
  · exact h'.2 n (by omega) h2

theorem step (h : b.holdsAt inLine i = true) : b.SameLine i (i + 1) := by
  refine ⟨by omega, fun k h1 h2 => ?_⟩
  rwa [show k = i by omega]

end SameLine

theorem Indented.of_sameLine (h : b.Indented i) (h' : b.SameLine i j) : b.Indented j := by
  obtain ⟨k, hk, hline⟩ := h
  exact ⟨k, Nat.lt_of_lt_of_le hk h'.1, hline.trans h'⟩

theorem Inked.of_sameLine (h : b.Inked i) (h' : b.SameLine i j) : b.Inked j := by
  obtain ⟨k, hk, hink, hline⟩ := h
  exact ⟨k, Nat.lt_of_lt_of_le hk h'.1, hink, hline.trans h'⟩

theorem Inked.indented (h : b.Inked i) : b.Indented i := by
  obtain ⟨k, hk, -, hline⟩ := h
  exact ⟨k, hk, hline⟩

theorem inked_succ (h : b.holdsAt isPunct i = true) : b.Inked (i + 1) :=
  ⟨i, by omega, h, .step (holdsAt_imp h inLine_of_isPunct)⟩

theorem sameLine_skipWhile (hp : ∀ x, p x = true → inLine x = true) (i : Nat) : b.SameLine i (b.skipWhile p i) := by
  have hgo (n : Nat) : b.SameLine i (skipWhile.go b p n i) := by
    induction n generalizing i with
    | zero => exact .refl b i
    | succ n ih =>
      unfold skipWhile.go
      split_ifs with h
      · exact (SameLine.step (holdsAt_imp h hp)).trans (ih (i + 1))
      · exact .refl b i
  exact hgo _

theorem skipWhile_eq_self (h : b.holdsAt p i = false) : b.skipWhile p i = i := by
  unfold skipWhile
  cases b.stop - i <;> simp [skipWhile.go, h]

theorem sameLine_skipSpace (i : Nat) : b.SameLine i (b.skipSpace i) :=
  sameLine_skipWhile inLine_of_isInlineSpace i

/-- Where a line ends there is neither white space nor a mark. -/
theorem not_eol_of_holdsAt (h : b.holdsAt p i = true) (hp : ∀ x, p x = true → isEol x = false) :
    (b.get? i).all isEol = false := by
  unfold holdsAt at h
  cases hx : b.get? i with
  | none => simp [hx] at h
  | some x =>
    rw [hx] at h
    simpa using hp x h

end Buffer

open Buffer

/-! ## Cursors -/

namespace Cursor

variable {b : Buffer} {c : Cursor} {n : Nat}

/-- A column can be owed only after the tab that it belongs to. -/
def Fits (b : Buffer) (c : Cursor) : Prop := 0 < c.owed → b.Indented c.ix

theorem fits_start (b : Buffer) (i : Nat) : (start i).Fits b := fun h => absurd h (lt_irrefl 0)

theorem skipColumns_go (fuel : Nat) (c : Cursor) (n : Nat) (hc : c.Fits b) :
    (skipColumns.go b fuel c n).1.Fits b ∧ b.SameLine c.ix (skipColumns.go b fuel c n).1.ix ∧
      ((skipColumns.go b fuel c n).2 < n → b.Indented (skipColumns.go b fuel c n).1.ix) ∧
      (c.isAtEol b = true → (skipColumns.go b fuel c n).1.ix = c.ix) := by
  induction fuel generalizing c n with
  | zero => exact ⟨hc, .refl b _, fun h => absurd h (lt_irrefl n), fun _ => rfl⟩
  | succ fuel ih =>
    unfold skipColumns.go
    -- One byte of white space is stepped over, and it is none of a line's end.
    have hstep {ch : Char} (h : b.isAt c.ix ch = true) (hch : ch = ' ' ∨ ch = '\t') :
        b.SameLine c.ix (c.ix + 1) ∧ c.isAtEol b = false := by
      have hspace : b.holdsAt (fun x => x == 32 || x == 9) c.ix = true :=
        holdsAt_of_isAt h (by rcases hch with rfl | rfl <;> decide)
      exact ⟨.step (holdsAt_imp hspace (by decide +kernel)), not_eol_of_holdsAt hspace (by decide +kernel)⟩
    split_ifs with h0 hspace htab
    · exact ⟨hc, .refl b _, fun h => absurd h (by omega), fun _ => rfl⟩
    · obtain ⟨hline, heol⟩ := hstep hspace (.inl rfl)
      have hin : b.Indented (c.ix + 1) := ⟨c.ix, by omega, hline⟩
      obtain ⟨hfits, hmore, hcols, -⟩ := ih { c with ix := c.ix + 1 } (n - 1) fun _ => hin
      exact ⟨hfits, hline.trans hmore, fun _ => hin.of_sameLine hmore, fun h => by rw [heol] at h; cases h⟩
    · obtain ⟨hline, heol⟩ := hstep htab (.inr rfl)
      have hin : b.Indented (c.ix + 1) := ⟨c.ix, by omega, hline⟩
      obtain ⟨hfits, hmore, hcols, -⟩ := ih ⟨c.ix + 1, c.ix + 1, _⟩ _ fun _ => hin
      exact ⟨hfits, hline.trans hmore, fun _ => hin.of_sameLine hmore, fun h => by rw [heol] at h; cases h⟩
    · exact ⟨hc, .refl b _, fun h => absurd h (lt_irrefl n), fun _ => rfl⟩

/-- **Columns of space** are on the line, and one that is used stands before the position after them. -/
theorem skipColumns_spec (n : Nat) (hc : c.Fits b) :
    (c.skipColumns b n).1.Fits b ∧ b.SameLine c.ix (c.skipColumns b n).1.ix ∧
      ((c.skipColumns b n).2 < n → b.Indented (c.skipColumns b n).1.ix) ∧
      (c.isAtEol b = true → (c.skipColumns b n).1.ix = c.ix) := by
  unfold skipColumns
  obtain ⟨hfits, hline, hcols, heol⟩ := skipColumns_go (n - min c.owed n) { c with owed := c.owed - min c.owed n }
    (n - min c.owed n) fun h => hc (lt_of_lt_of_le h (Nat.sub_le ..))
  refine ⟨hfits, hline, fun h => ?_, heol⟩
  by_cases howed : 0 < c.owed
  · exact (hc howed).of_sameLine hline
  · refine hcols (lt_of_lt_of_le h ?_)
    omega

theorem skipUpTo_spec (n : Nat) (hc : c.Fits b) :
    (c.skipUpTo b n).1.Fits b ∧ b.SameLine c.ix (c.skipUpTo b n).1.ix ∧
      (c.isAtEol b = true → (c.skipUpTo b n).1.ix = c.ix) := by
  obtain ⟨hfits, hline, -, heol⟩ := skipColumns_spec n hc
  exact ⟨hfits, hline, heol⟩

theorem fits_of_indented (h : b.Indented c.ix) : c.Fits b := fun _ => h

/-- The marker of a quote leaves ink before what comes after it. -/
theorem skipQuoteMarker_spec {after : Cursor} (h : c.skipQuoteMarker? b = some after) :
    b.SameLine c.ix after.ix ∧ b.Inked after.ix ∧ c.isAtEol b = false := by
  unfold skipQuoteMarker? at h
  split_ifs at h with hat
  obtain rfl := Option.some.inj h
  have hmark : b.holdsAt isPunct c.ix = true := holdsAt_of_isAt hat (by decide)
  have hink := inked_succ hmark
  obtain ⟨-, hline, -⟩ := skipColumns_spec (c := { c with ix := c.ix + 1 }) 1 (fits_of_indented hink.indented)
  exact ⟨(SameLine.step (holdsAt_imp hmark inLine_of_isPunct)).trans hline, hink.of_sameLine hline,
    not_eol_of_holdsAt hmark not_isEol_of_isPunct⟩

theorem sameLine_afterMarker (mark : Char) (first indent : Nat) (hc : c.Fits b) :
    b.SameLine c.ix (c.afterMarker b mark first indent).2.ix := by
  have hspec := skipUpTo_spec 4 hc
  unfold afterMarker
  dsimp only
  split_ifs
  · exact .refl b _
  · exact hspec.2.1
  · exact .refl b _

/-- After the marker of a list item there is ink, and its content is indented. -/
theorem inked_listMarker {indent : Nat} {marker : ListMarker} {after : Cursor}
    (h : c.listMarker? b indent = some (marker, after)) :
    b.Inked after.ix ∧ marker.indent ≠ 0 ∧ c.isAtEol b = false := by
  -- A mark with a column of space or the line's end after it.
  have hmark {i : Nat} (hink : b.holdsAt isPunct i = true) {tabStart owed first indent' : Nat} {mark : Char}
      (hafter : ((Cursor.skipExactly b ⟨i + 1, tabStart, owed⟩ 1).1.afterMarker b mark first indent').2 = after) :
      b.Inked after.ix := by
    have hin := inked_succ hink
    obtain ⟨hfits, hline, -⟩ := skipColumns_spec (c := ⟨i + 1, tabStart, owed⟩) 1 (fits_of_indented hin.indented)
    rw [← hafter]
    exact (hin.of_sameLine hline).of_sameLine (sameLine_afterMarker _ _ _ hfits)
  have hindent {c : Cursor} {mark : Char} {first indent' : Nat} (hpos : indent' ≠ 0) :
      (c.afterMarker b mark first indent').1.indent ≠ 0 := by
    unfold afterMarker
    dsimp only
    split_ifs
    · exact hpos
    · exact fun h => hpos (Nat.add_eq_zero_iff.1 h).1
    · exact hpos
  unfold listMarker? at h
  cases hx : b.get? c.ix with
  | none => simp [hx] at h
  | some x =>
    have heol (hpx : isEol x = false) : c.isAtEol b = false := by simp [isAtEol, hx, hpx]
    simp only [hx] at h
    by_cases hbullet : isOneOf "-+*" x = true
    · have hink : b.holdsAt isPunct c.ix = true := by
        rw [holdsAt, hx]
        exact (by decide +kernel : ∀ x, isOneOf "-+*" x = true → isPunct x = true) x hbullet
      rw [if_pos hbullet] at h
      split_ifs at h
      obtain ⟨hm, ha⟩ := Prod.mk.inj (Option.some.inj h)
      refine ⟨hmark hink ha, hm ▸ hindent (by omega), heol ?_⟩
      exact (by decide +kernel : ∀ x, isOneOf "-+*" x = true → isEol x = false) x hbullet
    · rw [if_neg hbullet] at h
      by_cases hdigit : isDigit x = true
      · rw [if_pos hdigit] at h
        cases hd : b.get? (b.number c.ix).2 with
        | none => simp [hd] at h
        | some d =>
          simp only [hd] at h
          split_ifs at h with hclose
          have hink : b.holdsAt isPunct (b.number c.ix).2 = true := by
            rw [holdsAt, hd]
            exact (by decide +kernel : ∀ x, isOneOf ".)" x = true → isPunct x = true) d hclose
          obtain ⟨hm, ha⟩ := Prod.mk.inj (Option.some.inj h)
          refine ⟨hmark hink ha, hm ▸ hindent (by omega), heol ?_⟩
          exact (by decide +kernel : ∀ x, isDigit x = true → isEol x = false) x hdigit
      · rw [if_neg hdigit] at h
        cases h

theorem inked_taskMarker {ticked : Bool} {after : Cursor} (h : c.taskMarker? b = some (ticked, after)) :
    b.Inked after.ix := by
  unfold taskMarker? at h
  dsimp only at h
  split at h
  · split_ifs at h with hat
    obtain ⟨-, rfl⟩ := Prod.mk.inj (Option.some.inj h)
    simp only [Bool.and_eq_true] at hat
    exact inked_succ (holdsAt_of_isAt hat.1.2 (by decide))
  · cases h

theorem isSome_skipBlankLine? (h : c.isAtEol b = true) : (b.skipBlankLine? c.ix).isSome = true := by
  unfold isAtEol at h
  cases hx : b.get? c.ix with
  | none =>
    have hspace : b.skipSpace c.ix = c.ix := skipWhile_eq_self (by simp [holdsAt, hx])
    simp [skipBlankLine?, hspace, skipEol?, hx]
  | some x =>
    rw [hx] at h
    rcases (by simpa [isEol] using h : x = 10 ∨ x = 13) with rfl | rfl <;>
    · have hspace : b.skipSpace c.ix = c.ix := skipWhile_eq_self (by simp [holdsAt, hx, isInlineSpace])
      simp [skipBlankLine?, hspace, skipEol?, hx]

end Cursor

/-! ## Containers -/

namespace Body

variable {b : Buffer} {c next : Cursor} {body : Body} {i j : Nat}

/-- What stands on a line before a block within a container. Within a block of text there is no other block. -/
def Admits (b : Buffer) (j : Nat) : Body → Prop
  | blockQuote => b.Inked j
  | item _ | footnoteDefinition _ => b.Indented j
  | body => Node.holdsText body = false

/-- A block that others may be read in: none that holds text, and no item that is given up for having nothing in it. -/
def TakesBlocks (body : Body) : Prop := Node.holdsText body = false ∧ body ≠ .item 0

theorem Admits.of_sameLine (h : body.Admits b i) (hline : b.SameLine i j) : body.Admits b j := by
  cases body <;> first | exact Inked.of_sameLine h hline | exact Indented.of_sameLine h hline | exact h

/-- A place with ink before it can be in any container. -/
theorem TakesBlocks.admits_of_inked (h : body.TakesBlocks) (hink : b.Inked j) : body.Admits b j := by
  cases body <;> first | exact hink | exact hink.indented | exact h.1

/-- A line that goes on in a container has what the container needs, unless it ends there. -/
theorem continue?_spec (h : body.continue? b c = some next) (hc : c.Fits b) :
    next.Fits b ∧ b.SameLine c.ix next.ix ∧ (body.TakesBlocks → next.isAtEol b = true ∨ body.Admits b next.ix) ∧
      (c.isAtEol b = true → next.isAtEol b = true) := by
  -- Items and footnotes ask for columns of space, and differ in their number only.
  have hindented {n : Nat} (h : continue?.indented b c n = some next) : next.Fits b ∧ b.SameLine c.ix next.ix ∧
      (n ≠ 0 → next.isAtEol b = true ∨ b.Indented next.ix) ∧ (c.isAtEol b = true → next.isAtEol b = true) := by
    obtain ⟨hfits, hline, hcols, heol⟩ := Cursor.skipColumns_spec n hc
    unfold continue?.indented at h
    dsimp only [Cursor.skipExactly] at h
    split_ifs at h with hall
    obtain rfl := Option.some.inj h
    refine ⟨hfits, hline, fun hn => ?_, fun h => ?_⟩
    · rw [Bool.or_eq_true, beq_iff_eq] at hall
      exact hall.symm.imp_right fun h => hcols (by omega)
    · rw [Cursor.isAtEol, heol h]
      exact h
  unfold continue? at h
  split at h
  · obtain ⟨hfits, hline, heol⟩ := Cursor.skipUpTo_spec 3 hc
    obtain ⟨hmarker, hink, hnoeol⟩ := Cursor.skipQuoteMarker_spec h
    refine ⟨Cursor.fits_of_indented hink.indented, hline.trans hmarker, fun _ => .inr hink, fun h => ?_⟩
    rw [Cursor.isAtEol, heol h] at hnoeol
    rw [Cursor.isAtEol, hnoeol] at h
    cases h
  · rename_i indent
    obtain ⟨hfits, hline, hcols, heol⟩ := hindented h
    exact ⟨hfits, hline, fun htakes => hcols fun h0 => htakes.2 (h0 ▸ rfl), heol⟩
  · obtain ⟨hfits, hline, hcols, heol⟩ := hindented h
    exact ⟨hfits, hline, fun _ => hcols (by decide), heol⟩
  · rename_i h1 h2 h3
    obtain rfl := Option.some.inj h
    refine ⟨hc, .refl b _, fun htakes => .inr ?_, id⟩
    cases body <;>
      first | exact htakes.1 | exact absurd rfl (by assumption) | exact absurd rfl (h2 _) | exact absurd rfl (h3 _)

end Body

/-- **Containers that go on** on a line have what they need before the rest of it, unless nothing is left. -/
theorem enterContainers_spec {b : Buffer} (spine : List Body) {c : Cursor} (hc : c.Fits b) :
    (enterContainers b spine c).1.Fits b ∧ b.SameLine c.ix (enterContainers b spine c).1.ix ∧
      ((enterContainers b spine c).1.isAtEol b = true ∨
        ∀ body ∈ spine.take (enterContainers b spine c).2, body.TakesBlocks →
          body.Admits b (enterContainers b spine c).1.ix) ∧
      (c.isAtEol b = true → (enterContainers b spine c).1.isAtEol b = true) := by
  induction spine generalizing c with
  | nil => exact ⟨hc, .refl b _, .inr (by simp [enterContainers]), id⟩
  | cons body rest ih =>
    unfold enterContainers
    cases hnext : body.continue? b c with
    | none => exact ⟨hc, .refl b _, .inr (by simp), id⟩
    | some next =>
      obtain ⟨hfits, hline, hadmits, heol⟩ := Body.continue?_spec hnext hc
      obtain ⟨hfits', hline', hrest, heol'⟩ := ih hfits
      refine ⟨hfits', hline.trans hline', ?_, fun h => heol' (heol h)⟩
      rcases hrest with hend | hrest
      · exact .inl hend
      · by_cases hend : next.isAtEol b = true
        · exact .inl (heol' hend)
        · refine .inr ?_
          rw [List.take_succ_cons, List.forall_mem_cons]
          exact ⟨fun htakes => ((hadmits htakes).resolve_left hend).of_sameLine hline', hrest⟩

end LivePage.Markdown
