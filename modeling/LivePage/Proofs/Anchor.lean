import LivePage.Anchor
import LivePage.Proofs.Text.LowerCase
import LivePage.Proofs.Text.Piece
/-!
# Anchors and white space

White space at the ends of a heading's text leaves no trace in its anchor, so an anchor is the same whether it is taken
from the text as written or trimmed.
-/
namespace LivePage

open Text

/-- White space is no letter or number, and has no other case. -/
theorem lowerCase_of_isBlank {c : Char} (h : isBlank c = true) :
    lowerCase c = [c] ∧ isAlphanumeric c = false := by
  have hpoints : ∀ n ∈ blankBoundaries.points, n ≠ 0x130 ∧ alphanumericBoundaries.holds n = false ∧
      lowerCaseRuns.all (!·.covers n) = true := by decide +kernel
  obtain ⟨hdotted, halphanumeric, hruns⟩ := hpoints _ (Boundaries.mem_points (b := blankBoundaries) (by decide) h)
  exact ⟨lowerCase_eq_self hdotted fun r hr => by simpa using List.all_eq_true.1 hruns r hr, halphanumeric⟩

theorem flatMap_lowerCase_of_blank {cs : List Char} (h : Blank cs) : cs.flatMap lowerCase = cs := by
  induction cs with
  | nil => rfl
  | cons c cs ih =>
    rw [List.flatMap_cons, (lowerCase_of_isBlank (h c List.mem_cons_self)).1,
      ih fun d hd => h d (List.mem_cons_of_mem _ hd)]
    rfl

section
variable {p : Char → Bool} {cs separators : List Char}

theorem words_cons_separator {c : Char} (h : p c = true) (cs : List Char) :
    ((c :: cs).splitOnP p).filter (!·.isEmpty) = (cs.splitOnP p).filter (!·.isEmpty) := by
  rw [← List.nil_append (c :: cs), List.splitOnP_append_cons [] cs h]
  rfl

theorem words_separators_append (h : ∀ c ∈ separators, p c = true) (cs : List Char) :
    ((separators ++ cs).splitOnP p).filter (!·.isEmpty) = (cs.splitOnP p).filter (!·.isEmpty) := by
  induction separators with
  | nil => rfl
  | cons c separators ih =>
    rw [List.cons_append, words_cons_separator (h c List.mem_cons_self), ih fun d hd => h d (List.mem_cons_of_mem _ hd)]

theorem words_append_separators (h : ∀ c ∈ separators, p c = true) (cs : List Char) :
    ((cs ++ separators).splitOnP p).filter (!·.isEmpty) = (cs.splitOnP p).filter (!·.isEmpty) := by
  cases separators with
  | nil => rw [List.append_nil]
  | cons c separators =>
    have hnone : (separators.splitOnP p).filter (!·.isEmpty) = [] := by
      have hall := words_separators_append (fun d hd => h d (List.mem_cons_of_mem c hd)) []
      rwa [List.append_nil] at hall
    rw [List.splitOnP_append_cons cs separators (h c List.mem_cons_self), List.filter_append, hnone, List.append_nil]

end

theorem slugChars_padded {before after : List Char} (hbefore : Blank before) (hafter : Blank after) (cs : List Char) :
    slugChars (before ++ cs ++ after) = slugChars cs := by
  have hseparators {cs : List Char} (h : Blank cs) : ∀ c ∈ cs, (!isAlphanumeric c) = true := fun c hc => by
    rw [(lowerCase_of_isBlank (h c hc)).2]
    rfl
  rw [slugChars, slugChars, List.flatMap_append, List.flatMap_append, flatMap_lowerCase_of_blank hbefore,
    flatMap_lowerCase_of_blank hafter, words_append_separators (hseparators hafter),
    words_separators_append (hseparators hbefore)]

/-- **Trimming a text leaves its anchor.** -/
theorem slugify_trim (text : String) : slugify (String.ofList (trim text.toList)) = slugify text := by
  obtain ⟨before, after, htext, hbefore, hafter⟩ := exists_trim text.toList
  rw [slugify, slugify, String.toList_ofList, htext, slugChars_padded hbefore hafter, ← htext]

end LivePage
