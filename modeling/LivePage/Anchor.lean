import LivePage.Text.Alphanumeric
import LivePage.Text.Basic
import LivePage.Text.LowerCase
/-!
# Anchors

The anchor of a heading is its text in lower case, with one hyphen for each run of other characters between two
words. It starts and ends with a letter or number.
-/
namespace LivePage

open Text

/-- Words of lower-case letters and numbers, joined by single hyphens. -/
def slugChars (cs : List Char) : List Char :=
  ['-'].intercalate (((cs.flatMap lowerCase).splitOnP (!isAlphanumeric ·)).filter (!·.isEmpty))

/-- The anchor of a heading with this text (`slugify`); empty when it has no letter and no number. -/
def slugify (text : String) : String := String.ofList (slugChars text.toList)

/-- What an anchor is made of. -/
theorem mem_slugChars {c : Char} {cs : List Char} (h : c ∈ slugChars cs) : c = '-' ∨ isAlphanumeric c = true := by
  refine (mem_of_mem_intercalate h).imp_right fun ⟨piece, hpiece, hc⟩ => ?_
  simpa using eq_false_of_mem_splitOnP (List.mem_filter.1 hpiece).1 c hc

theorem oneLine_slugify (text : String) : '\n' ∉ (slugify text).toList := fun h =>
  (mem_slugChars (by simpa [slugify] using h)).elim (by decide) (by decide)

end LivePage
