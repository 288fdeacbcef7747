import LivePage.Proofs.Task.SectionPass
import Mathlib.Order.Bounds.Basic
/-!
# The grammar of task sections

Which headings open task sections is said here by line numbers alone: where the section of a heading stops, and what
the lines between may be. The search finds these headings, all of them and nothing else, and its sections lie apart
from each other.
-/
namespace LivePage

open Text

namespace TaskSection

open LineKind

/-! ## Where sections stop -/

/-- The section of a heading stops at the next heading, or after the last line. -/
structure StopsAt (kinds : List LineKind) (first stop : Nat) : Prop where
  lt : first < stop
  le : stop ≤ kinds.length
  between : ∀ i k, first < i → i < stop → kinds[i]? = some k → k.isHeading = false
  next : ∀ k, kinds[stop]? = some k → k.isHeading = true

section
variable {kinds : List LineKind} {first stop : Nat}

theorem lt_contentUnder_of_lt {i : Nat} (h1 : first < i) (h2 : i < first + 1 + (contentUnder kinds first).length) :
    ∃ k, kinds[i]? = some k ∧ k.isHeading = false := by
  have h := lt_contentUnder_iff.1 (show i - (first + 1) < (contentUnder kinds first).length by omega) _ le_rfl
  rwa [Nat.add_sub_cancel' h1] at h

/-- What stands under a heading are the lines up to where its section stops. -/
theorem stopsAt_iff (h : first < kinds.length) :
    StopsAt kinds first stop ↔ stop = first + 1 + (contentUnder kinds first).length := by
  have hends : EndsSection (kinds.drop (first + 1 + (contentUnder kinds first).length)) :=
    (drop_contentUnder kinds first).2
  have hlength : first + 1 + (contentUnder kinds first).length ≤ kinds.length := by
    have hprefix := (List.takeWhile_prefix (l := kinds.drop (first + 1)) (!·.isHeading)).length_le
    rw [List.length_drop] at hprefix
    rw [contentUnder]
    omega
  constructor
  · intro hs
    rcases Nat.lt_trichotomy stop (first + 1 + (contentUnder kinds first).length) with hlt | heq | hgt
    · -- A heading would stand among what stands under this one.
      obtain ⟨k, hk, hno⟩ := lt_contentUnder_of_lt hs.lt hlt
      rw [hs.next k hk] at hno
      cases hno
    · exact heq
    · -- What ends the content would stand before the stop.
      obtain ⟨k, hk⟩ : ∃ k, kinds[first + 1 + (contentUnder kinds first).length]? = some k :=
        ⟨_, List.getElem?_eq_getElem (Nat.lt_of_lt_of_le hgt hs.le)⟩
      have hyes := hends k (by rw [List.head?_drop]; exact hk)
      rw [hs.between _ k (by omega) hgt hk] at hyes
      cases hyes
  · rintro rfl
    refine ⟨by omega, hlength, fun i k h1 h2 hk => ?_, fun k hk => hends k (by rw [List.head?_drop]; exact hk)⟩
    obtain ⟨k', hk', hno⟩ := lt_contentUnder_of_lt h1 h2
    rw [hk] at hk'
    obtain rfl := Option.some.inj hk'
    exact hno

/-- What holds of all that stands under a heading holds of each line up to where its section stops. -/
theorem forall_mem_contentUnder_iff {P : LineKind → Prop} :
    (∀ k ∈ contentUnder kinds first, P k) ↔
      ∀ i k, first < i → i < first + 1 + (contentUnder kinds first).length → kinds[i]? = some k → P k := by
  constructor
  · intro h i k h1 h2 hk
    have hin : i - (first + 1) < (contentUnder kinds first).length := by omega
    have hget := getElem?_contentUnder hin
    rw [Nat.add_sub_cancel' h1, hk] at hget
    exact h k (List.mem_of_getElem? hget)
  · intro h k hk
    obtain ⟨i, hi⟩ := List.mem_iff_getElem?.1 hk
    have hin := (List.getElem?_eq_some_iff.1 hi).1
    rw [getElem?_contentUnder hin] at hi
    exact h _ k (by omega) (by omega) hi

end

/-! ## Pure sections -/

/-- A heading with nothing but task items and blank lines up to where its section stops, and at least one item. -/
structure IsPure (kinds : List LineKind) (first stop : Nat) : Prop where
  opens : ∃ k, kinds[first]? = some k ∧ k.isHeading = true
  stops : StopsAt kinds first stop
  pure : ∀ i, first < i → i < stop → kinds[i]? = some .task ∨ kinds[i]? = some .blank
  item : ∃ i, first < i ∧ i < stop ∧ kinds[i]? = some .task

section
variable {kinds : List LineKind} {first stop : Nat} {s t : TaskSection}

theorem IsSection.stopsAt (hs : IsSection kinds s) : StopsAt kinds s.headingLine s.endLine := by
  obtain ⟨explicit, hget⟩ := hs.heading
  exact (stopsAt_iff (List.getElem?_eq_some_iff.1 hget).1).2 hs.endLine

/-- The first item of a section is the first task line after its heading. -/
theorem IsSection.isLeast_firstItem (hs : IsSection kinds s) :
    s.firstItem < s.endLine ∧ IsLeast {i | s.headingLine < i ∧ kinds[i]? = some .task} s.firstItem := by
  have hlt : (contentUnder kinds s.headingLine).idxOf .task < (contentUnder kinds s.headingLine).length :=
    List.idxOf_lt_length_iff.2 hs.item
  have hend : s.firstItem < s.endLine := by
    rw [hs.firstItem, hs.endLine]
    omega
  obtain ⟨rest, hrest⟩ := List.head?_eq_some_iff.1 hs.head?_taskLines
  have hmem : s.firstItem ∈ taskLines kinds s.headingLine := hrest ▸ List.mem_cons_self
  obtain ⟨hafter, htask, -⟩ := mem_taskLines_iff.1 hmem
  refine ⟨hend, ⟨hafter, htask⟩, fun i ⟨hi, hitask⟩ => ?_⟩
  by_contra hlt'
  -- An earlier item would be listed before the first one.
  have hi : i ∈ taskLines kinds s.headingLine := mem_taskLines_iff.2
    ⟨hi, hitask, fun j h1 h2 k hk => hs.stopsAt.between j k h1 (by omega) hk⟩
  have hsorted := sorted_taskLines kinds s.headingLine
  rw [hrest] at hi hsorted
  rcases List.mem_cons.1 hi with rfl | hi
  · exact hlt' le_rfl
  · exact hlt' (Nat.le_of_lt ((List.pairwise_cons.1 hsorted).1 i hi))

/-- The pure headings are those of the task sections. -/
theorem isPure_iff : IsPure kinds first stop ↔ ∃ s, IsSection kinds s ∧ s.headingLine = first ∧ s.endLine = stop := by
  constructor
  · rintro ⟨⟨k, hk, hheading⟩, hstops, hpure, i, h1, h2, htask⟩
    obtain rfl := (stopsAt_iff (List.getElem?_eq_some_iff.1 hk).1).1 hstops
    cases k with
    | heading level text anchor explicit =>
      refine ⟨⟨text, anchor, level, first, first + 1 + (contentUnder kinds first).idxOf .task, _⟩,
        ⟨⟨explicit, hk⟩, ?_, ?_, rfl, rfl⟩, rfl, rfl⟩
      · refine forall_mem_contentUnder_iff.2 fun j k' h1 h2 hk' => ?_
        have hkind := hpure j h1 h2
        rw [hk', Option.some.injEq, Option.some.injEq] at hkind
        exact hkind
      · have hin : i - (first + 1) < (contentUnder kinds first).length := by omega
        have hget := getElem?_contentUnder hin
        rw [Nat.add_sub_cancel' h1, htask] at hget
        exact List.mem_of_getElem? hget
    | _ => cases hheading
  · rintro ⟨s, hs, rfl, rfl⟩
    obtain ⟨explicit, hget⟩ := hs.heading
    obtain ⟨hlt, ⟨hafter, htask⟩, -⟩ := hs.isLeast_firstItem
    refine ⟨⟨_, hget, rfl⟩, hs.stopsAt, fun i h1 h2 => ?_, s.firstItem, hafter, hlt, htask⟩
    rw [hs.endLine] at h2
    obtain ⟨k, hk, -⟩ := lt_contentUnder_of_lt h1 h2
    rw [hk, Option.some.injEq, Option.some.injEq]
    exact forall_mem_contentUnder_iff.1 hs.content i k h1 h2 hk

/-- Of two sections the later one has its heading at the stop of the first, or after it. -/
theorem IsSection.endLine_le (hs : IsSection kinds s) (ht : IsSection kinds t) (h : s.headingLine < t.headingLine) :
    s.endLine ≤ t.headingLine := by
  by_contra hlt
  obtain ⟨explicit, hget⟩ := ht.heading
  cases hs.stopsAt.between _ _ h (not_le.1 hlt) hget

end

/-! ## The search -/

theorem detect_apart (body : String) : (detect body).Pairwise fun s t => s.endLine ≤ t.headingLine := by
  have hsorted := (sorted_inLines 0 (lineKinds body)).2
  rw [← detect_eq] at hsorted
  exact hsorted.imp_of_mem fun hs ht h => (mem_detect_iff.1 hs).endLine_le (mem_detect_iff.1 ht) h

/-- **The search finds the pure sections**: it lists their headings in order, all of them and nothing else, each with its
first item and its stop. One pass over the lines finds the same, whichever number past the last line says that no item
was met. Looking for a mark in brackets first loses none, for where no mark is there is no task line. -/
theorem detect_lists_pure (body : String) :
    (∀ first stop, IsPure (lineKinds body) first stop ↔ ∃ s ∈ detect body, s.headingLine = first ∧ s.endLine = stop) ∧
    (∀ s ∈ detect body,
      (∃ explicit, (lineKinds body)[s.headingLine]? = some (.heading s.level s.heading s.anchor explicit)) ∧
      IsLeast {i | s.headingLine < i ∧ (lineKinds body)[i]? = some .task} s.firstItem ∧
      s.headingLine < s.firstItem ∧ s.firstItem < s.endLine) ∧
    ((detect body).Pairwise fun s t => s.endLine ≤ t.headingLine) ∧
    detect body = inLines 0 (lineKinds body) ∧
    (∀ unseen, (lineKinds body).length ≤ unseen → SectionPass.run unseen (lineKinds body) = detect body) ∧
    (.task ∈ lineKinds body → ∃ mark ∈ ["[ ]", "[x]", "[X]"], mark.toList <:+: body.toList) := by
  refine ⟨fun first stop => ?_, fun s hs => ?_, detect_apart body, detect_eq body,
    fun unseen h => (SectionPass.run_eq h).trans (detect_eq body).symm, fun h => ?_⟩
  · simp only [isPure_iff, mem_detect_iff]
  · have hsection := mem_detect_iff.1 hs
    obtain ⟨hlt, hleast⟩ := hsection.isLeast_firstItem
    exact ⟨hsection.heading, hleast, hleast.1.1, hlt⟩
  · obtain ⟨i, hi⟩ := List.mem_iff_getElem?.1 h
    have hmark := mayHoldTask_of_task hi
    rw [mayHoldTask, List.any_eq_true] at hmark
    obtain ⟨mark, hmark, hoccurs⟩ := hmark
    exact ⟨mark, hmark, occursIn_iff.1 hoccurs⟩

/-- A mixed section between two task sections, and one at the end of the text. The pass starts each with the greatest
number of 64 bits for its first item. -/
theorem threeSections_listed :
    let body := "# A\n- [ ] one\n# B\ntext\n- [x] two\n## C\n\n- [x] three\n# D\n- [ ] four"
    IsPure (lineKinds body) 5 8 ∧ ¬ IsPure (lineKinds body) 2 5 ∧
      SectionPass.run 18446744073709551615 (lineKinds body) =
        [⟨"A", "a", 1, 0, 1, 2⟩, ⟨"C", "c", 2, 5, 7, 8⟩, ⟨"D", "d", 1, 8, 9, 10⟩] := by
  intro body
  obtain ⟨hpure, -, -, -, hpass, -⟩ := detect_lists_pure body
  have hdetect : detect body = [⟨"A", "a", 1, 0, 1, 2⟩, ⟨"C", "c", 2, 5, 7, 8⟩, ⟨"D", "d", 1, 8, 9, 10⟩] := by
    decide +kernel
  have hlength : (lineKinds body).length = 10 := by decide +kernel
  rw [hdetect] at hpure hpass
  refine ⟨(hpure 5 8).2 ⟨_, .tail _ (.head _), rfl, rfl⟩, fun hmixed => ?_, hpass _ (by omega)⟩
  obtain ⟨s, hs, hfirst, -⟩ := (hpure 2 5).1 hmixed
  simp only [List.mem_cons, List.not_mem_nil, or_false] at hs
  rcases hs with rfl | rfl | rfl <;> cases hfirst

end TaskSection

end LivePage
