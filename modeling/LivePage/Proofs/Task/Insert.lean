import LivePage.Proofs.Task.Anchor
/-!
# One more task line

When a task line is put in among others, all lines from its place on move by one. Headings keep the task lines that are
under them, and the heading over the new line gains it.
-/
namespace LivePage

open LineKind

/-- Where a line stands after another one is put in at a place. -/
def moved (place i : Nat) : Nat := if i < place then i else i + 1

variable {place i j : Nat}

theorem moved_of_lt (h : i < place) : moved place i = i := if_pos h

theorem moved_lt_moved : moved place i < moved place j ↔ i < j := by
  unfold moved
  split_ifs <;> omega

theorem moved_injective (place : Nat) : Function.Injective (moved place) := by
  intro i j h
  unfold moved at h
  split_ifs at h <;> omega

theorem moved_lt_place : moved place i < place ↔ i < place := by
  unfold moved
  split_ifs <;> omega

theorem moved_ne_place (place i : Nat) : moved place i ≠ place := by
  unfold moved
  split_ifs <;> omega

/-- The lines apart from the new one are those that were there. -/
theorem exists_moved (h : j ≠ place) : ∃ i, moved place i = j := by
  rcases Nat.lt_or_gt_of_ne h with hlt | hgt
  · exact ⟨j, if_pos hlt⟩
  · exact ⟨j - 1, by rw [moved, if_neg (by omega)]; omega⟩

namespace LineKind

variable {kinds : List LineKind} {kind : LineKind} {heading : Nat}

theorem getElem?_insertIdx_moved (kinds : List LineKind) (place : Nat) (kind : LineKind) (i : Nat) :
    (kinds.insertIdx place kind)[moved place i]? = kinds[i]? := by
  rw [List.getElem?_insertIdx]
  unfold moved
  by_cases hi : i < place
  · rw [if_pos hi, if_pos hi]
  · rw [if_neg hi, if_neg (by omega), if_neg (by omega), Nat.add_sub_cancel]

theorem getElem?_insertIdx_place (hplace : place ≤ kinds.length) (kind : LineKind) :
    (kinds.insertIdx place kind)[place]? = some kind := by
  rw [List.getElem?_insertIdx, if_neg (Nat.lt_irrefl _), if_pos rfl, if_pos hplace]

/-- What is looked for is found where it has moved to, if the new line is nothing of the kind. -/
theorem findIdx?_insertIdx {p : LineKind → Bool} (hkind : p kind = false) (hplace : place ≤ kinds.length) :
    (kinds.insertIdx place kind).findIdx? p = (kinds.findIdx? p).map (moved place) := by
  induction place generalizing kinds with
  | zero =>
    rw [List.insertIdx_zero, List.findIdx?_cons, hkind]
    rfl
  | succ place ih =>
    cases kinds with
    | nil => cases hplace
    | cons k kinds =>
      rw [List.insertIdx_succ_cons, List.findIdx?_cons, List.findIdx?_cons, ih (Nat.le_of_succ_le_succ hplace)]
      by_cases hk : p k = true
      · simp [hk, moved]
      · simp only [hk, Bool.false_eq_true, if_false, Option.map_map]
        refine Option.map_congr fun i _ => ?_
        simp only [Function.comp_apply, moved]
        split_ifs <;> omega

theorem moved_mem_taskLines_iff (hplace : place ≤ kinds.length) :
    moved place i ∈ taskLines (kinds.insertIdx place .task) (moved place heading) ↔ i ∈ taskLines kinds heading := by
  rw [mem_taskLines_iff, mem_taskLines_iff, moved_lt_moved, getElem?_insertIdx_moved]
  refine and_congr_right fun _ => and_congr_right fun _ => ⟨fun h j h1 h2 k hk => ?_, fun h j h1 h2 k hk => ?_⟩
  · exact h (moved place j) (moved_lt_moved.2 h1) (moved_lt_moved.2 h2) k (by rwa [getElem?_insertIdx_moved])
  · by_cases hj : j = place
    · rw [hj, getElem?_insertIdx_place hplace] at hk
      rw [← Option.some.inj hk]
      rfl
    · obtain ⟨j, rfl⟩ := exists_moved hj
      rw [getElem?_insertIdx_moved] at hk
      exact h j (moved_lt_moved.1 h1) (moved_lt_moved.1 h2) k hk

/-- The new line is under the heading from which no other heading parts it. -/
theorem place_mem_taskLines_iff (hplace : place ≤ kinds.length) :
    place ∈ taskLines (kinds.insertIdx place .task) (moved place heading) ↔
      heading < place ∧ ∀ j, heading < j → j < place → ∀ k, kinds[j]? = some k → k.isHeading = false := by
  rw [mem_taskLines_iff, moved_lt_place, getElem?_insertIdx_place hplace]
  refine and_congr_right fun hlt => ?_
  rw [moved_of_lt hlt, and_iff_right rfl]
  refine forall_congr' fun j => forall_congr' fun _ => forall_congr' fun hj => ?_
  rw [← getElem?_insertIdx_moved kinds place .task j, moved_of_lt hj]

/-- A heading under which the new line is not put keeps its task lines. -/
theorem taskLines_insertIdx_of_notMem (hplace : place ≤ kinds.length)
    (hno : place ∉ taskLines (kinds.insertIdx place .task) (moved place heading)) :
    taskLines (kinds.insertIdx place .task) (moved place heading) = (taskLines kinds heading).map (moved place) := by
  have hsorted : ((taskLines kinds heading).map (moved place)).Pairwise (· < ·) :=
    List.pairwise_map.2 ((sorted_taskLines kinds heading).imp fun h => moved_lt_moved.2 h)
  refine (sorted_taskLines _ _).eq_of_mem_iff hsorted fun j => ?_
  by_cases hj : j = place
  · subst hj
    exact iff_of_false hno fun hmem => by
      obtain ⟨i, -, hi⟩ := List.mem_map.1 hmem
      exact moved_ne_place j i hi
  · obtain ⟨i, rfl⟩ := exists_moved hj
    rw [moved_mem_taskLines_iff hplace, List.mem_map_of_injective (moved_injective place)]

/-- The heading over the new line gains it, as the last one if all others come before it. -/
theorem taskLines_insertIdx_of_mem (hplace : place ≤ kinds.length)
    (hmem : place ∈ taskLines (kinds.insertIdx place .task) (moved place heading))
    (hbefore : ∀ i ∈ taskLines kinds heading, i < place) :
    taskLines (kinds.insertIdx place .task) (moved place heading) = taskLines kinds heading ++ [place] := by
  have hsorted : (taskLines kinds heading ++ [place]).Pairwise (· < ·) := by
    simpa [List.pairwise_append, sorted_taskLines] using hbefore
  refine (sorted_taskLines _ _).eq_of_mem_iff hsorted fun j => ?_
  by_cases hj : j = place
  · simp [hj, hmem]
  · obtain ⟨i, rfl⟩ := exists_moved hj
    rw [moved_mem_taskLines_iff hplace, List.mem_append, List.mem_singleton]
    constructor
    · intro hi
      exact .inl (by rwa [moved_of_lt (hbefore i hi)])
    · rintro (hi | hi)
      · have hlt := moved_lt_place.1 (hbefore _ hi)
        rwa [moved_of_lt hlt] at hi
      · exact absurd hi hj

end LineKind

end LivePage
