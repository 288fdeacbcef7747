import LivePage.Proofs.Task.Section
/-!
# One pass for the sections

The search for task sections can go over the lines once, without a look at what comes. It holds the section of the last
heading open, notes whether another line than an item or a blank one was passed since, and keeps the first item that it
meets; the next heading ends the section, and so does the end of the text. As long as no item was met, a number that no
line has stands for the first item.
-/
namespace LivePage

open LineKind

/-- What is known in the middle of a pass (`detect`). -/
structure SectionPass where
  sections : List TaskSection
  current : Option TaskSection
  mixed : Bool

namespace SectionPass

/-- Ends the open section before a line. It is a task section if nothing else was passed and an item was met. -/
def flush (s : SectionPass) (endLine : Nat) : SectionPass :=
  match s.current with
  | none => s
  | some t =>
    { s with
      current := none
      sections := if !s.mixed && t.firstItem < endLine then s.sections ++ [{ t with endLine }] else s.sections }

def step (unseen : Nat) (s : SectionPass) : LineKind × Nat → SectionPass
  | (.heading level text anchor _, index) =>
    { s.flush index with
      current := some ⟨text, anchor, level, index, unseen, index + 1⟩
      mixed := false }
  | (.task, index) => { s with current := s.current.map fun t => { t with firstItem := min t.firstItem index } }
  | (.blank, _) => s
  | (.code, _) => { s with mixed := true }
  | (.other, _) => { s with mixed := true }

/-- The sections that one pass over the lines finds. -/
def run (unseen : Nat) (kinds : List LineKind) : List TaskSection :=
  ((kinds.zipIdx.foldl (step unseen) ⟨[], none, false⟩).flush kinds.length).sections

/-- What the open section comes to, with the lines from one with a number on still to be passed. -/
def pending (s : SectionPass) (i : Nat) (rest : List LineKind) : List TaskSection :=
  match s.current with
  | none => []
  | some t =>
    let content := rest.takeWhile (!·.isHeading)
    let first := min t.firstItem (i + content.idxOf .task)
    if !s.mixed && content.all (fun k => k == .task || k == .blank) && first < i + content.length then
      [{ t with firstItem := first, endLine := i + content.length }]
    else []

variable {unseen i : Nat} {rest : List LineKind}

/-- Nothing is under a heading or the end of the text, so there the open section comes to what it is. -/
theorem sections_flush (s : SectionPass) (hends : rest.takeWhile (!·.isHeading) = []) :
    (s.flush i).sections = s.sections ++ s.pending i rest := by
  rw [flush, pending]
  cases s.current with
  | none => exact (List.append_nil _).symm
  | some t =>
    simp only [hends, List.idxOf_nil, List.length_nil, Nat.add_zero, List.all_nil, Bool.and_true]
    by_cases hitem : t.firstItem < i
    · rw [Nat.min_eq_left hitem.le]
      split_ifs <;> simp
    · rw [Nat.min_eq_right (not_lt.1 hitem)]
      simp [hitem]

/-- The section of a heading that was just passed comes to what the search makes of it. -/
theorem pending_heading {level : Nat} {text anchor : String} (explicit : Bool) (l : List TaskSection)
    (h : i + 1 + rest.length ≤ unseen) :
    pending ⟨l, some ⟨text, anchor, level, i, unseen, i + 1⟩, false⟩ (i + 1) rest ++ TaskSection.inLines (i + 1) rest =
      TaskSection.inLines i (.heading level text anchor explicit :: rest) := by
  rw [pending, TaskSection.inLines]
  dsimp only
  generalize hcontent : rest.takeWhile (!·.isHeading) = content
  have hlength : content.length ≤ rest.length := hcontent ▸ (List.takeWhile_prefix _).length_le
  by_cases hitem : .task ∈ content
  · have hlt := List.idxOf_lt_length_iff.2 hitem
    have hfirst : min unseen (i + 1 + content.idxOf .task) = i + 1 + content.idxOf .task := by omega
    rw [hfirst, List.contains_iff_mem.2 hitem, decide_eq_true (Nat.add_lt_add_left hlt (i + 1)), Bool.not_false,
      Bool.true_and]
    split_ifs <;> rfl
  · have hidx : content.idxOf .task = content.length := List.idxOf_eq_length_iff.2 hitem
    have hcontains : content.contains .task = false := by simpa using hitem
    have hfirst : ¬ min unseen (i + 1 + content.length) < i + 1 + content.length := by omega
    rw [hidx, hcontains, decide_eq_false hfirst]
    simp

theorem pending_task (s : SectionPass) :
    (s.step unseen (.task, i)).pending (i + 1) rest = s.pending i (.task :: rest) := by
  rw [step, pending, pending]
  cases s.current with
  | none => rfl
  | some t =>
    rw [Option.map_some, List.takeWhile_cons_of_pos rfl]
    dsimp only
    generalize rest.takeWhile (!·.isHeading) = content
    have hfirst : min (min t.firstItem i) (i + 1 + content.idxOf .task) = min t.firstItem i := by omega
    rw [hfirst, List.idxOf_cons_self, List.length_cons, List.all_cons, Nat.add_zero, Nat.add_right_comm, Nat.add_assoc]
    rfl

theorem pending_blank (s : SectionPass) : s.pending (i + 1) rest = s.pending i (.blank :: rest) := by
  rw [pending, pending]
  cases s.current with
  | none => rfl
  | some t =>
    rw [List.takeWhile_cons_of_pos rfl]
    dsimp only
    generalize rest.takeWhile (!·.isHeading) = content
    have hfirst : i + 1 + content.idxOf .task = i + (content.idxOf .task).succ := by omega
    have hstop : i + 1 + content.length = i + (content.length + 1) := by omega
    rw [hfirst, hstop, List.idxOf_cons_ne _ (by simp), List.length_cons, List.all_cons]
    rfl

/-- Nothing comes of a section with another line in it. -/
theorem pending_spoilt (s : SectionPass) {kind : LineKind} (hheading : kind.isHeading = false) (htask : kind ≠ .task)
    (hblank : kind ≠ .blank) : { s with mixed := true }.pending (i + 1) rest = s.pending i (kind :: rest) := by
  rw [pending, pending]
  cases s.current with
  | none => rfl
  | some t =>
    rw [List.takeWhile_cons_of_pos (by rw [hheading]; rfl)]
    simp [htask, hblank]

/-- What the pass finds from a line on: what it found before, the section that is open there, and the sections that the
search finds from that line on. -/
theorem sections_foldl (s : SectionPass) (h : i + rest.length ≤ unseen) :
    (((rest.zipIdx i).foldl (step unseen) s).flush (i + rest.length)).sections =
      s.sections ++ s.pending i rest ++ TaskSection.inLines i rest := by
  -- By the lines to come. A heading ends the open section, and the one that it opens is what the search looks at next.
  induction rest generalizing s i with
  | nil =>
    rw [TaskSection.inLines, List.append_nil]
    exact sections_flush s rfl
  | cons kind rest ih =>
    have hlength : i + (kind :: rest).length = i + 1 + rest.length := by rw [List.length_cons]; omega
    rw [hlength] at h ⊢
    rw [List.zipIdx_cons, List.foldl_cons, ih _ h]
    cases kind with
    | heading level text anchor explicit =>
      have hflush : (s.flush i).sections = s.sections ++ s.pending i (.heading level text anchor explicit :: rest) :=
        sections_flush s rfl
      rw [← hflush, ← pending_heading explicit _ h, List.append_assoc]
      rfl
    | task =>
      rw [pending_task]
      rfl
    | blank =>
      rw [← pending_blank]
      rfl
    | code =>
      rw [← pending_spoilt s rfl (by simp) (by simp)]
      rfl
    | other =>
      rw [← pending_spoilt s rfl (by simp) (by simp)]
      rfl

/-- **One pass finds the task sections**, if its number for no item comes after all lines. -/
theorem run_eq {kinds : List LineKind} (h : kinds.length ≤ unseen) : run unseen kinds = TaskSection.inLines 0 kinds := by
  have hpass := sections_foldl ⟨[], none, false⟩ (i := 0) (Nat.zero_add kinds.length ▸ h)
  rw [Nat.zero_add] at hpass
  exact hpass

end SectionPass

end LivePage
