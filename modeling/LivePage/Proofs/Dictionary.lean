import LivePage.Dictionary
import Mathlib.Data.List.Sort
import Mathlib.Data.String.Basic
import Mathlib.Tactic.SplitIfs
/-!
# Names of a dictionary

A name is bound if it is one of the dictionary's names, whatever their order. Binding a name keeps the names in
ascending order, and a dictionary in that order is known from what it binds each name to.
-/
namespace LivePage.Dictionary

variable {α : Type} {d e : Dictionary α} {name n : String} {value : α}

theorem contains_iff : d.contains name = true ↔ name ∈ d.names := by
  rw [contains, find?, List.lookup_isSome_iff, names, List.mem_map]
  exact exists_congr fun p => and_congr_right fun _ => beq_iff_eq.trans eq_comm

theorem mem_names_insert : n ∈ (d.insert name value).names ↔ n = name ∨ n ∈ d.names := by
  induction d with
  | nil => simp [insert, names]
  | cons p rest ih =>
    obtain ⟨k, v⟩ := p
    unfold names at ih ⊢
    rw [insert]
    split_ifs with hsame hbefore
    · subst hsame; simp
    · simp
    · rw [List.map_cons, List.mem_cons, ih, List.map_cons, List.mem_cons, or_left_comm]

theorem find?_insert_self : (d.insert name value).find? name = some value := by
  unfold find?
  induction d with
  | nil => simp [insert]
  | cons p rest ih =>
    obtain ⟨k, v⟩ := p
    rw [insert]
    split_ifs with hsame hbefore
    · simp
    · simp
    · rw [List.lookup_cons, beq_eq_false_iff_ne.2 hsame, ih]

theorem find?_insert_ne (h : n ≠ name) : (d.insert name value).find? n = d.find? n := by
  have hbeq : (n == name) = false := beq_eq_false_iff_ne.2 h
  unfold find?
  induction d with
  | nil => simp [insert, List.lookup_cons, hbeq]
  | cons p rest ih =>
    obtain ⟨k, v⟩ := p
    rw [insert]
    split_ifs with hsame hbefore
    · subst hsame
      rw [List.lookup_cons, List.lookup_cons, hbeq]
    · rw [List.lookup_cons, hbeq]
    · rw [List.lookup_cons, List.lookup_cons, ih]

theorem perm_insert (h : name ∉ d.names) : (d.insert name value).Perm ((name, value) :: d) := by
  induction d with
  | nil => exact .refl _
  | cons p rest ih =>
    obtain ⟨k, v⟩ := p
    rw [names, List.map_cons, List.mem_cons, not_or] at h
    rw [insert, if_neg h.1]
    split_ifs
    · exact .refl _
    · exact ((ih h.2).cons (k, v)).trans (.swap ..)

/-! ## Ascending order -/

/-- The names are in ascending order, each once. -/
def Ascending (d : Dictionary α) : Prop := d.names.Pairwise (· < ·)

theorem ascending_nil : Ascending ([] : Dictionary α) := .nil

theorem Ascending.insert (h : d.Ascending) : (d.insert name value).Ascending := by
  induction d with
  | nil => exact List.pairwise_singleton ..
  | cons p rest ih =>
    obtain ⟨k, v⟩ := p
    obtain ⟨hfirst, hrest⟩ := List.pairwise_cons.1 h
    unfold Ascending names at *
    rw [Dictionary.insert]
    split_ifs with hsame hbefore
    · subst hsame
      exact h
    · refine List.pairwise_cons.2 ⟨fun n hn => ?_, h⟩
      rcases List.mem_cons.1 hn with rfl | hn
      · exact hbefore
      · exact hbefore.trans (hfirst n hn)
    · refine List.pairwise_cons.2 ⟨fun n hn => ?_, ih hrest⟩
      rcases mem_names_insert.1 hn with rfl | hn
      · exact lt_of_le_of_ne (not_lt.1 hbefore) (Ne.symm hsame)
      · exact hfirst n hn

/-- What a name is bound to is its entry. -/
theorem Ascending.find?_eq_some_iff (h : d.Ascending) : d.find? name = some value ↔ (name, value) ∈ d := by
  unfold find?
  induction d with
  | nil => simp
  | cons p rest ih =>
    obtain ⟨k, v⟩ := p
    obtain ⟨hfirst, hrest⟩ := List.pairwise_cons.1 h
    by_cases hsame : name = k
    · subst hsame
      have hnot : (name, value) ∉ rest := fun hmem =>
        lt_irrefl _ (hfirst name (List.mem_map.2 ⟨_, hmem, rfl⟩))
      simp [hnot, eq_comm]
    · rw [List.lookup_cons, beq_eq_false_iff_ne.2 hsame, List.mem_cons, Prod.mk.injEq, ih hrest]
      simp [hsame]

theorem Ascending.ext (hd : d.Ascending) (he : e.Ascending) (h : ∀ name, d.find? name = e.find? name) : d = e := by
  have hdpairs : d.Pairwise (·.1 < ·.1) := List.pairwise_map.1 hd
  have hepairs : e.Pairwise (·.1 < ·.1) := List.pairwise_map.1 he
  have : Std.Irrefl fun p q : String × α => p.1 < q.1 := ⟨fun p => lt_irrefl p.1⟩
  have : Std.Antisymm fun p q : String × α => p.1 < q.1 := ⟨fun p q hpq hqp => absurd hqp hpq.not_gt⟩
  refine hdpairs.eq_of_mem_iff hepairs fun p => ?_
  rw [← hd.find?_eq_some_iff, ← he.find?_eq_some_iff, h]

end LivePage.Dictionary
