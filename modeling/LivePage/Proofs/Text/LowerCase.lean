import LivePage.Text.LowerCase
import Mathlib.Tactic.SplitIfs
/-!
# Lower case is reached in one step

What a character is mapped to is not mapped any further. This is a property of the table of case mappings: no run of it
maps a character to one that another run maps.
-/
namespace LivePage.Text

namespace CaseRun

/-- What a run of case mappings maps its characters to. -/
def images (r : CaseRun) : List Nat :=
  (List.range' r.first ((r.last - r.first) / r.step + 1) r.step).map fun n : Nat => (n + r.shift).toNat

/-- Whether nothing that a run maps to is mapped by another run. Runs that are far apart are told by their ends. -/
def missedBy (r other : CaseRun) : Bool :=
  (r.last + r.shift).toNat.blt other.first || other.last.blt (r.first + r.shift).toNat ||
    r.images.all (!other.covers ·)

variable {r other : CaseRun} {n : Nat}

theorem mem_images (h : r.covers n = true) : (n + r.shift).toNat ∈ r.images := by
  simp only [covers, Bool.and_eq_true, decide_eq_true_eq, beq_iff_eq] at h
  obtain ⟨⟨hfirst, hlast⟩, hstep⟩ := h
  have hcut := Nat.mul_div_cancel' (Nat.dvd_of_mod_eq_zero hstep)
  have hn : n ∈ List.range' r.first ((r.last - r.first) / r.step + 1) r.step :=
    List.mem_range'.2 ⟨(n - r.first) / r.step, Nat.lt_succ_of_le (Nat.div_le_div_right (by omega)), by omega⟩
  exact List.mem_map.2 ⟨n, hn, rfl⟩

theorem covers_eq_false (h : r.missedBy other = true) (hn : r.covers n = true) :
    other.covers (n + r.shift).toNat = false := by
  have hmem := mem_images hn
  simp only [covers, Bool.and_eq_true, decide_eq_true_eq] at hn
  simp only [missedBy, Bool.or_eq_true, Nat.blt_eq, List.all_eq_true, Bool.not_eq_true'] at h
  rcases h with (hafter | hbefore) | hall
  · have hlt : ¬ other.first ≤ (n + r.shift).toNat := by omega
    simp [covers, hlt]
  · have hlt : ¬ (n + r.shift).toNat ≤ other.last := by omega
    simp [covers, hlt]
  · exact hall _ hmem

end CaseRun

/-- What is in lower case has no other lower case. -/
theorem missedBy_lowerCaseRuns : (lowerCaseRuns.all fun r => lowerCaseRuns.all r.missedBy) = true := by decide +kernel

theorem images_lowerCaseRuns :
    (lowerCaseRuns.all fun r => r.images.all fun n => decide (n.isValidChar ∧ n ≠ 0x130)) = true := by
  decide +kernel

theorem lowerCase_eq_self {c : Char} (hdotted : c.toNat ≠ 0x130) (hruns : ∀ r ∈ lowerCaseRuns, r.covers c.toNat = false) :
    lowerCase c = [c] := by
  have hfind : lowerCaseRuns.find? (·.covers c.toNat) = none :=
    List.find?_eq_none.2 fun r hr => by simp [hruns r hr]
  rw [lowerCase, if_neg hdotted, shiftCase, hfind]

/-- Lower case is reached in one step. -/
theorem lowerCase_of_mem_lowerCase {c d : Char} (h : d ∈ lowerCase c) : lowerCase d = [d] := by
  unfold lowerCase at h
  split_ifs at h with hdotted
  · have hpair : ['i', '\u0307'].all (fun d => lowerCase d == [d]) = true := by decide +kernel
    exact beq_iff_eq.1 (List.all_eq_true.1 hpair d h)
  · obtain rfl := List.mem_singleton.1 h
    unfold shiftCase
    cases hfind : lowerCaseRuns.find? (·.covers c.toNat) with
    | none => exact lowerCase_eq_self hdotted fun r hr => by simpa using List.find?_eq_none.1 hfind r hr
    | some r =>
      have hcovers : r.covers c.toNat = true := by simpa using List.find?_some hfind
      have hr := List.mem_of_find?_eq_some hfind
      -- No run maps what another one maps to, so what is reached is not mapped again.
      have himages := List.all_eq_true.1 (List.all_eq_true.1 images_lowerCaseRuns r hr) _ (CaseRun.mem_images hcovers)
      obtain ⟨hvalid, hne⟩ := of_decide_eq_true himages
      have htoNat : (Char.ofNat (c.toNat + r.shift).toNat).toNat = (c.toNat + r.shift).toNat := by
        rw [Char.ofNat, dif_pos hvalid]
        rfl
      refine lowerCase_eq_self (htoNat ▸ hne) fun other hother => ?_
      change other.covers (Char.ofNat (c.toNat + r.shift).toNat).toNat = false
      rw [htoNat]
      exact CaseRun.covers_eq_false (List.all_eq_true.1 (List.all_eq_true.1 missedBy_lowerCaseRuns r hr) other hother) hcovers

end LivePage.Text
