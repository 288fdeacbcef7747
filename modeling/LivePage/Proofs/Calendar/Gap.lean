import LivePage.Proofs.Calendar.Zone
/-!
# The ends of gaps

Clocks that go forward leave local times out. Such a time moves ahead by quarter hours until clocks show it, so it meets
the end of its gap just where it lies a whole number of quarter hours before that end. Any other time of the gap jumps
over the end, to the first quarter hour of its own after it.
-/
namespace LivePage

open Calendar

/-- Seconds of a step of the search for a local time that clocks show. -/
def stepSeconds : Int := 900

namespace Zone

/-- Clocks show a local time at some instant. -/
def Shown (z : Zone) (l : LocalTime) : Prop := ∃ u, z.Shows l u

/-- The earliest instant at which clocks show a local time. -/
structure ShownFirstAt (z : Zone) (l : LocalTime) (t : Instant) : Prop where
  whole : t.nanos = 0
  least : IsLeast {u | z.Shows l u} t.seconds

/-- A local time lies in a gap that ends at a later one: clocks never show it nor any other up to the end, and they do
show the end. -/
structure SkipsTo (z : Zone) (l stop : LocalTime) : Prop where
  lt : l.seconds < stop.seconds
  skipped : ∀ m : LocalTime, l.seconds ≤ m.seconds → m.seconds < stop.seconds → ¬ z.Shown m
  shown : z.Shown stop

variable {z : Zone} {l stop : LocalTime} {t : Instant}

theorem Shown.exists_first (h : z.Shown l) : ∃ t, z.ShownFirstAt l t := by
  obtain ⟨u, hu⟩ := h
  obtain ⟨t, hwhole, hleast⟩ := hu.exists_isLeast
  exact ⟨t, hwhole, hleast⟩

theorem ShownFirstAt.localAt (h : z.ShownFirstAt l t) : z.localAt t = l := localAt_of_shows h.least.1

/-- The search answers with a step that is shown if no step before it is. -/
theorem resolve?_of_step {k : Nat} (hk : k < 97) (hbefore : ∀ j < k, ¬ z.Shown (l.later (15 * (j : Nat))))
    (h : z.ShownFirstAt (l.later (15 * (k : Nat))) t) : z.resolve? l = some t :=
  resolve?_eq_some_iff.2 ⟨h.whole, k, hk, fun j hj u hu => hbefore j hj ⟨u, hu⟩, h.least⟩

theorem exists_step_of_resolve? (h : z.resolve? l = some t) :
    ∃ k : Nat, (z.localAt t).seconds = l.seconds + stepSeconds * k := by
  obtain ⟨-, k, -, -, hk⟩ := resolve?_eq_some_iff.1 h
  refine ⟨k, ?_⟩
  rw [localAt_of_shows hk.1]
  simp only [LocalTime.later, stepSeconds]
  omega

theorem Shown.resolve? (h : z.Shown l) : ∃ t, z.resolve? l = some t ∧ z.ShownFirstAt l t := by
  obtain ⟨t, ht⟩ := h.exists_first
  refine ⟨t, resolve?_of_step (by omega) (fun j hj => absurd hj (Nat.not_lt_zero j)) ?_, ht⟩
  simpa [LocalTime.later_zero] using ht

/-- The first step of a local time that does not lie before the end of its gap. -/
def stepPast (l stop : LocalTime) : LocalTime := ⟨stop.seconds + (l.seconds - stop.seconds) % stepSeconds⟩

theorem stepPast_eq_iff : stepPast l stop = stop ↔ stepSeconds ∣ stop.seconds - l.seconds := by
  cases stop
  simp only [stepPast, stepSeconds, LocalTime.mk.injEq]
  omega

/-- A gap of at most a day is searched to its end. -/
theorem SkipsTo.resolve? (h : z.SkipsTo l stop) (hday : stop.seconds - l.seconds ≤ daySeconds)
    (hshown : z.Shown (stepPast l stop)) : ∃ t, z.resolve? l = some t ∧ z.ShownFirstAt (stepPast l stop) t := by
  obtain ⟨t, ht⟩ := hshown.exists_first
  have hlt := h.lt
  -- The number of steps is the distance to the end in steps, rounded up.
  obtain ⟨k, hk⟩ : ∃ k : Nat, (k : Int) = (stop.seconds - l.seconds + 899) / 900 :=
    ⟨((stop.seconds - l.seconds + 899) / 900).toNat, by omega⟩
  have hstep : l.later (15 * (k : Nat)) = stepPast l stop := by
    simp only [LocalTime.later, stepPast, stepSeconds, LocalTime.mk.injEq]
    omega
  have hbefore (j : Nat) (hj : j < k) : ¬ z.Shown (l.later (15 * (j : Nat))) := by
    refine h.skipped _ ?_ ?_
    · simp only [LocalTime.later]; omega
    · simp only [LocalTime.later]; omega
  refine ⟨t, resolve?_of_step ?_ hbefore (hstep ▸ ht), ht⟩
  simp only [daySeconds] at hday
  omega

/-- **Where a local time moves to.** One that clocks show stays, at the earliest instant that shows it. One in a gap of
which at most a day is left moves to the first of its steps past the gap, if clocks show that; it moves to the end of
the gap, the first local time after it that is shown, just where it lies a whole number of steps before the end. -/
theorem resolve?_eq_gapEnd_iff (z : Zone) (l : LocalTime) :
    (z.Shown l → ∃ t, z.resolve? l = some t ∧ z.ShownFirstAt l t) ∧
    ∀ stop, z.SkipsTo l stop → stop.seconds - l.seconds ≤ daySeconds →
      (z.Shown (stepPast l stop) → ∃ t, z.resolve? l = some t ∧ z.ShownFirstAt (stepPast l stop) t) ∧
      ((∃ t, z.resolve? l = some t ∧ z.ShownFirstAt stop t) ↔ stepSeconds ∣ stop.seconds - l.seconds) := by
  refine ⟨Shown.resolve?, fun stop hgap hday => ⟨hgap.resolve? hday, ?_, fun hdvd => ?_⟩⟩
  · rintro ⟨t, ht, hfirst⟩
    obtain ⟨k, hk⟩ := exists_step_of_resolve? ht
    rw [hfirst.localAt] at hk
    exact ⟨k, by omega⟩
  · have hpast := stepPast_eq_iff.2 hdvd
    have h := hgap.resolve? hday (hpast.symm ▸ hgap.shown)
    rwa [hpast] at h

/-- New York in the spring of 2024: at two in the morning of 10 March clocks go forward to three. -/
def newYork : Zone := { base := -18000, transitions := [(1710054000, -14400)] }

theorem newYork_offsetAt (t : Int) : newYork.offsetAt t = if t < 1710054000 then -18000 else -14400 := by
  by_cases h : t < 1710054000
  · simp [newYork, offsetAt, h]
  · simp [newYork, offsetAt, h, not_lt.1 h]

/-- From two to three o'clock there is a gap. -/
theorem newYork_skipsTo (h1 : 1710036000 ≤ l.seconds) (h2 : l.seconds < 1710039600) :
    newYork.SkipsTo l ⟨1710039600⟩ := by
  refine ⟨h2, ?_, ⟨1710054000, ?_, by decide, by decide⟩⟩
  · rintro m hm1 hm2 ⟨u, hu⟩
    have hclocks := hu.clocks
    rw [newYork_offsetAt] at hclocks
    simp only at hm2
    split_ifs at hclocks <;> omega
  · rw [newYork_offsetAt]
    decide

/-- One o'clock stays, and half past two moves to three o'clock, where the gap ends. -/
theorem newYork_halfPastTwo :
    newYork.Shown ⟨1710032400⟩ ∧ newYork.SkipsTo ⟨1710037800⟩ ⟨1710039600⟩ ∧
    (∃ t, newYork.resolve? ⟨1710032400⟩ = some t ∧ newYork.ShownFirstAt ⟨1710032400⟩ t) ∧
    ∃ t, newYork.resolve? ⟨1710037800⟩ = some t ∧ newYork.ShownFirstAt ⟨1710039600⟩ t := by
  have hshown : newYork.Shown ⟨1710032400⟩ := ⟨1710050400, by decide, by decide, by decide⟩
  have hgap : newYork.SkipsTo ⟨1710037800⟩ ⟨1710039600⟩ := newYork_skipsTo (by decide) (by decide)
  exact ⟨hshown, hgap, (resolve?_eq_gapEnd_iff newYork ⟨1710032400⟩).1 hshown,
    (((resolve?_eq_gapEnd_iff newYork ⟨1710037800⟩).2 _ hgap (by decide)).2).2 ⟨2, by decide⟩⟩

/-- Twenty minutes to three moves to ten past three, ten minutes after the gap has ended. -/
theorem newYork_gapEnd_missed :
    newYork.SkipsTo ⟨1710038400⟩ ⟨1710039600⟩ ∧
    newYork.resolve? ⟨1710038400⟩ = some ⟨1710054600, 0⟩ ∧ newYork.localAt ⟨1710054600, 0⟩ = ⟨1710040200⟩ ∧
    ¬ newYork.ShownFirstAt ⟨1710039600⟩ ⟨1710054600, 0⟩ := by
  refine ⟨newYork_skipsTo (by decide) (by decide), by decide, by decide, fun h => ?_⟩
  exact absurd h.localAt (by decide)

end Zone

end LivePage
