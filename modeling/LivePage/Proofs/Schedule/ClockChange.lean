import LivePage.Proofs.Schedule.Dates
/-!
# When clocks change

An evaluation compares only what it tries first with now. The second date lies after today, yet clocks that have
gone back over midnight may have shown it already, and then its first showing is over. So a next occurrence is
strictly ahead of now exactly where one of the tried times still is, and every schedule has one ahead exactly where
no clock has shown a date later than today's before.
-/
namespace LivePage

open Calendar

namespace Zone

/-- The first showing of a local time is still ahead of now. -/
def Ahead (z : Zone) (now : Instant) (l : LocalTime) : Prop := ∃ t, z.FirstShowing l t ∧ now < t

/-- No gap is too wide to be searched: every local time inside the calendar has a first showing. -/
def Bridged (z : Zone) : Prop := ∀ l : LocalTime, YearInside l.date.year → ∃ t, z.FirstShowing l t

/-- Clocks have never shown a date later than the one they show now. -/
def NeverLater (z : Zone) (now : Instant) : Prop := ∀ t ≤ now, (z.localAt t).date.days ≤ (z.localAt now).date.days

instance : DecidablePred Bounded := fun z => inferInstanceAs (Decidable (∀ o ∈ z.offsets, _))

section
variable {z : Zone} {now : Instant} {l : LocalTime} {t u : Instant}

theorem FirstShowing.unique (ht : z.FirstShowing l t) (hu : z.FirstShowing l u) : t = u := by
  rw [← resolve?_eq_some_iff] at ht hu
  exact Option.some.inj (ht.symm.trans hu)

theorem FirstShowing.ahead_iff (ht : z.FirstShowing l t) : z.Ahead now l ↔ now < t :=
  ⟨fun ⟨_, hu, hlt⟩ => ht.unique hu ▸ hlt, fun hlt => ⟨t, ht, hlt⟩⟩

theorem Shows.exists_firstShowing {s : Int} (h : z.Shows l s) : ∃ t, z.FirstShowing l t ∧ t.seconds ≤ s := by
  obtain ⟨t, h0, hleast⟩ := h.exists_isLeast
  exact ⟨t, .of_isLeast h0 hleast, hleast.2 h⟩

theorem NeverLater.ahead (h : z.NeverLater now) (hb : z.Bridged) {d : Date} {c : TimeOfDay} (hc : c.seconds < 86400)
    (hin : YearInside d.year) (hd : (z.localAt now).date.days < d.days) : z.Ahead now (.on d c) := by
  obtain ⟨t, ht⟩ := hb (.on d c) (by rwa [LocalTime.date_on d hc])
  refine ⟨t, ht, lt_of_not_ge fun hle => ?_⟩
  have := ht.date_le hc
  have := h t hle
  omega

/-- What clocks showed before now is at most two days ahead of today, as no clock is a day ahead of or behind UTC. -/
theorem Bounded.days_le (hz : z.Bounded) (h : t ≤ now) :
    (z.localAt t).date.days ≤ (z.localAt now).date.days + 2 := by
  have ht := hz _ (z.offsetAt_mem t.seconds)
  have hnow := hz _ (z.offsetAt_mem now.seconds)
  have := Instant.seconds_mono h
  simp only [localAt, LocalTime.date, daySeconds] at *
  omega

/-- What clocks show at an instant whose date is well inside the calendar is a showing. -/
theorem Bounded.shows (hz : z.Bounded) (h : YearInside (z.localAt t).date.year) :
    z.Shows (z.localAt t) t.seconds := by
  have hin := h.days
  have ht := hz _ (z.offsetAt_mem t.seconds)
  refine ⟨rfl, ?_, ?_⟩
  · rw [hasSecond_iff]
    simp only [localAt, LocalTime.date, daySeconds] at *
    omega
  · rw [ofDays?_eq_some (by omega) (by omega)]
    rfl

end

end Zone

namespace Schedule

section
variable {z : Zone} {now : Instant} {s : Schedule}

/-- One of the times that an evaluation tries is still ahead: on a listed day of the week, or on one of the two dates
of a schedule that names dates, of which the first has to be found at all. -/
def StaysAhead (s : Schedule) (z : Zone) (now : Instant) : Prop :=
  let today := (z.localAt now).date
  match s with
  | weekly days _ => ∃ k < 8, ∃ t, ListedAhead z now days s.clock k t
  | _ => (∃ t, z.FirstShowing (.on (s.firstDate today) s.clock) t) ∧
      (z.Ahead now (.on (s.firstDate today) s.clock) ∨ z.Ahead now (.on (s.secondDate today) s.clock))

theorem lt_nextOccurrence_iff_next? : now < s.nextOccurrence z now ↔ ∃ t, s.next? z now = some t ∧ now < t := by
  unfold nextOccurrence
  cases s.next? z now <;> simp

/-- Of the two dates tried, the second one counts only if the first one is found and over. -/
theorem lt_nextDated?_iff {c : TimeOfDay} {first second : Date} :
    (∃ t, nextDated? z now c (some first) (some second) = some t ∧ now < t) ↔
      (∃ t, z.FirstShowing (.on first c) t) ∧ (z.Ahead now (.on first c) ∨ z.Ahead now (.on second c)) := by
  simp only [nextDated?, Option.bind_eq_bind, Option.bind_some]
  cases hfirst : z.resolve? (.on first c) with
  | none =>
    have hno (t : Instant) : ¬ z.FirstShowing (.on first c) t := fun ht => by
      rw [Zone.resolve?_eq_some_iff.2 ht] at hfirst
      cases hfirst
    simp [hno]
  | some a =>
    have ha := Zone.resolve?_eq_some_iff.1 hfirst
    simp only [Option.bind_some, Instant.before_iff, ha.ahead_iff]
    split_ifs with hlt
    · exact ⟨fun _ => ⟨⟨a, ha⟩, Or.inl hlt⟩, fun _ => ⟨a, rfl, hlt⟩⟩
    · simp only [Zone.resolve?_eq_some_iff]
      exact ⟨fun h => ⟨⟨a, ha⟩, Or.inr h⟩, fun h => h.2.resolve_left hlt⟩

theorem lt_nextWeekly?_iff (hnow : z.WellInside now) {days : List Weekday} {c : TimeOfDay} :
    (∃ t, nextWeekly? z now days c = some t ∧ now < t) ↔ ∃ k < 8, ∃ t, ListedAhead z now days c k t := by
  constructor
  · rintro ⟨t, ht, -⟩
    obtain ⟨k, hk, hlisted, -⟩ := (nextWeekly?_eq_some_iff hnow).1 ht
    exact ⟨k, hk, t, hlisted⟩
  · intro h
    obtain ⟨t, ht⟩ := nextWeekly?_eq_some hnow h
    obtain ⟨k, -, hlisted, -⟩ := (nextWeekly?_eq_some_iff hnow).1 ht
    exact ⟨t, ht, hlisted.2.2⟩

/-- The next occurrence is after now where one of the tried times is, and nowhere else. -/
theorem lt_nextOccurrence_iff (hs : s.Recurs) (hnow : z.WellInside now) :
    now < s.nextOccurrence z now ↔ s.StaysAhead z now := by
  rw [lt_nextOccurrence_iff_next?]
  cases s with
  | weekly days c => exact lt_nextWeekly?_iff hnow
  | relative _ | weekday _ | date _ | offset _ => exact absurd hs.2 id
  | _ => rw [next?_eq hs id z hnow]; exact lt_nextDated?_iff

/-- Where clocks have never shown a later date, the date that is tried last is ahead. -/
theorem staysAhead (hs : s.Recurs) (hnow : z.WellInside now) (hb : z.Bridged) (h : z.NeverLater now) :
    s.StaysAhead z now := by
  have hc := hs.1
  cases s with
  | weekly days c =>
    obtain ⟨w, hw⟩ := List.exists_mem_of_ne_nil days hs.2
    obtain ⟨k, hk1, hk7, hkw⟩ := exists_weekday (z.localAt now).date w
    have hin := hnow.yearInside (Date.year_mono (by simp))
      (Date.year_le_succ (e := ⟨(z.localAt now).date.days + k⟩) (by simp only; omega))
    obtain ⟨t, ht, hlt⟩ := h.ahead hb hc hin (by simp only; omega)
    exact ⟨k, by omega, t, hkw ▸ hw, ht, hlt⟩
  | relative _ | weekday _ | date _ | offset _ => exact absurd hs.2 id
  | _ =>
    obtain ⟨h1, h2⟩ := year_tried hs id (z.localAt now).date
    have htries := tries hs id (z.localAt now).date
    have hfirst := hb (.on _ _) (by rw [LocalTime.date_on _ hc]; exact hnow.yearInside h1.1 h1.2)
    exact ⟨hfirst, Or.inr (h.ahead hb hc (hnow.yearInside h2.1 h2.2) htries.later)⟩

/-- Where clocks have shown a later date before, the schedule of that weekday at that time of day has its only try of
the week behind it. -/
theorem neverLater (hz : z.Bounded) (hnow : z.WellInside now)
    (h : ∀ s : Schedule, s.Recurs → s.StaysAhead z now) : z.NeverLater now := by
  intro t ht
  by_contra hlater
  simp only [not_le] at hlater
  have htwo := hz.days_le ht
  obtain ⟨n, hn⟩ : ∃ n : Nat, (z.localAt t).date = ⟨(z.localAt now).date.days + n⟩ :=
    ⟨((z.localAt t).date.days - (z.localAt now).date.days).toNat, by
      cases hd : (z.localAt t).date; simp only [hd, Date.mk.injEq] at *; omega⟩
  have hin := hnow.yearInside (Date.year_mono hlater.le) (Date.year_le_succ (by omega))
  obtain ⟨a, ha, hat⟩ := (hz.shows hin).exists_firstShowing
  have hclock : (z.localAt t).clock.seconds < 86400 := by
    simp only [LocalTime.clock, daySeconds]; omega
  obtain ⟨k, hk, u, hday, hu, hlt⟩ := h (weekly [(z.localAt t).date.weekday] (some (z.localAt t).clock)) ⟨hclock, by simp⟩
  -- Of the eight days only the later date is a listed one.
  obtain rfl : k = n := by
    rw [hn, List.mem_singleton] at hday
    have hsame := Date.weekday_eq_iff.1 hday
    rw [hn] at hlater htwo
    simp only at hsame hlater htwo
    omega
  change z.FirstShowing (.on _ (z.localAt t).clock) u at hu
  rw [← hn, LocalTime.on_date_clock] at hu
  obtain rfl := ha.unique hu
  have := (Instant.whole_le_iff ha.1).2 hat
  exact absurd (lt_of_lt_of_le hlt (this.trans ht)) (lt_irrefl _)

end

/-- **When a recurring schedule stays ahead of now.** Its next occurrence is strictly after now exactly where one of
the times it tries is; and in a zone whose gaps are bridged every schedule has one strictly after now exactly where
clocks have never shown a date later than today's. -/
theorem lt_nextOccurrence_iff_neverLater {z : Zone} (hz : z.Bounded) {now : Instant} (hnow : z.WellInside now) :
    (∀ s : Schedule, s.Recurs → (now < s.nextOccurrence z now ↔ s.StaysAhead z now)) ∧
    (z.Bridged → ((∀ s : Schedule, s.Recurs → now < s.nextOccurrence z now) ↔ z.NeverLater now)) := by
  refine ⟨fun s hs => lt_nextOccurrence_iff hs hnow, fun hb => ⟨fun h => ?_, fun h s hs => ?_⟩⟩
  · exact neverLater hz hnow fun s hs => (lt_nextOccurrence_iff hs hnow).1 (h s hs)
  · exact (lt_nextOccurrence_iff hs hnow).2 (staysAhead hs hnow hb h)

/-- Newfoundland in the autumn of 2006: a minute past midnight on 29 October clocks go back to 23:01. -/
def newfoundland : Zone := { base := -9000, transitions := [(1162089060, -12600)] }

theorem newfoundland_offsetAt (t : Int) : newfoundland.offsetAt t = if t < 1162089060 then -9000 else -12600 := by
  by_cases h : t < 1162089060
  · simp [newfoundland, Zone.offsetAt, h]
  · simp [newfoundland, Zone.offsetAt, h, not_lt.1 h]

theorem newfoundland_bridged : newfoundland.Bridged := by
  intro l hl
  have hin := hl.days
  have hdate : (Date.ofDays? l.date.days).isSome = true := by
    rw [ofDays?_eq_some (by omega) (by omega)]; rfl
  have hshows : ∃ u, newfoundland.Shows l u := by
    by_cases h : l.seconds + 9000 < 1162089060
    · refine ⟨l.seconds + 9000, ?_, ?_, hdate⟩
      · rw [newfoundland_offsetAt, if_pos h]; omega
      · rw [hasSecond_iff]
        simp only [LocalTime.date, daySeconds] at *
        omega
    · refine ⟨l.seconds + 12600, ?_, ?_, hdate⟩
      · rw [newfoundland_offsetAt, if_neg (by omega)]; omega
      · rw [hasSecond_iff]
        simp only [LocalTime.date, daySeconds] at *
        omega
  obtain ⟨u, hu⟩ := hshows
  obtain ⟨t, ht, -⟩ := hu.exists_firstShowing
  exact ⟨t, ht⟩

/-- A second before clocks go back, no clock has shown a later date, and every schedule has a time strictly ahead. -/
theorem before_clocks_go_back :
    newfoundland.NeverLater ⟨1162089059, 0⟩ ∧
    ∀ s : Schedule, s.Recurs → ⟨1162089059, 0⟩ < s.nextOccurrence newfoundland ⟨1162089059, 0⟩ := by
  have hbounded : newfoundland.Bounded := by decide
  have hinside : newfoundland.WellInside ⟨1162089059, 0⟩ := by decide
  have hnever : newfoundland.NeverLater ⟨1162089059, 0⟩ := by
    intro t ht
    have hle := Instant.seconds_mono ht
    simp only [Zone.localAt, newfoundland_offsetAt, LocalTime.date, daySeconds] at *
    split_ifs <;> omega
  exact ⟨hnever, ((lt_nextOccurrence_iff_neverLater hbounded hinside).2 newfoundland_bridged).2 hnever⟩

/-- At half past eleven in the evening that clocks show for the second time, a daily schedule answers the midnight
an hour before the next one, half an hour ago. -/
theorem midnight_is_over :
    newfoundland.Bounded ∧ newfoundland.WellInside ⟨1162090800, 0⟩ ∧ (daily none).Recurs ∧
    (daily none).nextOccurrence newfoundland ⟨1162090800, 0⟩ = ⟨1162089000, 0⟩ ∧
    ¬ ⟨1162090800, 0⟩ < (daily none).nextOccurrence newfoundland ⟨1162090800, 0⟩ := by
  have hnext : (daily none).nextOccurrence newfoundland ⟨1162090800, 0⟩ = ⟨1162089000, 0⟩ := by decide
  refine ⟨by decide, by decide, by decide, hnext, ?_⟩
  rw [hnext]
  exact not_lt.2 (by rw [Instant.le_iff]; decide)

end Schedule

end LivePage
