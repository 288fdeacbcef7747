import LivePage.Proofs.Schedule.Dates
import Mathlib.Order.Bounds.Basic
import Mathlib.Logic.Function.Iterate
/-!
# Firing times at a fixed offset

Where clocks are never changed, the next occurrence is the least firing time after now, so evaluating again and
again lists the firing times in order, none left out and none twice.
-/
namespace LivePage

open Calendar

namespace Zone

def fixed (offset : Int) : Zone := { base := offset }

@[simp] theorem localAt_fixed (offset : Int) (t : Instant) : (fixed offset).localAt t = ⟨t.seconds + offset⟩ := rfl

theorem resolve?_fixed {offset : Int} (ho : -daySeconds < offset ∧ offset < daySeconds) {d : Date}
    (hd : YearInside d.year) {c : TimeOfDay} (hc : c.seconds < 86400) :
    (fixed offset).resolve? (.on d c) = some ⟨(LocalTime.on d c).seconds - offset, 0⟩ := by
  have hin := hd.days
  have hshows (u : Int) (hu : (fixed offset).Shows (.on d c) u) : u = (LocalTime.on d c).seconds - offset := by
    have : u + offset = (LocalTime.on d c).seconds := hu.clocks
    omega
  refine resolve?_eq_some_iff.2 (.of_isLeast rfl ⟨⟨?_, ?_, ?_⟩, fun u hu => (hshows u hu).ge⟩)
  · show (LocalTime.on d c).seconds - offset + offset = _
    omega
  · simp only [hasSecond_iff, LocalTime.on, daySeconds] at *
    omega
  · rw [LocalTime.date_on d hc, ofDays?_eq_some (by omega) (by omega)]
    rfl

end Zone

namespace Schedule

/-- An instant at which a schedule fires: its time of day, to the nanosecond, on a date that it names. -/
structure Fires (s : Schedule) (z : Zone) (t : Instant) : Prop where
  whole : t.nanos = 0
  clock : (z.localAt t).clock = s.clock
  date : s.OnDate (z.localAt t).date

section
variable {offset : Int} {s : Schedule} {now : Instant} {d : Date}

/-- The instant at which clocks at a fixed offset show the time of a schedule on a date. -/
def instantOn (s : Schedule) (offset : Int) (d : Date) : Instant := ⟨(LocalTime.on d s.clock).seconds - offset, 0⟩

theorem localAt_instantOn (s : Schedule) (offset : Int) (d : Date) :
    (Zone.fixed offset).localAt (s.instantOn offset d) = .on d s.clock := by
  simp [instantOn]

theorem fires_iff (hc : s.clock.seconds < 86400) {t : Instant} :
    s.Fires (.fixed offset) t ↔ ∃ d, s.OnDate d ∧ t = s.instantOn offset d := by
  constructor
  · rintro ⟨h0, hclock, hdate⟩
    refine ⟨_, hdate, ?_⟩
    rw [instantOn, ← hclock, LocalTime.on_date_clock]
    cases t
    simp only [Zone.localAt_fixed, Instant.mk.injEq] at *
    exact ⟨by omega, h0⟩
  · rintro ⟨d, hd, rfl⟩
    refine ⟨rfl, ?_, ?_⟩
    · rw [localAt_instantOn, LocalTime.clock_on d hc]
    · rw [localAt_instantOn, LocalTime.date_on d hc]; exact hd

theorem instantOn_mono {e : Date} :
    s.instantOn offset d ≤ s.instantOn offset e ↔ d.days ≤ e.days := by
  rw [Instant.whole_le_iff rfl]
  simp only [instantOn, LocalTime.on, daySeconds]
  omega

/-- A date whose firing time is still ahead is today or later. -/
theorem today_le (hc : s.clock.seconds < 86400) (h : now < s.instantOn offset d) :
    ((Zone.fixed offset).localAt now).date.days ≤ d.days := by
  have hlocal := LocalTime.date_mono (l := (Zone.fixed offset).localAt now) (m := .on d s.clock) (by
    have := Instant.seconds_mono h.le
    simp only [instantOn, Zone.localAt_fixed] at *
    omega)
  rwa [LocalTime.date_on d hc] at hlocal

theorem now_lt (h : ((Zone.fixed offset).localAt now).date.days < d.days) : now < s.instantOn offset d := by
  rw [Instant.lt_iff]
  simp only [Zone.localAt_fixed, LocalTime.date, instantOn, LocalTime.on, daySeconds] at *
  omega

/-- The firing time of the first named date whose time is ahead is the least one. -/
theorem isLeast_instantOn (hc : s.clock.seconds < 86400) (hd : s.OnDate d) (hnow : now < s.instantOn offset d)
    (hleast : ∀ e, s.OnDate e → now < s.instantOn offset e → d.days ≤ e.days) :
    IsLeast {t | now < t ∧ s.Fires (.fixed offset) t} (s.instantOn offset d) := by
  refine ⟨⟨hnow, (fires_iff hc).2 ⟨d, hd, rfl⟩⟩, ?_⟩
  rintro t ⟨ht, hfires⟩
  obtain ⟨e, he, rfl⟩ := (fires_iff hc).1 hfires
  exact instantOn_mono.2 (hleast e he ht)

end

section
variable {offset : Int} (ho : -daySeconds < offset ∧ offset < daySeconds) {s : Schedule} (hs : s.Recurs) {now : Instant}
include ho hs

/-- Of the two dates tried, the first one that is ahead has the least firing time. -/
theorem nextDated?_isLeast (hweekly : ¬ s.IsWeekly) (hnow : (Zone.fixed offset).WellInside now) :
    ∃ t, s.next? (.fixed offset) now = some t ∧ IsLeast {t | now < t ∧ s.Fires (.fixed offset) t} t := by
  have hc := hs.1
  rw [next?_eq hs hweekly _ hnow]
  have ht := tries hs hweekly ((Zone.fixed offset).localAt now).date
  obtain ⟨h1, h2⟩ := year_tried hs hweekly ((Zone.fixed offset).localAt now).date
  have hr1 := Zone.resolve?_fixed ho (hnow.yearInside h1.1 h1.2) hc
  have hr2 := Zone.resolve?_fixed ho (hnow.yearInside h2.1 h2.2) hc
  generalize s.firstDate ((Zone.fixed offset).localAt now).date = first at *
  generalize s.secondDate ((Zone.fixed offset).localAt now).date = second at *
  change _ = some (s.instantOn offset first) at hr1
  change _ = some (s.instantOn offset second) at hr2
  simp only [nextDated?, Option.bind_eq_bind, Option.bind_some, hr1, hr2, Instant.before_iff]
  by_cases hfirst : now < s.instantOn offset first
  · refine ⟨_, if_pos hfirst, isLeast_instantOn hc ht.onFirst hfirst fun e he hnow => ?_⟩
    rcases ht.between e he with h | rfl | h
    · have := today_le hc hnow; omega
    · exact le_rfl
    · exact ht.ordered.le.trans h
  · refine ⟨_, if_neg hfirst, isLeast_instantOn hc ht.onSecond (now_lt ht.later) fun e he hnow => ?_⟩
    rcases ht.between e he with h | rfl | h
    · have := today_le hc hnow; omega
    · exact absurd hnow hfirst
    · exact h

/-- The first listed day among today and the seven days after that is ahead has the least firing time. -/
theorem nextWeekly?_isLeast {days : List Weekday} {c : Option TimeOfDay} (hweekly : s = weekly days c)
    (hnow : (Zone.fixed offset).WellInside now) :
    ∃ t, nextWeekly? (.fixed offset) now days s.clock = some t ∧
      IsLeast {t | now < t ∧ s.Fires (.fixed offset) t} t := by
  have hc := hs.1
  have hlisted (d : Date) : s.OnDate d ↔ d.weekday ∈ days := by rw [hweekly]; exact Iff.rfl
  have hahead (k : Nat) (hk : k < 8) (t : Instant) :
      ListedAhead (.fixed offset) now days s.clock k t ↔
      s.OnDate ⟨((Zone.fixed offset).localAt now).date.days + k⟩ ∧ now < t ∧
        t = s.instantOn offset ⟨((Zone.fixed offset).localAt now).date.days + k⟩ := by
    have hyear := hnow.yearInside (Date.year_mono (by simp))
      (Date.year_le_succ (e := ⟨((Zone.fixed offset).localAt now).date.days + k⟩) (by simp only; omega))
    rw [ListedAhead, hlisted, ← Zone.resolve?_eq_some_iff, Zone.resolve?_fixed ho hyear hc, Option.some.injEq]
    exact and_congr_right fun _ => ⟨fun h => ⟨h.2, h.1.symm⟩, fun h => ⟨h.2.symm, h.1⟩⟩
  obtain ⟨w, hw⟩ := List.exists_mem_of_ne_nil days (by have := hs.2; rw [hweekly] at this; exact this)
  obtain ⟨n, hn1, hn7, hnw⟩ := exists_weekday ((Zone.fixed offset).localAt now).date w
  -- Some day of the week is listed, and from tomorrow on its time is ahead.
  obtain ⟨t, hfind⟩ := nextWeekly?_eq_some hnow (c := s.clock)
    ⟨n, by omega, _, (hahead n (by omega) _).2 ⟨(hlisted _).2 (hnw ▸ hw), now_lt (by simp only; omega), rfl⟩⟩
  obtain ⟨k, hk, ht, hbefore⟩ := (nextWeekly?_eq_some_iff hnow).1 hfind
  refine ⟨t, hfind, ?_⟩
  obtain ⟨hon, hlt, rfl⟩ := (hahead _ hk t).1 ht
  refine isLeast_instantOn hc hon hlt fun e he hlt => ?_
  have hle := today_le hc hlt
  obtain ⟨j, rfl⟩ : ∃ j : Nat, e = ⟨((Zone.fixed offset).localAt now).date.days + j⟩ :=
    ⟨(e.days - ((Zone.fixed offset).localAt now).date.days).toNat, by cases e; simp only [Date.mk.injEq] at *; omega⟩
  by_contra hj
  simp only [not_le] at hj
  exact hbefore j (by omega) _ ((hahead j (by omega) _).2 ⟨he, hlt, rfl⟩)

/-- The next occurrence is the least firing time after now. -/
theorem nextOccurrence_isLeast (hnow : (Zone.fixed offset).WellInside now) :
    IsLeast {t | now < t ∧ s.Fires (.fixed offset) t} (s.nextOccurrence (.fixed offset) now) := by
  have hfound : ∃ t, s.next? (.fixed offset) now = some t ∧
      IsLeast {t | now < t ∧ s.Fires (.fixed offset) t} t := by
    cases s with
    | weekly days c => exact nextWeekly?_isLeast ho hs rfl hnow
    | _ => exact nextDated?_isLeast ho hs id hnow
  obtain ⟨t, ht, hleast⟩ := hfound
  rwa [nextOccurrence, ht]

/-! ## Evaluating again and again -/

/-- One more evaluation: the firing times up to the last one are the next one and those after it. -/
theorem nextOccurrences_firings (n : Nat) {now : Instant}
    (hnow : ∀ k < n, (Zone.fixed offset).WellInside ((s.nextOccurrence (.fixed offset))^[k] now)) :
    now ≤ (s.nextOccurrence (.fixed offset))^[n] now ∧
    (s.nextOccurrences (.fixed offset) n now).Pairwise (· < ·) ∧
    ∀ t, t ∈ s.nextOccurrences (.fixed offset) n now ↔
      now < t ∧ t ≤ (s.nextOccurrence (.fixed offset))^[n] now ∧ s.Fires (.fixed offset) t := by
  induction n generalizing now with
  | zero =>
    refine ⟨le_rfl, List.Pairwise.nil, fun t => ?_⟩
    simp only [nextOccurrences, List.not_mem_nil, Function.iterate_zero_apply, false_iff]
    exact fun h => absurd h.1 (not_lt.2 h.2.1)
  | succ n ih =>
    obtain ⟨⟨hlt, hfires⟩, hleast⟩ := nextOccurrence_isLeast ho hs (hnow 0 (by omega))
    simp only [Function.iterate_zero_apply] at hlt hfires hleast
    have hlater (k : Nat) (hk : k < n) :
        (Zone.fixed offset).WellInside ((s.nextOccurrence (.fixed offset))^[k] (s.nextOccurrence (.fixed offset) now)) := by
      have := hnow (k + 1) (by omega)
      rwa [Function.iterate_succ_apply] at this
    obtain ⟨hle, hsorted, hmem⟩ := ih hlater
    -- A firing time after now is the next one, or comes after it.
    simp only [nextOccurrences, Function.iterate_succ_apply]
    refine ⟨hlt.le.trans hle, ?_, fun t => ?_⟩
    · exact List.pairwise_cons.2 ⟨fun t ht => ((hmem t).1 ht).1, hsorted⟩
    · rw [List.mem_cons, hmem]
      constructor
      · rintro (rfl | ⟨h1, h2, h3⟩)
        · exact ⟨hlt, hle, hfires⟩
        · exact ⟨hlt.trans h1, h2, h3⟩
      · rintro ⟨h1, h2, h3⟩
        rcases (hleast ⟨h1, h3⟩).eq_or_lt with heq | hlt'
        · exact Or.inl heq.symm
        · exact Or.inr ⟨hlt', h2, h3⟩

end

theorem nextOccurrences_eq_map (s : Schedule) (z : Zone) (n : Nat) (now : Instant) :
    s.nextOccurrences z n now = (List.range n).map fun k => (s.nextOccurrence z)^[k + 1] now := by
  induction n generalizing now with
  | zero => rfl
  | succ n ih =>
    rw [nextOccurrences, ih, List.range_succ_eq_map, List.map_cons, List.map_map]
    rfl

/-- **At a fixed offset evaluations list the firing times.** The next occurrence is the least firing time after now,
and the first `n` evaluations are, in ascending order, all the firing times up to the last of them. -/
theorem nextOccurrences_are_firings {offset : Int} (ho : -daySeconds < offset ∧ offset < daySeconds) {s : Schedule}
    (hs : s.Recurs) {now : Instant} (hnow : (Zone.fixed offset).WellInside now) :
    IsLeast {t | now < t ∧ s.Fires (.fixed offset) t} (s.nextOccurrence (.fixed offset) now) ∧
    ∀ n, (∀ k < n, (Zone.fixed offset).WellInside ((s.nextOccurrence (.fixed offset))^[k] now)) →
      ((List.range n).map fun k => (s.nextOccurrence (.fixed offset))^[k + 1] now).Pairwise (· < ·) ∧
      ∀ t, (∃ k < n, (s.nextOccurrence (.fixed offset))^[k + 1] now = t) ↔
        now < t ∧ t ≤ (s.nextOccurrence (.fixed offset))^[n] now ∧ s.Fires (.fixed offset) t := by
  refine ⟨nextOccurrence_isLeast ho hs hnow, fun n hn => ?_⟩
  obtain ⟨-, hsorted, hmem⟩ := nextOccurrences_firings ho hs n hn
  rw [nextOccurrences_eq_map] at hsorted hmem
  refine ⟨hsorted, fun t => ?_⟩
  rw [← hmem t, List.mem_map]
  simp only [List.mem_range]

/-- A nanosecond into 28 February 2023, five and a half hours ahead of UTC: the leap day of 2024 comes next, and then
28 February 2025. -/
theorem leap_days_after_2023 :
    IsLeast {t | ⟨1677522600, 1⟩ < t ∧ (yearly 2 29 none).Fires (.fixed 19800) t} ⟨1709145000, 0⟩ ∧
    ∀ t, (t = ⟨1709145000, 0⟩ ∨ t = ⟨1740681000, 0⟩) ↔
      ⟨1677522600, 1⟩ < t ∧ t ≤ ⟨1740681000, 0⟩ ∧ (yearly 2 29 none).Fires (.fixed 19800) t := by
  have hzone : -daySeconds < (19800 : Int) ∧ (19800 : Int) < daySeconds := by decide
  have hrecurs : (yearly 2 29 none).Recurs := by decide
  have hinside : (Zone.fixed 19800).WellInside ⟨1677522600, 1⟩ := by decide
  obtain ⟨hleast, hall⟩ := nextOccurrences_are_firings hzone hrecurs hinside
  have hfirst : (yearly 2 29 none).nextOccurrence (.fixed 19800) ⟨1677522600, 1⟩ = ⟨1709145000, 0⟩ := by decide
  have hsecond : (yearly 2 29 none).nextOccurrence (.fixed 19800) ⟨1709145000, 0⟩ = ⟨1740681000, 0⟩ := by decide
  refine ⟨hfirst ▸ hleast, fun t => ?_⟩
  have hmem := (hall 2 (by decide)).2 t
  have htwo : ((yearly 2 29 none).nextOccurrence (.fixed 19800))^[2] ⟨1677522600, 1⟩ = ⟨1740681000, 0⟩ := by
    rw [Function.iterate_succ_apply, Function.iterate_one, hfirst, hsecond]
  rw [htwo] at hmem
  rw [← hmem]
  constructor
  · rintro (rfl | rfl)
    · exact ⟨0, by decide, hfirst⟩
    · exact ⟨1, by decide, htwo⟩
  · rintro ⟨k, hk, rfl⟩
    interval_cases k
    · exact Or.inl hfirst
    · exact Or.inr htwo

end Schedule

end LivePage
