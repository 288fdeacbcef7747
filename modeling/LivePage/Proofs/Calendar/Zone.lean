import LivePage.Calendar.Zone
import LivePage.Proofs.Calendar.Date
import Mathlib.Data.Prod.Lex
/-!
# What clocks show

A zone's clocks show a local time at some instants: at none of them in a gap, at several where clocks go back.
`resolve?` looks at a local time and the quarter-hour steps after it, takes the first of them that is ever shown,
and answers the earliest instant that shows it; `resolve?_eq_some_iff` says so without the search.
-/
namespace LivePage

open Calendar

/-! ## Instants in order -/

namespace Instant

/-- Seconds first, then nanoseconds. -/
def key (t : Instant) : Int ×ₗ Nat := toLex (t.seconds, t.nanos)

theorem key_injective : Function.Injective key := by
  intro a b h
  cases a; cases b
  simpa [key] using h

instance : LinearOrder Instant := LinearOrder.lift' key key_injective

theorem lt_iff {a b : Instant} : a < b ↔ a.seconds < b.seconds ∨ (a.seconds = b.seconds ∧ a.nanos < b.nanos) :=
  Prod.Lex.lt_iff

theorem le_iff {a b : Instant} : a ≤ b ↔ a.seconds < b.seconds ∨ (a.seconds = b.seconds ∧ a.nanos ≤ b.nanos) :=
  Prod.Lex.le_iff

theorem before_iff {a b : Instant} : a.before b = true ↔ a < b := by
  simp [before, lt_iff]

theorem seconds_mono {a b : Instant} (h : a ≤ b) : a.seconds ≤ b.seconds := by
  rcases le_iff.1 h with h | h <;> omega

/-- Between whole seconds the order is that of the seconds. -/
theorem whole_le_iff {a b : Instant} (h : a.nanos = 0) : a ≤ b ↔ a.seconds ≤ b.seconds := by
  rw [le_iff]; omega

end Instant

/-! ## The reach of the calendar -/

namespace Calendar

theorem ofDays?_eq_some {n : Int} (h1 : minDay ≤ n) (h2 : n ≤ maxDay) : Date.ofDays? n = some ⟨n⟩ := by
  simp [Date.ofDays?, h1, h2]

/-- A year that the calendar has, with a year before and a year after it. -/
def YearInside (year : Int) : Prop := minYear + 1 ≤ year ∧ year ≤ maxYear - 1

/-- A date whose year is at least one year inside the calendar is at least four weeks inside. -/
theorem YearInside.days {d : Date} (h : YearInside d.year) : minDay + 28 ≤ d.days ∧ d.days + 28 ≤ maxDay := by
  obtain ⟨h1, h2⟩ := h
  have hm := d.civil_spec
  have hlow := monthStart_strictMono.monotone
    (show monthOf minYear 1 + 12 ≤ d.monthIndex by unfold Date.monthIndex monthOf; omega)
  have hhigh := monthStart_strictMono.monotone
    (show d.monthIndex + 1 ≤ monthOf (maxYear + 1) 1 - 12 by unfold Date.monthIndex monthOf; omega)
  have h3 : monthStart (monthOf minYear 1 + 12) = minDay + 365 := by decide
  have h4 : monthStart (monthOf (maxYear + 1) 1 - 12) + 364 = maxDay := by decide
  have := d.monthStart_le
  have := d.lt_monthStart
  omega

theorem hasSecond_iff {t : Int} : Zone.hasSecond t = true ↔ minDay ≤ t / daySeconds ∧ t / daySeconds ≤ maxDay := by
  unfold Zone.hasSecond Date.ofDays?
  split_ifs with h <;> simp [h]

end Calendar

/-! ## Local times -/

namespace LocalTime

def clock (l : LocalTime) : TimeOfDay := ⟨(l.seconds % daySeconds).toNat⟩

/-- The local time so many minutes later, whether or not the calendar has it. -/
def later (l : LocalTime) (minutes : Int) : LocalTime := ⟨l.seconds + 60 * minutes⟩

theorem later_zero (l : LocalTime) : l.later 0 = l := by simp [later]

theorem on_date_clock (l : LocalTime) : on l.date l.clock = l := by
  cases l
  simp only [on, date, clock, daySeconds, mk.injEq]
  omega

theorem date_on (d : Date) {c : TimeOfDay} (hc : c.seconds < 86400) : (on d c).date = d := by
  cases d
  simp only [on, date, daySeconds, Date.mk.injEq]
  omega

theorem clock_on (d : Date) {c : TimeOfDay} (hc : c.seconds < 86400) : (on d c).clock = c := by
  cases c
  simp only [on, clock, daySeconds, TimeOfDay.mk.injEq] at *
  omega

theorem date_mono {l m : LocalTime} (h : l.seconds ≤ m.seconds) : l.date.days ≤ m.date.days :=
  Int.ediv_le_ediv (by decide) h

end LocalTime

/-! ## Showing a local time -/

theorem findSome?_range_eq_some_iff {α : Type} {f : Nat → Option α} {n : Nat} {a : α} :
    (List.range n).findSome? f = some a ↔ ∃ k < n, f k = some a ∧ ∀ j < k, f j = none := by
  have hfirst {b : α} (h : (List.range n).findSome? f = some b) : ∃ k < n, f k = some b ∧ ∀ j < k, f j = none := by
    obtain ⟨before, k, after, hl, hk, hnone⟩ := List.findSome?_eq_some_iff.1 h
    have hget : (List.range n)[before.length]? = some k := by simp [hl]
    obtain ⟨hlt, rfl⟩ : before.length < n ∧ before.length = k := by
      obtain ⟨h1, h2⟩ := List.getElem?_eq_some_iff.1 hget
      exact ⟨by simpa using h1, by simpa using h2⟩
    refine ⟨before.length, hlt, hk, fun j hj => hnone j ?_⟩
    have hget : (List.range n)[j]? = some j := List.getElem?_range (by omega)
    rw [hl, List.getElem?_append_left hj] at hget
    exact List.mem_of_getElem? hget
  refine ⟨hfirst, ?_⟩
  rintro ⟨k, hk, hf, hnone⟩
  cases h : (List.range n).findSome? f with
  | none =>
    have := List.findSome?_eq_none_iff.1 h k (List.mem_range.2 hk)
    simp [hf] at this
  | some b =>
    obtain ⟨k', -, hf', hnone'⟩ := hfirst h
    rcases lt_trichotomy k k' with hlt | rfl | hlt
    · simp [hnone' k hlt] at hf
    · rw [← hf, hf']
    · simp [hnone k' hlt] at hf'

namespace Zone

/-- A local time that exists in the calendar is what the clocks show at a second that exists in it. -/
structure Shows (z : Zone) (l : LocalTime) (t : Int) : Prop where
  clocks : t + z.offsetAt t = l.seconds
  second : hasSecond t = true
  date : (Date.ofDays? l.date.days).isSome = true

/-- Whether the clocks show a year that is at least two years inside the calendar. -/
def WellInside (z : Zone) (now : Instant) : Prop :=
  minYear + 2 ≤ (z.localAt now).date.year ∧ (z.localAt now).date.year ≤ maxYear - 2

instance (z : Zone) (now : Instant) : Decidable (z.WellInside now) := inferInstanceAs (Decidable (_ ∧ _))

theorem WellInside.yearInside {z : Zone} {now : Instant} (h : z.WellInside now) {year : Int}
    (h1 : (z.localAt now).date.year ≤ year) (h2 : year ≤ (z.localAt now).date.year + 1) : YearInside year := by
  unfold YearInside
  have := h.1
  have := h.2
  omega

/-- No clock is a day or more ahead of or behind UTC. -/
def Bounded (z : Zone) : Prop := ∀ o ∈ z.offsets, -daySeconds < o ∧ o < daySeconds

theorem offsetAt_mem (z : Zone) (t : Int) : z.offsetAt t ∈ z.offsets := by
  unfold offsetAt offsets
  cases h : (z.transitions.filter (·.1 ≤ t)).getLast? with
  | none => simp
  | some p =>
    have hp := List.mem_of_mem_filter (List.mem_of_getLast? h)
    exact List.mem_cons_of_mem _ (List.mem_map_of_mem hp)

theorem mem_instants_iff {z : Zone} {l : LocalTime} {t : Int} :
    t ∈ z.instants l ↔ t + z.offsetAt t = l.seconds ∧ hasSecond t = true := by
  simp only [instants, List.mem_filter, List.mem_map, Bool.and_eq_true, beq_iff_eq]
  constructor
  · rintro ⟨-, h1, h2⟩
    exact ⟨by omega, h2⟩
  · rintro ⟨h1, h2⟩
    exact ⟨⟨z.offsetAt t, z.offsetAt_mem t, by omega⟩, by omega, h2⟩

theorem localAt_of_shows {z : Zone} {l : LocalTime} {t : Instant} (h : z.Shows l t.seconds) : z.localAt t = l := by
  cases l
  simpa [localAt] using h.clocks

theorem earliest?_eq_some_iff {z : Zone} {l : LocalTime} {t : Instant} (hl : (Date.ofDays? l.date.days).isSome = true) :
    z.earliest? l = some t ↔ t.nanos = 0 ∧ IsLeast {u | z.Shows l u} t.seconds := by
  have hmem (u : Int) : u ∈ z.instants l ↔ z.Shows l u :=
    mem_instants_iff.trans ⟨fun h => ⟨h.1, h.2, hl⟩, fun h => ⟨h.clocks, h.second⟩⟩
  unfold earliest?
  rw [Option.map_eq_some_iff]
  simp only [List.min?_eq_some_iff, hmem]
  constructor
  · rintro ⟨u, ⟨h1, h2⟩, rfl⟩
    exact ⟨rfl, h1, fun v hv => h2 v hv⟩
  · rintro ⟨h0, h1, h2⟩
    refine ⟨t.seconds, ⟨h1, fun v hv => h2 hv⟩, ?_⟩
    cases t
    simpa using h0.symm

theorem earliest?_eq_none_iff {z : Zone} {l : LocalTime} (hl : (Date.ofDays? l.date.days).isSome = true) :
    z.earliest? l = none ↔ ∀ u, ¬ z.Shows l u := by
  unfold earliest?
  rw [Option.map_eq_none_iff, List.min?_eq_none_iff, List.eq_nil_iff_forall_not_mem]
  refine forall_congr' fun u => not_congr (mem_instants_iff.trans ?_)
  exact ⟨fun h => ⟨h.1, h.2, hl⟩, fun h => ⟨h.clocks, h.second⟩⟩

theorem Shows.exists_isLeast {z : Zone} {l : LocalTime} {s : Int} (h : z.Shows l s) :
    ∃ t : Instant, t.nanos = 0 ∧ IsLeast {u | z.Shows l u} t.seconds := by
  cases hfound : z.earliest? l with
  | none => exact absurd h ((earliest?_eq_none_iff h.date).1 hfound s)
  | some t => exact ⟨t, (earliest?_eq_some_iff h.date).1 hfound⟩

/-! ## Resolving a local time -/

/-- The first showing of a local time: the earliest instant that shows the first of the quarter-hour steps from it,
up to a day later, that the clocks ever show. -/
def FirstShowing (z : Zone) (l : LocalTime) (t : Instant) : Prop :=
  t.nanos = 0 ∧ ∃ k < 97, (∀ j < k, ∀ u, ¬ z.Shows (l.later (15 * (j : Nat))) u) ∧
    IsLeast {u | z.Shows (l.later (15 * (k : Nat))) u} t.seconds

/-- One step of the search: it finds the earliest instant that shows the step, in the calendar or not at all. -/
theorem step_eq_some_iff {z : Zone} {l : LocalTime} {m : Int} {t : Instant} :
    (l.addMinutes? m).bind z.earliest? = some t ↔ t.nanos = 0 ∧ IsLeast {u | z.Shows (l.later m) u} t.seconds := by
  unfold LocalTime.addMinutes? LocalTime.exists?
  cases h : Date.ofDays? (LocalTime.date ⟨l.seconds + 60 * m⟩).days with
  | some d => exact earliest?_eq_some_iff (l := l.later m) (by simp [LocalTime.later, h])
  | none =>
    have hno (u : Int) : ¬ z.Shows (l.later m) u := fun hu => by simpa [LocalTime.later, h] using hu.date
    simp only [Option.map_none, Option.bind_none, reduceCtorEq, false_iff]
    exact fun ht => hno _ ht.2.1

theorem step_eq_none_iff {z : Zone} {l : LocalTime} {m : Int} :
    (l.addMinutes? m).bind z.earliest? = none ↔ ∀ u, ¬ z.Shows (l.later m) u := by
  unfold LocalTime.addMinutes? LocalTime.exists?
  cases h : Date.ofDays? (LocalTime.date ⟨l.seconds + 60 * m⟩).days with
  | some d => exact earliest?_eq_none_iff (l := l.later m) (by simp [LocalTime.later, h])
  | none => exact ⟨fun _ u hu => by simpa [LocalTime.later, h] using hu.date, fun _ => rfl⟩

theorem resolve?_eq_some_iff {z : Zone} {l : LocalTime} {t : Instant} :
    z.resolve? l = some t ↔ z.FirstShowing l t := by
  simp only [resolve?, findSome?_range_eq_some_iff, step_eq_some_iff, step_eq_none_iff, FirstShowing]
  constructor
  · rintro ⟨k, hk, ⟨h0, h1⟩, h2⟩
    exact ⟨h0, k, hk, h2, h1⟩
  · rintro ⟨h0, k, hk, h2, h1⟩
    exact ⟨k, hk, ⟨h0, h1⟩, h2⟩

/-- What the clocks show at the first showing of a local time is that time or a later one. -/
theorem FirstShowing.le {z : Zone} {l : LocalTime} {t : Instant} (h : z.FirstShowing l t) :
    l.seconds ≤ (z.localAt t).seconds := by
  obtain ⟨-, k, -, -, hk, -⟩ := h
  rw [localAt_of_shows hk]
  simp only [LocalTime.later]
  omega

theorem FirstShowing.date_le {z : Zone} {d : Date} {c : TimeOfDay} {t : Instant} (hc : c.seconds < 86400)
    (h : z.FirstShowing (.on d c) t) : d.days ≤ (z.localAt t).date.days := by
  have := LocalTime.date_mono h.le
  rwa [LocalTime.date_on d hc] at this

/-- A local time that the clocks show is shown first by the earliest instant that shows it. -/
theorem FirstShowing.of_isLeast {z : Zone} {l : LocalTime} {t : Instant} (h0 : t.nanos = 0)
    (h : IsLeast {u | z.Shows l u} t.seconds) : z.FirstShowing l t :=
  ⟨h0, 0, by omega, by omega, by simpa [LocalTime.later_zero] using h⟩

end Zone

end LivePage
