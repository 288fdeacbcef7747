import LivePage.Proofs.Calendar.Zone
import LivePage.Schedule.Occurrence
/-!
# The dates of a schedule

Which dates a recurring schedule names, and which of them an evaluation tries: today and tomorrow, this month's
date and the next month's, this year's and the next year's, or the listed days of a week. No named date from today
on lies between the ones tried.
-/
namespace LivePage

open Calendar

/-- The day of a month with a number, or the month's last day. -/
def clampedDay (i : Int) (day : Nat) : Date := ⟨monthStart i + (min day (monthDays i) : Nat) - 1⟩

namespace Schedule

/-- The time of day at which a schedule fires; midnight where it is left out. -/
def clock : Schedule → TimeOfDay
  | time c => c
  | daily c | weekly _ c | monthly _ c | yearly _ _ c => c.getD .midnight
  | _ => .midnight

/-- Whether a recurring schedule or a bare time names a date. -/
def OnDate : Schedule → Date → Prop
  | time _, _ | daily _, _ => True
  | weekly days _, d => d.weekday ∈ days
  | monthly day _, d => d.day = min day (monthLength d.year d.month)
  | yearly month day _, d => d.month = month ∧ d.day = min day (monthLength d.year d.month)
  | _, _ => False

/-- A recurring schedule or a bare time, with numbers that a token can have. -/
def Recurs (s : Schedule) : Prop :=
  s.clock.seconds < 86400 ∧
    match s with
    | time _ | daily _ => True
    | weekly days _ => days ≠ []
    | monthly day _ => 1 ≤ day ∧ day ≤ 31
    | yearly month day _ => 1 ≤ month ∧ month ≤ 12 ∧ 1 ≤ day ∧ day ≤ 31
    | _ => False

instance : DecidablePred Recurs := fun s => by cases s <;> exact inferInstanceAs (Decidable (_ ∧ _))

/-- Whether a schedule names days of the week. -/
def IsWeekly : Schedule → Prop
  | weekly _ _ => True
  | _ => False

/-- The first date that an evaluation tries: today, or the named date in this month or year. -/
def firstDate (s : Schedule) (today : Date) : Date :=
  match s with
  | monthly day _ => clampedDay today.monthIndex day
  | yearly month day _ => clampedDay (monthOf today.year month) day
  | _ => today

/-- The date that is tried when the time on the first one has passed. -/
def secondDate (s : Schedule) (today : Date) : Date :=
  match s with
  | monthly day _ => clampedDay (today.monthIndex + 1) day
  | yearly month day _ => clampedDay (monthOf (today.year + 1) month) day
  | _ => ⟨today.days + 1⟩

/-- What an evaluation tries: a named date, and a later one after today with no other named date between. -/
structure Tries (s : Schedule) (today first second : Date) : Prop where
  onFirst : s.OnDate first
  onSecond : s.OnDate second
  ordered : first.days < second.days
  later : today.days < second.days
  between : ∀ d, s.OnDate d → d.days < today.days ∨ d = first ∨ second.days ≤ d.days

end Schedule

/-! ## Days of the month -/

section
variable {i j : Int} {day : Nat}

theorem monthIndex_clampedDay (h : 1 ≤ day) : (clampedDay i day).monthIndex = i := by
  have := monthDays_le i
  apply Date.monthIndex_eq <;> simp only [clampedDay, monthStart_succ] <;> omega

theorem year_clampedDay {year : Int} {month : Nat} (h1 : 1 ≤ month) (h2 : month ≤ 12) (hday : 1 ≤ day) :
    (clampedDay (monthOf year month) day).year = year := by
  have hi := monthIndex_clampedDay (i := monthOf year month) hday
  have hd := (clampedDay (monthOf year month) day).civil_spec
  generalize clampedDay (monthOf year month) day = d at *
  unfold Date.monthIndex monthOf at hi
  omega

theorem clampedDay_lt (h : 1 ≤ day) (hij : i < j) : (clampedDay i day).days < (clampedDay j day).days := by
  have hmono := monthStart_strictMono.monotone (show i + 1 ≤ j by omega)
  have h1 := monthIndex_clampedDay (i := i) h ▸ (clampedDay i day).lt_monthStart
  have h2 := monthIndex_clampedDay (i := j) h ▸ (clampedDay j day).monthStart_le
  omega

theorem day_eq_min_iff (d : Date) :
    d.day = min day (monthLength d.year d.month) ↔ d = clampedDay d.monthIndex day := by
  obtain ⟨h1, h2, h3, h4, h5⟩ := d.civil_spec
  have hlen : monthDays d.monthIndex = monthLength d.year d.month := monthDays_monthOf h1 h2
  have hd : d = clampedDay d.monthIndex day ↔ d.days = (clampedDay d.monthIndex day).days :=
    ⟨fun h => congrArg Date.days h, fun h => by cases d; simpa [clampedDay] using h⟩
  rw [hd, h5, ← hlen]
  simp only [clampedDay]
  omega

theorem clampedDate?_eq {year : Int} {month : Nat} (h1 : 1 ≤ month) (h2 : month ≤ 12) (hday : 1 ≤ day)
    (hmin : minYear ≤ year) (hmax : year < maxYear) :
    clampedDate? year month day = some (clampedDay (monthOf year month) day) := by
  have hlen : monthDays (monthOf year month) = monthLength year month := monthDays_monthOf h1 h2
  have hpos := monthDays_le (monthOf year month)
  have hyes : ¬ (monthLength year month = 0 ∨ (month = 12 ∧ year = maxYear)) := by omega
  have hreal : minYear ≤ year ∧ year ≤ maxYear ∧ 1 ≤ min day (monthLength year month) ∧
      min day (monthLength year month) ≤ monthLength year month := by omega
  rw [clampedDate?, if_neg hyes, Date.ofCivil?, if_pos hreal, dayNumber_eq h1 h2, ← hlen, clampedDay]

end

/-! ## Days of the week -/

theorem Weekday.ofMonday_fromMonday (w : Weekday) : ofMonday w.fromMonday = w := by cases w <;> rfl

theorem Weekday.fromMonday_ofMonday {n : Nat} (h : n < 7) : (ofMonday n).fromMonday = n := by
  interval_cases n <;> rfl

theorem Date.weekday_eq_iff {d e : Date} : d.weekday = e.weekday ↔ d.days % 7 = e.days % 7 := by
  have hfrom (d : Date) : d.weekday.fromMonday = ((d.days + 3) % 7).toNat := Weekday.fromMonday_ofMonday (by omega)
  constructor
  · intro h
    have := congrArg Weekday.fromMonday h
    rw [hfrom, hfrom] at this
    omega
  · intro h
    rw [weekday, weekday, show (d.days + 3) % 7 = (e.days + 3) % 7 by omega]

/-- Every day of the week comes once among the next seven days. -/
theorem exists_weekday (today : Date) (w : Weekday) :
    ∃ k : Nat, 1 ≤ k ∧ k ≤ 7 ∧ (Date.mk (today.days + k)).weekday = w := by
  have hw : w.fromMonday < 7 := by cases w <;> decide
  refine ⟨((w.fromMonday - today.days - 4) % 7).toNat + 1, by omega, by omega, ?_⟩
  have h : ((today.days + ((((w.fromMonday - today.days - 4) % 7).toNat + 1 : Nat) : Int) + 3) % 7).toNat =
      w.fromMonday := by omega
  rw [Date.weekday, h, Weekday.ofMonday_fromMonday]

/-! ## What is tried -/

namespace Schedule

theorem tries_daily {s : Schedule} (h : ∀ d, s.OnDate d) (today : Date) : s.Tries today today ⟨today.days + 1⟩ where
  onFirst := h today
  onSecond := h _
  ordered := by simp
  later := by simp
  between d _ := by
    rcases lt_trichotomy d.days today.days with hlt | heq | hgt
    · exact Or.inl hlt
    · exact Or.inr (Or.inl (by cases d; cases today; simpa using heq))
    · exact Or.inr (Or.inr (by simp only; omega))

/-- Dates clamped into every `step`-th month, for a schedule that names just these: the one in today's stretch of
months and the next one. -/
theorem tries_clamped {s : Schedule} {today : Date} {i step : Int} {day : Nat} (hday : 1 ≤ day)
    (hon : ∀ d, s.OnDate d ↔ ∃ k : Int, d = clampedDay (i + step * k) day) (hstep : 0 < step)
    (hlow : monthStart (i + step) > today.days)
    (hearlier : ∀ k < 0, (clampedDay (i + step * k) day).days < today.days) :
    s.Tries today (clampedDay i day) (clampedDay (i + step) day) where
  onFirst := (hon _).2 ⟨0, by simp⟩
  onSecond := (hon _).2 ⟨1, by simp⟩
  ordered := clampedDay_lt hday (by omega)
  later := by
    have h := (clampedDay (i + step) day).monthStart_le
    rw [monthIndex_clampedDay hday] at h
    omega
  between d hd := by
    obtain ⟨k, rfl⟩ := (hon d).1 hd
    rcases lt_trichotomy k 0 with hk | rfl | hk
    · exact Or.inl (hearlier k hk)
    · exact Or.inr (Or.inl (by simp))
    · refine Or.inr (Or.inr ?_)
      rcases (show k = 1 ∨ 1 < k by omega) with rfl | hk
      · simp
      · have hlt : step * 1 < step * k := mul_lt_mul_of_pos_left hk hstep
        exact (clampedDay_lt hday (show i + step < i + step * k by omega)).le

theorem clampedDay_before {i : Int} {day : Nat} {today : Date} (hday : 1 ≤ day) (h : i < today.monthIndex) :
    (clampedDay i day).days < today.days := by
  have h1 := monthIndex_clampedDay (i := i) hday ▸ (clampedDay i day).lt_monthStart
  have h2 := monthStart_strictMono.monotone (show i + 1 ≤ today.monthIndex by omega)
  have := today.monthStart_le
  omega

theorem tries_monthly {day : Nat} (hday : 1 ≤ day) (clock : Option TimeOfDay) (today : Date) :
    (monthly day clock).Tries today (clampedDay today.monthIndex day) (clampedDay (today.monthIndex + 1) day) := by
  refine tries_clamped hday (fun d => ?_) (by omega) today.lt_monthStart fun k hk => ?_
  · simp only [OnDate, day_eq_min_iff]
    constructor
    · intro h
      exact ⟨d.monthIndex - today.monthIndex, by rw [one_mul, add_sub_cancel]; exact h⟩
    · rintro ⟨k, rfl⟩
      rw [monthIndex_clampedDay hday]
  · exact clampedDay_before hday (by omega)

theorem tries_yearly {month day : Nat} (h1 : 1 ≤ month) (h2 : month ≤ 12) (hday : 1 ≤ day)
    (clock : Option TimeOfDay) (today : Date) :
    (yearly month day clock).Tries today (clampedDay (monthOf today.year month) day)
      (clampedDay (monthOf (today.year + 1) month) day) := by
  have hnext : monthOf (today.year + 1) month = monthOf today.year month + 12 := by unfold monthOf; omega
  have htoday := today.civil_spec
  rw [hnext]
  refine tries_clamped hday (fun d => ?_) (by omega) ?_ fun k hk => ?_
  · have hd := d.civil_spec
    simp only [OnDate, day_eq_min_iff]
    constructor
    · rintro ⟨hm, h⟩
      refine ⟨d.year - today.year, ?_⟩
      have hi : d.monthIndex = monthOf today.year month + 12 * (d.year - today.year) := by
        rw [Date.monthIndex, hm]; unfold monthOf; omega
      rw [← hi]; exact h
    · rintro ⟨k, hk⟩
      have hi : d.monthIndex = monthOf today.year month + 12 * k := by rw [hk, monthIndex_clampedDay hday]
      refine ⟨?_, by rw [hi]; exact hk⟩
      unfold Date.monthIndex monthOf at hi
      omega
  · have h := monthStart_strictMono.monotone
      (show today.monthIndex + 1 ≤ monthOf today.year month + 12 by unfold Date.monthIndex monthOf; omega)
    exact lt_of_lt_of_le today.lt_monthStart h
  · exact clampedDay_before hday (by unfold Date.monthIndex monthOf; omega)

section
variable {s : Schedule} (hs : s.Recurs) (hweekly : ¬ s.IsWeekly)
include hs hweekly

theorem tries (today : Date) : s.Tries today (s.firstDate today) (s.secondDate today) := by
  cases s with
  | daily c => exact tries_daily (s := daily c) (fun _ => trivial) today
  | time c => exact tries_daily (s := time c) (fun _ => trivial) today
  | monthly day c => exact tries_monthly hs.2.1 c today
  | yearly month day c => exact tries_yearly hs.2.1 hs.2.2.1 hs.2.2.2.1 c today
  | weekly days c => exact absurd trivial hweekly
  | relative _ | weekday _ | date _ | offset _ => exact absurd hs.2 id

/-- What is tried lies in this year or the next one. -/
theorem year_tried (today : Date) :
    (today.year ≤ (s.firstDate today).year ∧ (s.firstDate today).year ≤ today.year + 1) ∧
    (today.year ≤ (s.secondDate today).year ∧ (s.secondDate today).year ≤ today.year + 1) := by
  have htomorrow : today.year ≤ (Date.mk (today.days + 1)).year ∧ (Date.mk (today.days + 1)).year ≤ today.year + 1 :=
    ⟨Date.year_mono (by simp), Date.year_le_succ (by simp)⟩
  cases s with
  | daily c => exact ⟨by simp [firstDate], htomorrow⟩
  | time c => exact ⟨by simp [firstDate], htomorrow⟩
  | monthly day c =>
    have hday := hs.2.1
    obtain ⟨hm1, hm2, -⟩ := today.civil_spec
    obtain ⟨year, month, hn1, hn2, hnext⟩ := exists_monthOf (today.monthIndex + 1)
    have hyear : today.year ≤ year ∧ year ≤ today.year + 1 := by
      unfold Date.monthIndex monthOf at hnext; omega
    simp only [firstDate, secondDate, hnext, year_clampedDay hn1 hn2 hday]
    rw [Date.monthIndex, year_clampedDay hm1 hm2 hday]
    omega
  | yearly month day c =>
    obtain ⟨-, hm1, hm2, hday, -⟩ := hs
    simp only [firstDate, secondDate, year_clampedDay hm1 hm2 hday]
    omega
  | weekly days c => exact absurd trivial hweekly
  | relative _ | weekday _ | date _ | offset _ => exact absurd hs.2 id

/-- Well inside the calendar, an evaluation tries these two dates and no others. -/
theorem next?_eq (z : Zone) {now : Instant} (hnow : z.WellInside now) :
    s.next? z now = nextDated? z now s.clock (some (s.firstDate (z.localAt now).date))
      (some (s.secondDate (z.localAt now).date)) := by
  have hin := (hnow.yearInside le_rfl (by omega)).days
  obtain ⟨h1, h2⟩ := hnow
  generalize htoday : (z.localAt now).date = today at h1 h2 hin ⊢
  have hadd : today.addDays? 1 = some ⟨today.days + 1⟩ := ofDays?_eq_some (by omega) (by omega)
  obtain ⟨hm1, hm2, -⟩ := today.civil_spec
  cases s with
  | daily c =>
    simp only [next?, nextDaily?, nextDated?, htoday, hadd, clock, firstDate, secondDate]
    rfl
  | time c =>
    simp only [next?, nextDaily?, nextDated?, htoday, hadd, clock, firstDate, secondDate]
    rfl
  | monthly day c =>
    have hday := hs.2.1
    have hsecond : (if today.month = 12 then clampedDate? (today.year + 1) 1 day
        else clampedDate? today.year (today.month + 1) day) = some (clampedDay (today.monthIndex + 1) day) := by
      split_ifs with h
      · rw [clampedDate?_eq (by omega) (by omega) hday (by omega) (by omega)]
        congr 2; unfold Date.monthIndex monthOf; omega
      · rw [clampedDate?_eq (by omega) (by omega) hday (by omega) (by omega)]
        congr 2; unfold Date.monthIndex monthOf; omega
    simp only [next?, htoday, clock]
    rw [hsecond, clampedDate?_eq hm1 hm2 hday (by omega) (by omega)]
    rfl
  | yearly month day c =>
    obtain ⟨-, hn1, hn2, hday, -⟩ := hs
    simp only [next?, htoday, clock]
    rw [clampedDate?_eq hn1 hn2 hday (by omega) (by omega), clampedDate?_eq hn1 hn2 hday (by omega) (by omega)]
    rfl
  | weekly days c => exact absurd trivial hweekly
  | relative _ | weekday _ | date _ | offset _ => exact absurd hs.2 id

end

/-! ## What is found in a week -/

/-- The time of a schedule on the `k`-th day from today, a listed one, is first shown by an instant ahead of now. -/
def ListedAhead (z : Zone) (now : Instant) (days : List Weekday) (c : TimeOfDay) (k : Nat) (t : Instant) : Prop :=
  (Date.mk ((z.localAt now).date.days + k)).weekday ∈ days ∧
    z.FirstShowing (.on ⟨(z.localAt now).date.days + k⟩ c) t ∧ now < t

/-- Well inside the calendar, the search over a week stops at the first listed day whose time is ahead. -/
theorem nextWeekly?_eq_some_iff {z : Zone} {now : Instant} (hnow : z.WellInside now) {days : List Weekday}
    {c : TimeOfDay} {t : Instant} :
    nextWeekly? z now days c = some t ↔
      ∃ k < 8, ListedAhead z now days c k t ∧ ∀ j < k, ∀ u, ¬ ListedAhead z now days c j u := by
  have hin := (hnow.yearInside le_rfl (by omega)).days
  -- What the search finds on a day is the first showing there, if the day is listed and the time is ahead.
  have hstep (k : Nat) (hk : k < 8) (u : Instant) :
      (((z.localAt now).date.addDays? k).bind fun day =>
        if days.contains day.weekday then (z.resolve? (.on day c)).filter now.before else none) = some u ↔
      ListedAhead z now days c k u := by
    rw [Date.addDays?, ofDays?_eq_some (by omega) (by omega), Option.bind_some, ListedAhead]
    by_cases hd : (Date.mk ((z.localAt now).date.days + k)).weekday ∈ days
    · simp only [List.contains_iff_mem.2 hd, if_true, Option.filter_eq_some_iff, Zone.resolve?_eq_some_iff,
        Instant.before_iff, hd, true_and]
    · simp [hd]
  simp only [nextWeekly?, Option.bind_eq_bind, findSome?_range_eq_some_iff]
  refine exists_congr fun k => and_congr_right fun hk => and_congr (hstep k hk t) ?_
  refine forall_congr' fun j => forall_congr' fun hj => ?_
  rw [Option.eq_none_iff_forall_ne_some]
  exact forall_congr' fun u => not_congr (hstep j (by omega) u)

/-- The search over a week finds something if the time on any listed day of it is ahead. -/
theorem nextWeekly?_eq_some {z : Zone} {now : Instant} (hnow : z.WellInside now) {days : List Weekday}
    {c : TimeOfDay} (h : ∃ k < 8, ∃ t, ListedAhead z now days c k t) : ∃ t, nextWeekly? z now days c = some t := by
  classical
  obtain ⟨hk, t, ht⟩ := Nat.find_spec h
  have hbefore (j : Nat) (hj : j < Nat.find h) (u : Instant) : ¬ ListedAhead z now days c j u :=
    fun hu => Nat.find_min h hj ⟨by omega, u, hu⟩
  exact ⟨t, (nextWeekly?_eq_some_iff hnow).2 ⟨_, hk, ht, hbefore⟩⟩

end Schedule

end LivePage
