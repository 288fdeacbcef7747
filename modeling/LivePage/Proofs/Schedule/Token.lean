import LivePage.Proofs.Schedule.Grammar
/-!
# Reading schedule tokens

A token is read iff its text is one of the grammar, and it is read as the schedule that the text describes. The kinds
of token are tried one after another; no text is of two kinds, so the order is of no importance.
-/
namespace LivePage.Schedule

open Text

/-! ## Arguments and a clock time -/

section
variable {α : Type} {cs head args : List Char} {time : Option TimeOfDay} {s : Schedule}

theorem splitTime?_eq_some_iff : splitTime? args = some (head, time) ↔
    ':' ∉ head ∧ ∃ clock, args = head ++ clock ∧ IsAtTime clock time := by
  unfold splitTime?
  cases hsplit : splitFirst? ':' args with
  | none =>
    have hcolon := splitFirst?_eq_none_iff.1 hsplit
    constructor
    · rintro ⟨⟩
      exact ⟨hcolon, [], (List.append_nil _).symm, .absent⟩
    · rintro ⟨-, clock, rfl, htime⟩
      cases htime with
      | absent => simp
      | present => exact absurd (List.mem_append_right _ List.mem_cons_self) hcolon
  | some p =>
    obtain ⟨before, after⟩ := p
    obtain ⟨rfl, hbefore⟩ := splitFirst?_eq_some_iff.1 hsplit
    constructor
    · intro h
      obtain ⟨t, ht, heq⟩ := Option.map_eq_some_iff.1 h
      obtain ⟨rfl, rfl⟩ := Prod.mk.inj heq
      exact ⟨hbefore, ':' :: after, rfl, .present (timeOfDay?_eq_some_iff.1 ht)⟩
    · rintro ⟨hhead, clock, hargs, htime⟩
      cases htime with
      | absent => exact absurd (List.append_nil head ▸ hargs ▸ List.mem_append_right _ List.mem_cons_self) hhead
      | present hclock =>
        have := splitFirst?_eq_some_iff.2 ⟨hargs, hhead⟩
        obtain ⟨rfl, rfl⟩ := Prod.mk.inj (Option.some.inj (hsplit.symm.trans this))
        exact Option.map_eq_some_iff.2 ⟨_, timeOfDay?_eq_some_iff.2 hclock, rfl⟩

theorem colon_not_mem_dayList {days : List Weekday} (h : IsDayList cs days) : ':' ∉ cs := by
  obtain ⟨pieces, -, rfl, hdays⟩ := h
  intro hcolon
  rcases mem_of_mem_intercalate hcolon with hcomma | ⟨p, hp, hmem⟩
  · exact absurd hcomma (by decide)
  · exact not_mem_pieces hdays (by decide) (by decide) p hp hmem

theorem colon_not_mem_dayOfMonth {day : Nat} (h : IsDayOfMonth cs day) : ':' ∉ cs := by
  obtain ⟨number, ending, rfl, hending, hnum, -⟩ := h
  intro hcolon
  rcases List.mem_append.1 hcolon with hmem | hmem
  · exact absurd (hnum.mem hmem) (by decide)
  · have hnone : ∀ e ∈ ["", "st", "nd", "rd", "th"].map String.toList, ':' ∉ e := by decide
    exact hnone ending hending hmem

theorem colon_not_mem_monthDay {month day : Nat} (h : IsMonthDay cs month day) : ':' ∉ cs := by
  obtain ⟨m, d, rfl, hmonth, hnum, -⟩ := h
  intro hcolon
  rcases List.mem_append.1 hcolon with hmem | hmem
  · exact absurd (hmonth.mem hmem) (by decide)
  · rcases List.mem_cons.1 hmem with heq | hmem
    · exact absurd heq (by decide)
    · exact absurd (hnum.mem hmem) (by decide)

/-! ## Keywords -/

theorem bind_eq_ok_iff {ε β : Type} {x : Except ε α} {f : α → Except ε β} {b : β} :
    x >>= f = .ok b ↔ ∃ a, x = .ok a ∧ f a = .ok b := by
  cases x <;> simp [bind, Except.bind]

theorem orInvalid_eq_ok_iff {raw what : String} {o : Option α} {a : α} : orInvalid raw what o = .ok a ↔ o = some a := by
  cases o <;> simp [orInvalid]

/-- Arguments in which there is no colon, read up to the clock time that may follow them. -/
theorem timed_eq_ok_iff {raw what : String} {read : List Char → Option α} {P : List Char → α → Prop}
    {f : α → Option TimeOfDay → Schedule} (hread : ∀ cs a, read cs = some a ↔ P cs a)
    (hcolon : ∀ cs a, P cs a → ':' ∉ cs) :
    (orInvalid raw "time" (splitTime? args) >>= fun p => orInvalid raw what (read p.1) >>= fun a =>
        (pure (f a p.2) : Except TokenFault Schedule)) = .ok s ↔
      ∃ head clock a time, args = head ++ clock ∧ P head a ∧ IsAtTime clock time ∧ s = f a time := by
  simp only [bind_eq_ok_iff, orInvalid_eq_ok_iff, Prod.exists, splitTime?_eq_some_iff, hread]
  constructor
  · rintro ⟨head, time, ⟨-, clock, hargs, htime⟩, a, ha, ⟨⟩⟩
    exact ⟨head, clock, a, time, hargs, ha, htime, rfl⟩
  · rintro ⟨head, clock, a, time, hargs, ha, htime, rfl⟩
    exact ⟨head, time, ⟨hcolon head a ha, clock, hargs, htime⟩, a, ha, rfl⟩

theorem weekly_eq_ok_iff {raw : String} : parseKeyword raw "weekly" args = .ok s ↔
    ∃ head clock days time, args = head ++ clock ∧ IsDayList head days ∧ IsAtTime clock time ∧ s = .weekly days time :=
  timed_eq_ok_iff (fun _ _ => weekdays?_eq_some_iff) fun _ _ => colon_not_mem_dayList

theorem monthly_eq_ok_iff {raw : String} : parseKeyword raw "monthly" args = .ok s ↔
    ∃ head clock day time, args = head ++ clock ∧ IsDayOfMonth head day ∧ IsAtTime clock time ∧ s = .monthly day time :=
  timed_eq_ok_iff (fun _ _ => dayOfMonth?_eq_some_iff) fun _ _ => colon_not_mem_dayOfMonth

theorem yearly_eq_ok_iff {raw : String} : parseKeyword raw "yearly" args = .ok s ↔
    ∃ head clock, ∃ date : Nat × Nat, ∃ time, args = head ++ clock ∧ IsMonthDay head date.1 date.2 ∧
      IsAtTime clock time ∧ s = .yearly date.1 date.2 time :=
  timed_eq_ok_iff (f := fun (date : Nat × Nat) time => .yearly date.1 date.2 time)
    (P := fun cs (date : Nat × Nat) => IsMonthDay cs date.1 date.2) (fun _ _ => monthDay?_eq_some_iff)
    fun _ _ => colon_not_mem_monthDay

def keywords : List String := ["daily", "weekly", "monthly", "yearly", "in"]

theorem parseKeyword_eq_ok_iff {raw keyword : String} :
    parseKeyword raw keyword args = .ok s ↔ Arguments keyword args s := by
  constructor
  · intro h
    by_cases hkeyword : keyword ∈ keywords
    · simp only [keywords, List.mem_cons, List.not_mem_nil, or_false] at hkeyword
      rcases hkeyword with rfl | rfl | rfl | rfl | rfl
      · obtain ⟨t, ht, ⟨⟩⟩ := bind_eq_ok_iff.1 h
        exact .daily (timeOfDay?_eq_some_iff.1 (orInvalid_eq_ok_iff.1 ht))
      · obtain ⟨head, clock, days, time, rfl, hdays, htime, rfl⟩ := weekly_eq_ok_iff.1 h
        exact .weekly hdays htime
      · obtain ⟨head, clock, day, time, rfl, hday, htime, rfl⟩ := monthly_eq_ok_iff.1 h
        exact .monthly hday htime
      · obtain ⟨head, clock, date, time, rfl, hdate, htime, rfl⟩ := yearly_eq_ok_iff.1 h
        exact .yearly hdate htime
      · obtain ⟨n, hn, ⟨⟩⟩ := bind_eq_ok_iff.1 h
        exact .offset (offsetMinutes?_eq_some_iff.1 (orInvalid_eq_ok_iff.1 hn))
    · simp only [keywords, List.mem_cons, List.not_mem_nil, or_false, not_or] at hkeyword
      simp [parseKeyword, hkeyword] at h
  · intro h
    cases h with
    | daily hclock =>
      exact bind_eq_ok_iff.2 ⟨_, orInvalid_eq_ok_iff.2 (timeOfDay?_eq_some_iff.2 hclock), rfl⟩
    | weekly hdays htime => exact weekly_eq_ok_iff.2 ⟨_, _, _, _, rfl, hdays, htime, rfl⟩
    | monthly hday htime => exact monthly_eq_ok_iff.2 ⟨_, _, _, _, rfl, hday, htime, rfl⟩
    | yearly hdate htime => exact yearly_eq_ok_iff.2 ⟨_, _, (_, _), _, rfl, hdate, htime, rfl⟩
    | offset hoffset =>
      exact bind_eq_ok_iff.2 ⟨_, orInvalid_eq_ok_iff.2 (offsetMinutes?_eq_some_iff.2 hoffset), rfl⟩

theorem Arguments.mem_keywords {keyword : String} (h : Arguments keyword args s) : keyword ∈ keywords := by
  cases h <;> decide

end

/-! ## No text is of two kinds -/

section
variable {cs args : List Char} {c : Char} {s : Schedule}

theorem relativeDay?_eq_none (hc : c ∈ cs) (hlower : c.isLower = false) : relativeDay? (String.ofList cs) = none := by
  refine Option.eq_none_iff_forall_ne_some.2 fun day hday => ?_
  have hall : day.name.toList.all Char.isLower = true := by cases day <;> decide
  rw [← relativeDay?_eq_some_iff.1 hday, String.toList_ofList] at hall
  exact absurd (List.all_eq_true.1 hall c hc) (by simp [hlower])

theorem weekday?_eq_none (hc : c ∈ cs) (hlower : c.isLower = false) : weekday? (String.ofList cs) = none := by
  refine Option.eq_none_iff_forall_ne_some.2 fun day hday => ?_
  have hname := weekday?_eq_some_iff.1 hday
  rw [String.toList_ofList] at hname
  exact absurd (isLower_of_isNameOf hname c hc) (by simp [hlower])

theorem timeOfDay?_eq_none (hc : c.isLower = true) : timeOfDay? (c :: cs) = none := by
  refine Option.eq_none_iff_forall_ne_some.2 fun t ht => ?_
  obtain ⟨d, ds, hcs, hdigit⟩ := (timeOfDay?_eq_some_iff.1 ht).head
  rw [← (List.cons.inj hcs).1] at hdigit
  exact absurd hc (by simp [isLower_eq_false_of_isDigit hdigit])

theorem relativeDay?_dayName {day : Weekday} (h : IsNameOf day.fullName cs) :
    relativeDay? (String.ofList cs) = none := by
  refine Option.eq_none_iff_forall_ne_some.2 fun other hother => ?_
  have hcs : cs = other.name.toList := by rw [← relativeDay?_eq_some_iff.1 hother, String.toList_ofList]
  rw [hcs] at h
  revert h
  cases other <;> cases day <;> decide

/-- A keyword and its arguments are neither a name nor a number. -/
theorem parseBody_keyword {raw keyword : String} (h : keyword ∈ keywords) :
    parseBody raw (keyword.toList ++ ':' :: args) = parseKeyword raw keyword args := by
  have hcolon : ':' ∈ keyword.toList ++ ':' :: args := List.mem_append_right _ List.mem_cons_self
  have hdaily : String.ofList (keyword.toList ++ ':' :: args) ≠ "daily" := fun heq => by
    have hlist := congrArg String.toList heq
    rw [String.toList_ofList] at hlist
    exact absurd (hlist ▸ hcolon) (by decide)
  have hsplit : splitFirst? ':' (keyword.toList ++ ':' :: args) = some (keyword.toList, args) := by
    have hall : ∀ keyword ∈ keywords, ':' ∉ keyword.toList := by decide
    exact splitFirst?_eq_some_iff.2 ⟨rfl, hall keyword h⟩
  obtain ⟨c, ds, hcs, hc⟩ : ∃ c ds, keyword.toList = c :: ds ∧ c.isLower = true := by
    simp only [keywords, List.mem_cons, List.not_mem_nil, or_false] at h
    rcases h with rfl | rfl | rfl | rfl | rfl <;> exact ⟨_, _, rfl, by decide⟩
  have hdate : dateParts? (keyword.toList ++ ':' :: args) = none := by
    rw [hcs]
    exact dateParts?_eq_none (isDecimalDigit_of_isLower hc)
  have htime : timeOfDay? (keyword.toList ++ ':' :: args) = none := by
    rw [hcs]
    exact timeOfDay?_eq_none hc
  simp only [parseBody, relativeDay?_eq_none hcolon (by decide), weekday?_eq_none hcolon (by decide), hdate, htime,
    if_neg hdaily, hsplit, String.ofList_toList]

/-- What the readers accept, in their order, is described. -/
theorem describes_of_parseBody {raw : String} (h : parseBody raw cs = .ok s) : Describes cs s := by
  have hname {name : String} (heq : String.ofList cs = name) : cs = name.toList := by
    rw [← heq, String.toList_ofList]
  -- The readers are tried one after the other, and the first that takes the text decides.
  cases hrelative : relativeDay? (String.ofList cs) with
  | some day =>
    simp only [parseBody, hrelative] at h
    cases h
    rw [hname (relativeDay?_eq_some_iff.1 hrelative)]
    exact .relative day
  | none =>
    cases hday : weekday? (String.ofList cs) with
    | some day =>
      simp only [parseBody, hrelative, hday] at h
      cases h
      have hfull := weekday?_eq_some_iff.1 hday
      rw [String.toList_ofList] at hfull
      exact .weekday hfull
    | none =>
      cases hparts : dateParts? cs with
      | some parts =>
        obtain ⟨year, month, day⟩ := parts
        simp only [parseBody, hrelative, hday, hparts] at h
        obtain ⟨d, hd, ⟨⟩⟩ := bind_eq_ok_iff.1 h
        exact .date (isDate_iff.2 ⟨year, month, day, hparts, orInvalid_eq_ok_iff.1 hd⟩)
      | none =>
        cases hclock : timeOfDay? cs with
        | some t =>
          simp only [parseBody, hrelative, hday, hparts, hclock] at h
          cases h
          exact .time (timeOfDay?_eq_some_iff.1 hclock)
        | none =>
          simp only [parseBody, hrelative, hday, hparts, hclock] at h
          split_ifs at h with hdaily
          · cases h
            rw [hname hdaily]
            exact .daily
          · split at h
            · rename_i keyword args hsplit
              obtain ⟨rfl, -⟩ := splitFirst?_eq_some_iff.1 hsplit
              have hargs := Describes.keyword (parseKeyword_eq_ok_iff.1 h)
              rwa [String.toList_ofList] at hargs
            · cases h

/-- What is described is accepted, for no reader before the right one takes it. -/
theorem parseBody_of_describes (raw : String) (h : Describes cs s) : parseBody raw cs = .ok s := by
  cases h with
  | relative day => cases day <;> rfl
  | weekday hday =>
    have hweekday : weekday? (String.ofList cs) = some _ := weekday?_eq_some_iff.2 (by rwa [String.toList_ofList])
    simp only [parseBody, relativeDay?_dayName hday, hweekday]
  | date hdate =>
    have hhyphen : '-' ∈ cs := by
      obtain ⟨year, month, day, rfl, -⟩ := hdate
      exact List.mem_append_right _ List.mem_cons_self
    obtain ⟨year, month, day, hparts, hd⟩ := isDate_iff.1 hdate
    simp only [parseBody, relativeDay?_eq_none hhyphen (by decide), weekday?_eq_none hhyphen (by decide), hparts]
    exact bind_eq_ok_iff.2 ⟨_, orInvalid_eq_ok_iff.2 hd, rfl⟩
  | time hclock =>
    obtain ⟨c, ds, hcs, hdigit⟩ := hclock.head
    have hc : c ∈ cs := hcs ▸ List.mem_cons_self
    have hlower : c.isLower = false := isLower_eq_false_of_isDigit hdigit
    simp only [parseBody, relativeDay?_eq_none hc hlower, weekday?_eq_none hc hlower, hclock.dateParts?_eq_none,
      timeOfDay?_eq_some_iff.2 hclock]
  | daily => rfl
  | keyword hargs => rwa [parseBody_keyword hargs.mem_keywords, parseKeyword_eq_ok_iff]

theorem parseBody_eq_ok_iff (raw : String) : parseBody raw cs = .ok s ↔ Describes cs s :=
  ⟨describes_of_parseBody, parseBody_of_describes raw⟩

/-- A text describes one schedule at most. -/
theorem Describes.unique {s' : Schedule} (h : Describes cs s) (h' : Describes cs s') : s = s' :=
  Except.ok.inj ((parseBody_of_describes "" h).symm.trans (parseBody_of_describes "" h'))

end

/-- A text is read as a schedule iff it is an at sign with a text of the grammar after it, the case of ASCII letters
left aside, and the schedule is the one that the text describes. -/
theorem parseToken_eq_ok_iff (raw : String) (s : Schedule) :
    parseToken raw = .ok s ↔ ∃ text, raw.toList = '@' :: text ∧ Describes (asciiLower text) s := by
  have hempty : ¬ Describes [] s := fun h => nomatch (parseBody_eq_ok_iff raw).2 h
  cases hraw : raw.toList with
  | nil => simp [parseToken, hraw]
  | cons c text =>
    by_cases hat : c = '@'
    · subst hat
      simp only [parseToken, hraw, List.cons.injEq, true_and, exists_eq_left']
      split_ifs with hnil
      · refine iff_of_false nofun fun h => hempty ?_
        rwa [List.isEmpty_iff.1 hnil] at h
      · exact parseBody_eq_ok_iff raw
    · simp [parseToken, hraw, hat]

example : parseToken "@Weekly: mon , FRI:9:30pm" = .ok (.weekly [.mon, .fri] (some { seconds := 77400 })) := by
  decide +kernel

end LivePage.Schedule
