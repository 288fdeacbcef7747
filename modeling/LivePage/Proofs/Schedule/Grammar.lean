import LivePage.Proofs.Schedule.Clock
/-!
# The grammar of schedule tokens

The texts that are schedule tokens, each with the schedule that it describes, as a grammar over the text after the at
sign in lower case, and the readers of its parts: names of days and months, lists of days, offsets.
-/
namespace LivePage

open Text

/-! ## Names -/

/-- The name of a day of the week in full. -/
def Weekday.fullName : Weekday → String
  | mon => "monday"
  | tue => "tuesday"
  | wed => "wednesday"
  | thu => "thursday"
  | fri => "friday"
  | sat => "saturday"
  | sun => "sunday"

namespace Schedule

/-- A name in full or its first three letters. -/
def IsNameOf (full : String) (cs : List Char) : Prop := cs = full.toList ∨ cs = full.toList.take 3

instance (full : String) (cs : List Char) : Decidable (IsNameOf full cs) := inferInstanceAs (Decidable (_ ∨ _))

/-- The names of the units of an offset and the minutes that each has. -/
def unitNames : List (Nat × List String) := [
  (1, ["m", "min", "mins", "minute", "minutes"]),
  (60, ["h", "hr", "hrs", "hour", "hours"]),
  (60 * 24, ["d", "day", "days"]),
  (60 * 24 * 7, ["w", "week", "weeks"])]

/-! ## The grammar -/

/-- A day of the week with white space around it. -/
def IsPaddedDay (piece : List Char) (day : Weekday) : Prop :=
  ∃ before name after, piece = before ++ name ++ after ∧ Blank before ∧ Blank after ∧ IsNameOf day.fullName name

/-- Days of the week separated by commas. -/
def IsDayList (cs : List Char) (days : List Weekday) : Prop :=
  ∃ pieces, pieces ≠ [] ∧ cs = [','].intercalate pieces ∧ List.Forall₂ IsPaddedDay pieces days

/-- A day of a month, with or without the ending of an ordinal. -/
def IsDayOfMonth (cs : List Char) (day : Nat) : Prop :=
  ∃ number ending, cs = number ++ ending ∧ ending ∈ ["", "st", "nd", "rd", "th"].map String.toList ∧
    IsUnsigned number day ∧ 1 ≤ day ∧ day ≤ 31

/-- A month by its number or its name. -/
def IsMonth (cs : List Char) (month : Nat) : Prop :=
  1 ≤ month ∧ month ≤ 12 ∧ (IsUnsigned cs month ∨ ∃ name, monthNames[month - 1]? = some name ∧ IsNameOf name cs)

/-- A month and a day. -/
def IsMonthDay (cs : List Char) (month day : Nat) : Prop :=
  ∃ m d, cs = m ++ '-' :: d ∧ IsMonth m month ∧ IsUnsigned d day ∧ 1 ≤ day ∧ day ≤ 31

/-- A number of units of time, in minutes. -/
def IsOffset (cs : List Char) (minutes : Nat) : Prop :=
  ∃ digits unit n per, cs = digits ++ unit ∧ IsNumeral digits n ∧
    (∃ u ∈ unitNames, u.1 = per ∧ String.ofList unit ∈ u.2) ∧ minutes = n * per ∧ minutes ≤ maxMinutes

/-- A clock time after a colon, or nothing. -/
inductive IsAtTime : List Char → Option TimeOfDay → Prop
  | absent : IsAtTime [] none
  | present {cs : List Char} {t : TimeOfDay} : IsClock cs t → IsAtTime (':' :: cs) (some t)

/-- What a keyword says with its arguments. -/
inductive Arguments : String → List Char → Schedule → Prop
  | daily {cs : List Char} {t : TimeOfDay} : IsClock cs t → Arguments "daily" cs (.daily (some t))
  | weekly {cs time : List Char} {days : List Weekday} {t : Option TimeOfDay} :
      IsDayList cs days → IsAtTime time t → Arguments "weekly" (cs ++ time) (.weekly days t)
  | monthly {cs time : List Char} {day : Nat} {t : Option TimeOfDay} :
      IsDayOfMonth cs day → IsAtTime time t → Arguments "monthly" (cs ++ time) (.monthly day t)
  | yearly {cs time : List Char} {month day : Nat} {t : Option TimeOfDay} :
      IsMonthDay cs month day → IsAtTime time t → Arguments "yearly" (cs ++ time) (.yearly month day t)
  | offset {cs : List Char} {minutes : Nat} : IsOffset cs minutes → Arguments "in" cs (.offset minutes)

/-- The texts of schedule tokens, without the at sign and in lower case, and what they describe. -/
inductive Describes : List Char → Schedule → Prop
  | relative (day : RelativeDay) : Describes day.name.toList (.relative day)
  | weekday {cs : List Char} {day : Weekday} : IsNameOf day.fullName cs → Describes cs (.weekday day)
  | date {cs : List Char} {d : Date} : IsDate cs d → Describes cs (.date d)
  | time {cs : List Char} {t : TimeOfDay} : IsClock cs t → Describes cs (.time t)
  | daily : Describes "daily".toList (.daily none)
  | keyword {keyword : String} {args : List Char} {s : Schedule} :
      Arguments keyword args s → Describes (keyword.toList ++ ':' :: args) s

/-! ## Reading names -/

section
variable {s : String} {cs : List Char} {day : Weekday} {month n : Nat}

theorem relativeDay?_eq_some_iff {day : RelativeDay} : relativeDay? s = some day ↔ s = day.name := by
  constructor
  · intro h
    unfold relativeDay? at h
    split at h <;> cases h <;> rfl
  · rintro rfl
    cases day <;> rfl

theorem weekday?_eq_some_iff : weekday? s = some day ↔ IsNameOf day.fullName s.toList := by
  constructor
  · intro h
    unfold weekday? at h
    split at h <;> cases h <;> decide
  · intro h
    obtain ⟨name, hname, rfl⟩ : ∃ name, IsNameOf day.fullName name ∧ s = String.ofList name := ⟨_, h, by simp⟩
    rcases hname with rfl | rfl <;> cases day <;> decide +kernel

theorem isLower_of_isNameOf (h : IsNameOf day.fullName cs) : ∀ c ∈ cs, c.isLower = true := by
  have hfull : ∀ c ∈ day.fullName.toList, c.isLower = true := List.all_eq_true.1 (by cases day <;> decide)
  rcases h with rfl | rfl
  · exact hfull
  · exact fun c hc => hfull c (List.mem_of_mem_take hc)

/-- A text of letters is no number. -/
theorem not_isUnsigned_of_isLower (h : ∀ c ∈ cs, c.isLower = true) : ¬ IsUnsigned cs n := by
  intro hnum
  have hne : cs ≠ [] := by
    obtain ⟨ds, rfl | rfl, hds⟩ := hnum
    · exact hds.1
    · exact List.cons_ne_nil _ _
  obtain ⟨c, cs, rfl⟩ := List.exists_cons_of_ne_nil hne
  exact absurd (h c List.mem_cons_self) (by simp [hnum.isLower_eq_false List.mem_cons_self])

/-! ## Reading days and months -/

theorem isNameOf_iff {name : String} (hname : name ∈ monthNames) : IsNameOf name cs ↔
    (name.toList == cs || (cs.length == 3 && cs.isPrefixOf name.toList)) = true := by
  have hlength : ∀ name ∈ monthNames, 3 ≤ name.toList.length := by decide
  rw [Bool.or_eq_true, Bool.and_eq_true, beq_iff_eq, beq_iff_eq, List.isPrefixOf_iff_prefix, List.prefix_iff_eq_take,
    IsNameOf, eq_comm]
  refine or_congr_right ⟨?_, ?_⟩
  · rintro rfl
    have hthree : (name.toList.take 3).length = 3 := by
      rw [List.length_take, Nat.min_eq_left (hlength name hname)]
    exact ⟨hthree, by rw [hthree]⟩
  · rintro ⟨hthree, htake⟩
    rwa [hthree] at htake

theorem monthNames_pairwise :
    monthNames.Pairwise fun a b => ¬ IsNameOf a b.toList ∧ ¬ IsNameOf a (b.toList.take 3) := by
  decide +kernel

theorem isLower_of_monthName {name : String} (hname : name ∈ monthNames) (h : IsNameOf name cs) :
    ∀ c ∈ cs, c.isLower = true := by
  have hall : ∀ name ∈ monthNames, name.toList.all Char.isLower = true := by decide
  have hfull := List.all_eq_true.1 (hall name hname)
  rcases h with rfl | rfl
  · exact hfull
  · exact fun c hc => hfull c (List.mem_of_mem_take hc)

theorem findIdx?_monthNames {i : Nat} :
    (monthNames.findIdx? fun name => name.toList == cs || (cs.length == 3 && cs.isPrefixOf name.toList)) = some i ↔
      ∃ name, monthNames[i]? = some name ∧ IsNameOf name cs := by
  rw [List.findIdx?_eq_some_iff_getElem]
  constructor
  · rintro ⟨hi, hname, -⟩
    exact ⟨monthNames[i], List.getElem?_eq_getElem hi, (isNameOf_iff (List.getElem_mem hi)).2 hname⟩
  · rintro ⟨name, hget, hname⟩
    obtain ⟨hi, rfl⟩ := List.getElem?_eq_some_iff.1 hget
    refine ⟨hi, (isNameOf_iff (List.getElem_mem hi)).1 hname, fun j hj hother => ?_⟩
    have hj' : j < monthNames.length := hj.trans hi
    obtain ⟨hfull, hshort⟩ := List.pairwise_iff_getElem.1 monthNames_pairwise j i hj' hi hj
    have hfirst := (isNameOf_iff (List.getElem_mem hj')).2 hother
    rcases hname with rfl | rfl
    · exact hfull hfirst
    · exact hshort hfirst

theorem month?_eq_some_iff : month? cs = some month ↔ IsMonth cs month := by
  unfold month? IsMonth
  cases hparse : parseUnsigned? maxU32 cs with
  | some n =>
    have hnum := (parseUnsigned?_eq_some_iff.1 hparse).1
    have hname : ¬ ∃ name, monthNames[month - 1]? = some name ∧ IsNameOf name cs := by
      rintro ⟨name, hget, hname⟩
      exact not_isUnsigned_of_isLower (isLower_of_monthName (List.mem_of_getElem? hget) hname) hnum
    rw [or_iff_left hname]
    constructor
    · intro h
      replace h : (if 1 ≤ n ∧ n ≤ 12 then some n else none) = some month := h
      split_ifs at h with hrange
      obtain rfl := Option.some.inj h
      exact ⟨hrange.1, hrange.2, hnum⟩
    · rintro ⟨h1, h2, hmonth⟩
      have hmax : month ≤ maxU32 := by unfold maxU32; omega
      obtain rfl : n = month := Option.some.inj (hparse.symm.trans (parseUnsigned?_eq_some_iff.2 ⟨hmonth, hmax⟩))
      exact if_pos ⟨h1, h2⟩
  | none =>
    have hnum (h2 : month ≤ 12) : ¬ IsUnsigned cs month := fun hmonth => by
      have hmax : month ≤ maxU32 := by unfold maxU32; omega
      exact absurd (parseUnsigned?_eq_some_iff.2 ⟨hmonth, hmax⟩) (by simp [hparse])
    simp only [Option.map_eq_some_iff, findIdx?_monthNames]
    constructor
    · rintro ⟨i, ⟨name, hget, hname⟩, rfl⟩
      have hi : i < 12 := (List.getElem?_eq_some_iff.1 hget).1
      exact ⟨by omega, by omega, .inr ⟨name, hget, hname⟩⟩
    · rintro ⟨h1, h2, hmonth | ⟨name, hget, hname⟩⟩
      · exact absurd hmonth (hnum h2)
      · exact ⟨month - 1, ⟨name, hget, hname⟩, by omega⟩

/-- The text before the first of several endings of one length, which is the only one that it can have. -/
theorem findSome?_dropSuffix? {endings : List String} {k : Nat} {number : List Char}
    (h : ∀ e ∈ endings, e.toList.length = k) :
    (endings.findSome? fun e => dropSuffix? e.toList cs) = some number ↔ ∃ e ∈ endings, cs = number ++ e.toList := by
  constructor
  · intro hfind
    obtain ⟨e, he, hsuffix⟩ := List.exists_of_findSome?_eq_some hfind
    exact ⟨e, he, dropSuffix?_eq_some_iff.1 hsuffix⟩
  · rintro ⟨e, he, hcs⟩
    have hsome : (endings.findSome? fun e => dropSuffix? e.toList cs).isSome = true :=
      List.findSome?_isSome_iff.2 ⟨e, he, by rw [dropSuffix?_eq_some_iff.2 hcs]; rfl⟩
    obtain ⟨other, hfind⟩ := Option.isSome_iff_exists.1 hsome
    obtain ⟨e', he', hsuffix⟩ := List.exists_of_findSome?_eq_some hfind
    have hcs' := dropSuffix?_eq_some_iff.1 hsuffix
    rw [hcs] at hcs'
    rw [hfind, (List.append_inj' hcs' ((h e he).trans (h e' he').symm)).1]

theorem dayOfMonth?_eq_some_iff : dayOfMonth? cs = some n ↔ IsDayOfMonth cs n := by
  have hlength : ∀ e ∈ ["st", "nd", "rd", "th"], e.toList.length = 2 := by decide
  have hread (digits : List Char) : ((parseUnsigned? maxU32 digits).filter fun d => 1 ≤ d && d ≤ 31) = some n ↔
      IsUnsigned digits n ∧ 1 ≤ n ∧ n ≤ 31 := by
    rw [Option.filter_eq_some_iff, parseUnsigned?_eq_some_iff, Bool.and_eq_true, decide_eq_true_iff, decide_eq_true_iff,
      and_assoc]
    refine and_congr_right fun _ => and_iff_right_of_imp fun hn => ?_
    unfold maxU32
    omega
  unfold dayOfMonth? IsDayOfMonth
  rw [hread]
  cases hfind : ["st", "nd", "rd", "th"].findSome? fun e => dropSuffix? e.toList cs with
  | none =>
    constructor
    · rintro ⟨hnum, hrange⟩
      exact ⟨cs, [], (List.append_nil cs).symm, by simp, hnum, hrange⟩
    · rintro ⟨number, ending, rfl, hending, hnum, hrange⟩
      obtain ⟨e, he, rfl⟩ := List.mem_map.1 hending
      rcases List.mem_cons.1 he with rfl | he
      · rw [show "".toList = [] from rfl, List.append_nil]
        exact ⟨hnum, hrange⟩
      · exact nomatch hfind.symm.trans ((findSome?_dropSuffix? hlength).2 ⟨e, he, rfl⟩)
  | some digits =>
    obtain ⟨e, he, rfl⟩ := (findSome?_dropSuffix? hlength).1 hfind
    constructor
    · rintro ⟨hnum, hrange⟩
      exact ⟨digits, e.toList, rfl, List.mem_map_of_mem (List.mem_cons_of_mem _ he), hnum, hrange⟩
    · rintro ⟨number, ending, hcs, hending, hnum, hrange⟩
      obtain ⟨e', he', rfl⟩ := List.mem_map.1 hending
      rcases List.mem_cons.1 he' with rfl | he'
      · -- The text would be all number, but it ends with letters.
        have hletter : ∀ e ∈ ["st", "nd", "rd", "th"], e.toList.any Char.isLower = true := by decide
        obtain ⟨c, hc, hlower⟩ := List.any_eq_true.1 (hletter e he)
        rw [show "".toList = [] from rfl, List.append_nil] at hcs
        have hmem : c ∈ number := hcs ▸ List.mem_append_right digits hc
        exact absurd hlower (by simp [hnum.isLower_eq_false hmem])
      · have := (findSome?_dropSuffix? hlength).2 ⟨e', he', hcs⟩
        obtain rfl := Option.some.inj (hfind.symm.trans this)
        exact ⟨hnum, hrange⟩

theorem isPaddedDay_iff {piece : List Char} :
    weekday? (String.ofList (trim piece)) = some day ↔ IsPaddedDay piece day := by
  rw [weekday?_eq_some_iff, String.toList_ofList]
  constructor
  · intro hname
    obtain ⟨before, after, hpiece, hbefore, hafter⟩ := exists_trim piece
    exact ⟨before, trim piece, after, hpiece, hbefore, hafter, hname⟩
  · rintro ⟨before, name, after, rfl, hbefore, hafter, hname⟩
    rwa [trim_padded hbefore hafter fun c hc => isBlank_of_isLower (isLower_of_isNameOf hname c hc)]

theorem IsPaddedDay.not_mem {piece : List Char} {c : Char} (h : IsPaddedDay piece day) (hblank : isBlank c = false)
    (hlower : c.isLower = false) : c ∉ piece := by
  obtain ⟨before, name, after, rfl, hbefore, hafter, hname⟩ := h
  intro hc
  rcases List.mem_append.1 hc with hc | hc
  · rcases List.mem_append.1 hc with hc | hc
    · exact absurd (hbefore c hc) (by simp [hblank])
    · exact absurd (isLower_of_isNameOf hname c hc) (by simp [hlower])
  · exact absurd (hafter c hc) (by simp [hblank])

theorem not_mem_pieces {pieces : List (List Char)} {days : List Weekday} {c : Char}
    (h : List.Forall₂ IsPaddedDay pieces days) (hblank : isBlank c = false) (hlower : c.isLower = false) :
    ∀ p ∈ pieces, c ∉ p :=
  (List.forall₂_and_left pieces days).1 (h.imp fun _ _ hday => ⟨hday.not_mem hblank hlower, hday⟩) |>.1

theorem weekdays?_eq_some_iff {days : List Weekday} : weekdays? cs = some days ↔ IsDayList cs days := by
  simp only [weekdays?, mapM_eq_some_iff, isPaddedDay_iff]
  constructor
  · intro hdays
    obtain ⟨hne, -, hcs⟩ := splitOn_eq_iff.1 (rfl : splitOn ',' cs = _)
    exact ⟨_, hne, hcs, hdays⟩
  · rintro ⟨pieces, hne, hcs, hdays⟩
    have hcomma : ∀ p ∈ pieces, ',' ∉ p := not_mem_pieces hdays (by decide) (by decide)
    rwa [splitOn_eq_iff.2 ⟨hne, hcomma, hcs⟩]

theorem IsMonth.mem {c : Char} (h : IsMonth cs month) (hc : c ∈ cs) :
    c.isLower = true ∨ c.isDigit = true ∨ c = '+' := by
  obtain ⟨-, -, hnum | ⟨name, hget, hname⟩⟩ := h
  · exact .inr (hnum.mem hc)
  · exact .inl (isLower_of_monthName (List.mem_of_getElem? hget) hname c hc)

theorem monthDay?_eq_some_iff : monthDay? cs = some (month, n) ↔ IsMonthDay cs month n := by
  have hread (m d : List Char) : ((month? m).bind fun month' => (parseUnsigned? maxU32 d).bind fun d =>
      if 1 ≤ d ∧ d ≤ 31 then some (month', d) else none) = some (month, n) ↔
        IsMonth m month ∧ IsUnsigned d n ∧ 1 ≤ n ∧ n ≤ 31 := by
    simp only [Option.bind_eq_some_iff, month?_eq_some_iff, parseUnsigned?_eq_some_iff]
    constructor
    · rintro ⟨month', hmonth, d, ⟨hnum, -⟩, h⟩
      split_ifs at h with hrange
      obtain ⟨rfl, rfl⟩ := Prod.mk.inj (Option.some.inj h)
      exact ⟨hmonth, hnum, hrange⟩
    · rintro ⟨hmonth, hnum, hrange⟩
      exact ⟨month, hmonth, n, ⟨hnum, by unfold maxU32; omega⟩, if_pos hrange⟩
  have hbind : monthDay? cs = (splitFirst? '-' cs).bind fun p => (month? p.1).bind fun month' =>
      (parseUnsigned? maxU32 p.2).bind fun d => if 1 ≤ d ∧ d ≤ 31 then some (month', d) else none := rfl
  simp only [hbind, Option.bind_eq_some_iff (x := splitFirst? '-' cs), hread, Prod.exists, splitFirst?_eq_some_iff]
  refine exists_congr fun m => exists_congr fun d => ?_
  constructor
  · rintro ⟨⟨hcs, -⟩, h⟩
    exact ⟨hcs, h⟩
  · rintro ⟨hcs, hmonth, h⟩
    exact ⟨⟨hcs, fun hmem => absurd (hmonth.mem hmem) (by decide)⟩, hmonth, h⟩

/-! ## Reading offsets -/

theorem unitMinutes?_eq_some_iff : unitMinutes? s = some n ↔ ∃ u ∈ unitNames, u.1 = n ∧ s ∈ u.2 := by
  constructor
  · intro h
    unfold unitMinutes? at h
    split at h <;> cases h <;> decide
  · rintro ⟨u, hu, rfl, hs⟩
    have hall : ∀ u ∈ unitNames, ∀ s ∈ u.2, unitMinutes? s = some u.1 := by decide
    exact hall u hu s hs

theorem isLower_of_unit {u : Nat × List String} (hu : u ∈ unitNames) (hcs : String.ofList cs ∈ u.2) :
    ∃ c ds, cs = c :: ds ∧ c.isLower = true := by
  have hall : ∀ u ∈ unitNames, ∀ s ∈ u.2, (s.toList.head?.any Char.isLower) = true := by decide
  have hhead := hall u hu _ hcs
  rw [String.toList_ofList] at hhead
  cases cs with
  | nil => cases hhead
  | cons c ds => exact ⟨c, ds, rfl, hhead⟩

theorem offsetMinutes?_eq_some_iff : offsetMinutes? cs = some n ↔ IsOffset cs n := by
  have hbind : offsetMinutes? cs = (digitsValue? (digitRun cs)).bind fun value =>
      (unitMinutes? (String.ofList (cs.dropWhile isDecimalDigit))).bind fun unit =>
        if value ≤ maxMinutes ∧ value * unit ≤ maxMinutes then some (value * unit) else none := rfl
  simp only [hbind, Option.bind_eq_some_iff, digitsValue?_eq_some_iff, unitMinutes?_eq_some_iff]
  constructor
  · rintro ⟨value, hvalue, per, hunit, h⟩
    split_ifs at h with hmax
    exact ⟨digitRun cs, cs.dropWhile isDecimalDigit, value, per, List.takeWhile_append_dropWhile.symm, hvalue, hunit,
      (Option.some.inj h).symm, Option.some.inj h ▸ hmax.2⟩
  · rintro ⟨digits, unit, value, per, rfl, hvalue, ⟨u, hu, rfl, hunit⟩, rfl, hmax⟩
    obtain ⟨c, ds, rfl, hc⟩ := isLower_of_unit hu hunit
    have hdigits : ∀ x ∈ digits, isDecimalDigit x = true := fun x hx => isDecimalDigit_of_isDigit (hvalue.2.1 x hx)
    have hpos : ∀ u ∈ unitNames, 0 < u.1 := by decide
    rw [digitRun, takeWhile_append_cons hdigits (isDecimalDigit_of_isLower hc),
      dropWhile_append_cons hdigits (isDecimalDigit_of_isLower hc)]
    exact ⟨value, hvalue, u.1, ⟨u, hu, rfl, hunit⟩,
      if_pos ⟨(Nat.le_mul_of_pos_right value (hpos u hu)).trans hmax, hmax⟩⟩

end
end Schedule
end LivePage
