import LivePage.Proofs.Text.Trim
/-!
# Patterns

A pattern says what a text may start with. Where it leaves a choice it also says which one is preferred: the first of two
patterns, one character more of a run, or one character less if the run is lazy. The ways in which a text can start with a
pattern are listed in the order of preference, and the first of them is the one that is taken.
-/
namespace LivePage.Text

/-- A way in which a text starts with a pattern: what is taken, the groups of it that have a number, and what is left. -/
structure Way where
  taken : List Char
  groups : List (Nat × List Char)
  rest : List Char

namespace Way

def stay (cs : List Char) : Way := ⟨[], [], cs⟩

def andThen (w v : Way) : Way := ⟨w.taken ++ v.taken, w.groups ++ v.groups, v.rest⟩

/-- All that is taken is a group. -/
def named (n : Nat) (w : Way) : Way := { w with groups := (n, w.taken) :: w.groups }

def group? (w : Way) (n : Nat) : Option (List Char) := w.groups.lookup n

end Way

/-- What a text may start with. -/
inductive Pattern where
  | one (p : Char → Bool)
  /-- Characters of a class, any number of them: as many as possible, or as few as possible if the run is lazy. -/
  | run (p : Char → Bool) (isLazy : Bool)
  | seq (first second : Pattern)
  | either (first second : Pattern)
  | nothing
  | group (n : Nat) (inner : Pattern)
  | stop

namespace Pattern

/-- The ways of a run: none of its characters, or the first of them and then the ways of the rest. -/
def runWays (p : Char → Bool) (isLazy : Bool) : List Char → List Way
  | [] => [.stay []]
  | c :: cs =>
    let more := if p c then (runWays p isLazy cs).map (Way.andThen ⟨[c], [], cs⟩) else []
    if isLazy then .stay (c :: cs) :: more else more ++ [.stay (c :: cs)]

/-- The ways in which a text starts with a pattern, the preferred ones first. -/
def ways : Pattern → List Char → List Way
  | one _, [] => []
  | one p, c :: cs => if p c then [⟨[c], [], cs⟩] else []
  | run p isLazy, cs => runWays p isLazy cs
  | seq first second, cs => (first.ways cs).flatMap fun w => (second.ways w.rest).map w.andThen
  | either first second, cs => first.ways cs ++ second.ways cs
  | nothing, cs => [.stay cs]
  | group n inner, cs => (inner.ways cs).map (·.named n)
  | stop, [] => [.stay []]
  | stop, _ :: _ => []

def first? (pattern : Pattern) (cs : List Char) : Option Way := (pattern.ways cs).head?

/-- The characters of a text, one after another. -/
def literal (text : List Char) : Pattern := text.foldr (fun c => seq (one (· == c))) nothing

/-- What a pattern takes, with its groups, where a text is left: the choices, without a preference among them. -/
def Fits : Pattern → List Char → List (Nat × List Char) → List Char → Prop
  | one p, taken, groups, _ => ∃ c, p c = true ∧ taken = [c] ∧ groups = []
  | run p _, taken, groups, _ => (∀ c ∈ taken, p c = true) ∧ groups = []
  | seq first second, taken, groups, rest => ∃ front back frontGroups backGroups,
    taken = front ++ back ∧ groups = frontGroups ++ backGroups ∧
      first.Fits front frontGroups (back ++ rest) ∧ second.Fits back backGroups rest
  | either first second, taken, groups, rest => first.Fits taken groups rest ∨ second.Fits taken groups rest
  | nothing, taken, groups, _ => taken = [] ∧ groups = []
  | group n inner, taken, groups, rest => ∃ more, groups = (n, taken) :: more ∧ inner.Fits taken more rest
  | stop, taken, groups, rest => taken = [] ∧ groups = [] ∧ rest = []

/-- A way that comes after such ways only as leave a text with a property. -/
def Reaches (a : Pattern) (cs : List Char) (w : Way) (passed : List Char → Prop) : Prop :=
  ∃ earlier later, a.ways cs = earlier ++ w :: later ∧ ∀ v ∈ earlier, passed v.rest

section
variable {p : Char → Bool} {a b : Pattern} {cs text taken rest : List Char} {groups : List (Nat × List Char)} {u w : Way}
  {passed skipped : List Char → Prop}

/-! ## What the ways are -/

/-- A run takes characters of its class, with the preference given or not. -/
theorem mem_runWays {isLazy : Bool} : w ∈ runWays p isLazy cs ↔
    cs = w.taken ++ w.rest ∧ (run p isLazy).Fits w.taken w.groups w.rest := by
  obtain ⟨taken, groups, rest⟩ := w
  rw [Fits]
  induction cs generalizing taken with
  | nil =>
    rw [runWays, List.mem_singleton, Way.stay, Way.mk.injEq]
    constructor
    · rintro ⟨rfl, rfl, rfl⟩
      exact ⟨rfl, by simp, rfl⟩
    · rintro ⟨hcs, -, rfl⟩
      obtain ⟨rfl, rfl⟩ := List.append_eq_nil_iff.1 hcs.symm
      exact ⟨rfl, rfl, rfl⟩
  | cons c cs ih =>
    have hmem : ⟨taken, groups, rest⟩ ∈ runWays p isLazy (c :: cs) ↔
        (taken = [] ∧ groups = [] ∧ rest = c :: cs) ∨
          p c = true ∧ ∃ v ∈ runWays p isLazy cs, taken = c :: v.taken ∧ groups = v.groups ∧ rest = v.rest := by
      by_cases hc : p c = true <;> cases isLazy <;>
        simp [runWays, hc, Way.stay, Way.andThen, or_comm, eq_comm]
    rw [hmem]
    constructor
    · rintro (⟨rfl, rfl, rfl⟩ | ⟨hc, ⟨more, _, _⟩, hmore, rfl, rfl, rfl⟩)
      · exact ⟨rfl, by simp, rfl⟩
      · obtain ⟨hcs, htaken, hgroups⟩ := (ih more).1 hmore
        exact ⟨congrArg (c :: ·) hcs, List.forall_mem_cons.2 ⟨hc, htaken⟩, hgroups⟩
    · rintro ⟨hcs, htaken, rfl⟩
      cases taken with
      | nil => exact .inl ⟨rfl, rfl, hcs.symm⟩
      | cons d more =>
        obtain ⟨rfl, hcs⟩ := List.cons.inj hcs
        obtain ⟨hc, hmore⟩ := List.forall_mem_cons.1 htaken
        exact .inr ⟨hc, ⟨more, [], rest⟩, (ih more).2 ⟨hcs, hmore, rfl⟩, rfl, rfl, rfl⟩

theorem mem_ways : w ∈ a.ways cs ↔ cs = w.taken ++ w.rest ∧ a.Fits w.taken w.groups w.rest := by
  induction a generalizing cs w with
  | one p =>
    obtain ⟨taken, groups, rest⟩ := w
    rw [Fits]
    cases cs with
    | nil =>
      refine iff_of_false List.not_mem_nil ?_
      rintro ⟨hcs, c, -, rfl, -⟩
      cases hcs
    | cons d ds =>
      rw [ways]
      split_ifs with hd
      · rw [List.mem_singleton, Way.mk.injEq]
        constructor
        · rintro ⟨rfl, rfl, rfl⟩
          exact ⟨rfl, d, hd, rfl, rfl⟩
        · rintro ⟨hcs, c, -, rfl, rfl⟩
          obtain ⟨rfl, rfl⟩ := List.cons.inj hcs
          exact ⟨rfl, rfl, rfl⟩
      · refine iff_of_false List.not_mem_nil ?_
        rintro ⟨hcs, c, hc, rfl, -⟩
        exact hd ((List.cons.inj hcs).1 ▸ hc)
  | run p isLazy => exact mem_runWays
  | seq a b iha ihb =>
    -- The first part leaves what the second one takes, so a way is cut after what the first one takes.
    simp only [ways, List.mem_flatMap, List.mem_map, iha, ihb, Fits]
    constructor
    · rintro ⟨u, ⟨hcs, hu⟩, v, ⟨hrest, hv⟩, rfl⟩
      rw [hrest] at hcs hu
      exact ⟨by rw [hcs]; exact (List.append_assoc ..).symm, u.taken, v.taken, u.groups, v.groups, rfl, rfl, hu, hv⟩
    · rintro ⟨hcs, front, back, frontGroups, backGroups, htaken, hgroups, hfront, hback⟩
      refine ⟨⟨front, frontGroups, back ++ w.rest⟩, ⟨?_, hfront⟩, ⟨back, backGroups, w.rest⟩, ⟨rfl, hback⟩, ?_⟩
      · rw [hcs, htaken, List.append_assoc]
      · rw [Way.andThen, ← htaken, ← hgroups]
  | either a b iha ihb =>
    rw [ways, List.mem_append, iha, ihb, Fits, and_or_left]
  | nothing =>
    obtain ⟨taken, groups, rest⟩ := w
    rw [ways, List.mem_singleton, Way.stay, Way.mk.injEq, Fits]
    constructor
    · rintro ⟨rfl, rfl, rfl⟩
      exact ⟨rfl, rfl, rfl⟩
    · rintro ⟨hcs, rfl, rfl⟩
      exact ⟨rfl, rfl, hcs.symm⟩
  | group n a ih =>
    simp only [ways, List.mem_map, ih, Fits]
    constructor
    · rintro ⟨u, ⟨hcs, hu⟩, rfl⟩
      exact ⟨hcs, u.groups, rfl, hu⟩
    · rintro ⟨hcs, more, hgroups, hfits⟩
      exact ⟨⟨w.taken, more, w.rest⟩, ⟨hcs, hfits⟩, by rw [Way.named, ← hgroups]⟩
  | stop =>
    obtain ⟨taken, groups, rest⟩ := w
    rw [Fits]
    cases cs with
    | nil =>
      rw [ways, List.mem_singleton, Way.stay, Way.mk.injEq]
      refine ⟨?_, fun h => h.2⟩
      rintro ⟨rfl, rfl, rfl⟩
      exact ⟨rfl, rfl, rfl, rfl⟩
    | cons c cs =>
      refine iff_of_false List.not_mem_nil ?_
      rintro ⟨hcs, rfl, -, rfl⟩
      cases hcs

theorem fits_literal : (literal text).Fits taken groups rest ↔ taken = text ∧ groups = [] := by
  induction text generalizing taken groups with
  | nil => exact Iff.rfl
  | cons c text ih =>
    change (seq (one (· == c)) (literal text)).Fits taken groups rest ↔ _
    simp only [Fits, ih, beq_iff_eq]
    constructor
    · rintro ⟨_, _, _, _, rfl, rfl, ⟨_, rfl, rfl, rfl⟩, rfl, rfl⟩
      exact ⟨rfl, rfl⟩
    · rintro ⟨rfl, rfl⟩
      exact ⟨[c], text, [], [], rfl, rfl, ⟨c, rfl, rfl, rfl⟩, rfl, rfl⟩

/-- The one way that there is is taken. -/
theorem first?_eq_some (hmem : w ∈ a.ways cs) (hall : ∀ v ∈ a.ways cs, v = w) : a.first? cs = some w := by
  rw [first?]
  cases hways : a.ways cs with
  | nil =>
    rw [hways] at hmem
    cases hmem
  | cons v others => exact congrArg some (hall v (hways ▸ List.mem_cons_self))

/-! ## Which way is preferred -/

theorem ways_one_seq (c : Char) (cs : List Char) :
    (seq (one p) b).ways (c :: cs) = if p c then (b.ways cs).map (Way.andThen ⟨[c], [], cs⟩) else [] := by
  rw [ways, ways]
  split_ifs <;> simp

theorem first?_eq_some_iff : a.first? cs = some w ↔ a.Reaches cs w fun _ => False := by
  constructor
  · intro h
    obtain ⟨later, hways⟩ := List.head?_eq_some_iff.1 h
    exact ⟨[], later, hways, by simp⟩
  · rintro ⟨earlier, later, hways, hearlier⟩
    rw [first?, hways, List.eq_nil_iff_forall_not_mem.2 hearlier]
    rfl

theorem reaches_one {c : Char} (hc : p c = true) : (one p).Reaches (c :: cs) ⟨[c], [], cs⟩ fun _ => False :=
  ⟨[], [], if_pos hc, by simp⟩

theorem Reaches.either (h : a.Reaches cs w passed) : (Pattern.either a b).Reaches cs w passed := by
  obtain ⟨earlier, later, hways, hearlier⟩ := h
  exact ⟨earlier, later ++ b.ways cs, by rw [ways, hways, List.append_assoc, List.cons_append], hearlier⟩

theorem Reaches.group (n : Nat) (h : a.Reaches cs w passed) : (Pattern.group n a).Reaches cs (w.named n) passed := by
  obtain ⟨earlier, later, hways, hearlier⟩ := h
  refine ⟨earlier.map (Way.named n), later.map (Way.named n), ?_, List.forall_mem_map.2 hearlier⟩
  rw [ways, hways, List.map_append, List.map_cons]

/-- Ways after which nothing fits are passed over. -/
theorem Reaches.seq (ha : a.Reaches cs u skipped) (hskip : ∀ rest, skipped rest → b.ways rest = [])
    (hb : b.Reaches u.rest w passed) : (Pattern.seq a b).Reaches cs (u.andThen w) passed := by
  obtain ⟨earlier, later, hways, hearlier⟩ := ha
  obtain ⟨before, after, hnext, hbefore⟩ := hb
  have hnone : (earlier.flatMap fun w => (b.ways w.rest).map w.andThen) = [] := by
    rw [List.flatMap_eq_nil_iff]
    exact fun v hv => by rw [hskip _ (hearlier v hv)]; rfl
  refine ⟨before.map u.andThen, after.map u.andThen ++ later.flatMap fun w => (b.ways w.rest).map w.andThen, ?_,
    List.forall_mem_map.2 hbefore⟩
  rw [ways, hways, List.flatMap_append, hnone, List.nil_append, List.flatMap_cons, hnext, List.map_append, List.map_cons,
    List.append_assoc, List.cons_append]

/-- A run that is not lazy takes all that it can. Each other way leaves a character that it could have taken. -/
theorem ways_run (p : Char → Bool) (cs : List Char) : ∃ others, (run p false).ways cs =
    ⟨cs.takeWhile p, [], cs.dropWhile p⟩ :: others ∧ ∀ v ∈ others, ∃ c rest, v.rest = c :: rest ∧ p c = true := by
  rw [ways]
  induction cs with
  | nil => exact ⟨[], rfl, by simp⟩
  | cons c cs ih =>
    obtain ⟨others, hways, hothers⟩ := ih
    by_cases hc : p c = true
    · refine ⟨others.map (Way.andThen ⟨[c], [], cs⟩) ++ [.stay (c :: cs)], ?_, fun v hv => ?_⟩
      · rw [List.takeWhile_cons_of_pos hc, List.dropWhile_cons_of_pos hc]
        simp [runWays, hc, hways, Way.andThen]
      · rcases List.mem_append.1 hv with hv | hv
        · obtain ⟨u, hu, rfl⟩ := List.mem_map.1 hv
          exact hothers u hu
        · rw [List.mem_singleton.1 hv]
          exact ⟨c, cs, rfl, hc⟩
    · refine ⟨[], ?_, by simp⟩
      rw [List.takeWhile_cons_of_neg hc, List.dropWhile_cons_of_neg hc]
      simp [runWays, hc, Way.stay]

/-- A run that is followed by what starts with no character of its class takes all that it can. -/
theorem ways_run_seq (hb : ∀ c cs, p c = true → b.ways (c :: cs) = []) (cs : List Char) :
    (seq (run p false) b).ways cs =
      (b.ways (cs.dropWhile p)).map (Way.andThen ⟨cs.takeWhile p, [], cs.dropWhile p⟩) := by
  obtain ⟨others, hways, hothers⟩ := ways_run p cs
  have hnone : (others.flatMap fun w => (b.ways w.rest).map w.andThen) = [] := by
    rw [List.flatMap_eq_nil_iff]
    intro v hv
    obtain ⟨c, rest, hrest, hc⟩ := hothers v hv
    rw [hrest, hb c rest hc]
    rfl
  rw [ways, hways, List.flatMap_cons, hnone, List.append_nil]

/-- The same with a run of one character or more. -/
theorem ways_some_seq (hb : ∀ c cs, p c = true → b.ways (c :: cs) = []) (cs : List Char) :
    (seq (one p) (seq (run p false) b)).ways cs = if (cs.takeWhile p).isEmpty then [] else
      (b.ways (cs.dropWhile p)).map (Way.andThen ⟨cs.takeWhile p, [], cs.dropWhile p⟩) := by
  cases cs with
  | nil => rfl
  | cons c cs =>
    rw [ways_one_seq]
    by_cases hc : p c = true
    · rw [if_pos hc, List.takeWhile_cons_of_pos hc, List.dropWhile_cons_of_pos hc, ways_run_seq hb, List.map_map]
      rfl
    · rw [if_neg hc, List.takeWhile_cons_of_neg hc]
      rfl

theorem reaches_run : (run p false).Reaches cs ⟨cs.takeWhile p, [], cs.dropWhile p⟩ fun _ => False := by
  obtain ⟨others, hways, -⟩ := ways_run p cs
  exact ⟨[], others, hways, by simp⟩

/-- A lazy run comes to a place only after all places before it. -/
theorem reaches_lazy {front : List Char} (hfront : ∀ c ∈ front, p c = true) (back : List Char) :
    (run p true).Reaches (front ++ back) ⟨front, [], back⟩
      fun rest => ∃ taken left, left ≠ [] ∧ front = taken ++ left ∧ rest = left ++ back := by
  rw [Reaches, ways]
  induction front with
  | nil =>
    obtain ⟨later, hlater⟩ : ∃ later, runWays p true back = .stay back :: later := by
      cases back with
      | nil => exact ⟨[], rfl⟩
      | cons c back => exact ⟨_, rfl⟩
    exact ⟨[], later, hlater, by simp⟩
  | cons c front ih =>
    obtain ⟨hc, hfront⟩ := List.forall_mem_cons.1 hfront
    obtain ⟨earlier, later, hways, hearlier⟩ := ih hfront
    refine ⟨.stay (c :: front ++ back) :: earlier.map (Way.andThen ⟨[c], [], front ++ back⟩),
      later.map (Way.andThen ⟨[c], [], front ++ back⟩), ?_, ?_⟩
    · rw [List.cons_append, runWays, if_pos hc, hways]
      simp [Way.andThen]
    · rw [List.forall_mem_cons, List.forall_mem_map]
      refine ⟨⟨[], c :: front, by simp, rfl, rfl⟩, fun v hv => ?_⟩
      obtain ⟨taken, left, hne, hleft, hrest⟩ := hearlier v hv
      exact ⟨c :: taken, left, hne, congrArg (c :: ·) hleft, hrest⟩

end

end Pattern

end LivePage.Text
