import LivePage.HeadingId
import LivePage.Proofs.Block.Collect
import Mathlib.Data.Finset.Dedup
import Mathlib.Data.List.Forall2
/-!
# What heading ids change

Giving ids to headings changes nothing about a page but that: every event stays at its place, and a heading without an
id may have one afterwards. A heading gets its anchor just where no other heading has that id in the end.
-/
namespace LivePage

open Markdown

/-- An event after ids were given: itself, or a heading that had no id. -/
inductive GainsId : Event → Event → Prop
  | same (e : Event) : GainsId e e
  | id {level : Nat} {h : HeadingAttributes} (hnone : h.id = none) (id : HeadingName) :
      GainsId (.start (.heading level h)) (.start (.heading level { h with id := some id }))

theorem GainsId.shape {e e' : Event} (h : GainsId e e') : e.shape = e'.shape := by
  cases h <;> rfl

namespace HeadingId

/-- **Only ids are given**, and only to headings without one. -/
theorem assign_gainsId (taken : List String) (inside : Bool) (events : List Event) :
    List.Forall₂ GainsId events (assign taken inside events) := by
  fun_induction assign taken inside events with
  | case1 => exact .nil
  | case2 taken e rest ih => exact .cons (.same e) ih
  | case3 taken rest level h id hid ih => exact .cons (.same _) ih
  | case4 taken rest level h hid base hbase ih => exact .cons (.same _) ih
  | case5 taken rest level h hid base hbase id ih => exact .cons (.id hid _) ih
  | case6 taken e rest hheading ih => exact .cons (.same e) ih

end HeadingId

theorem map_shape_of_gainsId {events events' : List Event} (h : List.Forall₂ GainsId events events') :
    events.map (·.shape) = events'.map (·.shape) := by
  induction h with
  | nil => rfl
  | cons h _ ih => rw [List.map_cons, List.map_cons, h.shape, ih]

/-! ## Numbers that make ids free -/

namespace HeadingId

variable {taken : List String} {base : String}

theorem numbered_injective (base : String) : Function.Injective (numbered base) := by
  have hdigits {m n : Nat} (h : toString m = toString n) : m = n := by
    have hread := congrArg (fun s : String => Nat.ofDigitChars 10 s.toList 0) h
    simpa [Nat.toString_eq_repr, Nat.toList_repr] using hread
  have hzero (n : Nat) : base ≠ base ++ "-" ++ toString n := fun h => by
    have hlength := congrArg (·.toList.length) h
    simp only [String.toList_append, List.length_append] at hlength
    have hhyphen : "-".toList.length = 1 := rfl
    omega
  intro m n h
  unfold numbered at h
  split_ifs at h with hm hn hn
  · rw [hm, hn]
  · exact absurd h (hzero n)
  · exact absurd h.symm (hzero m)
  · exact hdigits ((String.append_right_inj _).1 h)

/-- One number more than there are ids that are taken is enough, so the search for a free one ends, at the least. -/
theorem exists_least (taken : List String) (base : String) :
    ∃ n, fresh taken base = numbered base n ∧ numbered base n ∉ taken ∧ ∀ m < n, numbered base m ∈ taken := by
  unfold fresh
  cases hfind : ((List.range (taken.length + 1)).map (numbered base)).find? (!taken.contains ·) with
  | none =>
    have hsubset : (List.range (taken.length + 1)).map (numbered base) ⊆ taken := fun id hid => by
      simpa using List.find?_eq_none.1 hfind id hid
    have hnodup : ((List.range (taken.length + 1)).map (numbered base)).Nodup :=
      List.nodup_range.map (numbered_injective base)
    have hlength := hnodup.length_le_of_subset hsubset
    rw [List.length_map, List.length_range] at hlength
    omega
  | some id =>
    obtain ⟨hfree, n, hn, hid, hbefore⟩ := List.find?_eq_some_iff_getElem.1 hfind
    rw [List.getElem_map, List.getElem_range] at hid
    subst hid
    refine ⟨n, rfl, by simpa using hfree, fun m hm => ?_⟩
    simpa using hbefore m hm

theorem fresh_not_mem (taken : List String) (base : String) : fresh taken base ∉ taken := by
  obtain ⟨n, hn, hfree, -⟩ := exists_least taken base
  rwa [hn]

/-- A heading gets its anchor as it is just where that is not taken. -/
theorem fresh_eq_self_iff : fresh taken base = base ↔ base ∉ taken := by
  constructor
  · intro h
    rw [← h]
    exact fresh_not_mem taken base
  · intro h
    rw [fresh, List.range_succ_eq_map, List.map_cons, List.find?_cons_of_pos (by simpa [numbered] using h)]
    rfl

/-! ## Ids of other headings -/

variable {inside opened : Bool} {events before rest : List Event} {e e' : Event} {a : String}

theorem explicit_cons (e : Event) (rest : List Event) : explicit (e :: rest) = explicit [e] ++ explicit rest := by
  rw [explicit, ← List.singleton_append, List.filterMap_append]
  rfl

theorem explicit_cons_of_ne (h : ∀ level attributes, e ≠ .start (.heading level attributes)) (rest : List Event) :
    explicit (e :: rest) = explicit rest := by
  refine List.filterMap_cons_none ?_
  split
  · exact absurd rfl (h _ _)
  · rfl

theorem explicit_append (before rest : List Event) : explicit (before ++ rest) = explicit before ++ explicit rest :=
  List.filterMap_append

theorem explicit_subset_of_gainsId (h : List.Forall₂ GainsId before events) (ha : a ∈ explicit before) :
    a ∈ explicit events := by
  induction h with
  | nil => exact ha
  | @cons e e' before events he _ ih =>
    rw [explicit_cons, List.mem_append] at ha ⊢
    refine ha.imp (fun ha => ?_) ih
    cases he with
    | same => exact ha
    | id hnone id => simp [explicit, hnone] at ha

/-- An id of the page was written by an author or was not taken. -/
theorem mem_explicit_assign (h : a ∈ explicit (assign taken inside rest)) : a ∈ explicit rest ∨ a ∉ taken := by
  have hlater {e : Event} {rest out : List Event} {taken : List String}
      (ih : a ∈ explicit out → a ∈ explicit rest ∨ a ∉ taken) (h : a ∈ explicit (e :: out)) :
      a ∈ explicit (e :: rest) ∨ a ∉ taken := by
    rw [explicit_cons, List.mem_append] at h ⊢
    rcases h with h | h
    · exact .inl (.inl h)
    · exact (ih h).imp_left .inr
  fun_induction assign taken inside rest with
  | case1 => exact .inl h
  | case2 taken e rest ih => exact hlater ih h
  | case3 taken rest level h' id hid ih => exact hlater ih h
  | case4 taken rest level h' hid base hbase ih => exact hlater ih h
  | case5 taken rest level h' hid base hbase id ih =>
    rw [explicit_cons, List.mem_append] at h ⊢
    rcases h with h | h
    · obtain rfl : a = id := by simpa [explicit] using h
      exact .inr (fresh_not_mem taken base)
    · exact (ih h).imp .inr fun hfree hmem => hfree (List.mem_cons_of_mem _ hmem)
  | case6 taken e rest hheading ih => exact hlater ih h

theorem assign_other (h : ∀ level a, e ≠ .start (.heading level a)) :
    assign taken false (e :: rest) = e :: assign taken false rest := by
  rw [assign]
  exact h

/-- A heading with words but no id gets its anchor, with a number if that is taken. -/
theorem assign_heading (taken : List String) (level : Nat) {h : HeadingAttributes} (hid : h.id = none)
    (hwords : slugify (words rest) ≠ "") :
    ∃ id : HeadingName, id.text = fresh taken (slugify (words rest)) ∧
      assign taken false (.start (.heading level h) :: rest) =
        .start (.heading level { h with id := some id }) :: assign (id.text :: taken) true rest := by
  refine ⟨⟨fresh taken (slugify (words rest)), oneLine_fresh (oneLine_slugify _) _⟩, rfl, ?_⟩
  simp only [assign, hid]
  exact if_neg fun hempty => hwords (String.isEmpty_iff.1 hempty)

theorem assign_wordless (taken : List String) (level : Nat) {h : HeadingAttributes} (hid : h.id = none)
    (hwords : slugify (words rest) = "") :
    assign taken false (.start (.heading level h) :: rest) = .start (.heading level h) :: assign taken true rest := by
  simp only [assign, hid]
  exact if_pos (String.isEmpty_iff.2 hwords)

/-! ## Place by place -/

end HeadingId

/-- Whether a heading without an id of its own is open after an event. All that comes before it closes is its
content. -/
def Markdown.Event.namelessAfter (opened : Bool) : Event → Bool
  | .start (.heading _ h) => opened || h.id.isNone
  | e => opened && !e.closesHeading

namespace HeadingId

/-- Whether a heading without an id of its own is open after some events. -/
def namelessOpen (events : List Event) : Bool := events.foldl (fun opened e => e.namelessAfter opened) false

theorem namelessAfter_true (e : Event) : e.namelessAfter true = !e.closesHeading := by
  unfold Event.namelessAfter
  split
  · rfl
  · rfl

/-- One event with its id: what is open after it, and the ids that are taken. -/
theorem assign_cons (inside : Bool) (hexplicit : ∀ a ∈ explicit [e], a ∈ taken) (rest : List Event) :
    ∃ e' taken', assign taken inside (e :: rest) = e' :: assign taken' (e.namelessAfter inside) rest ∧
      ∀ a, a ∈ taken' ↔ a ∈ taken ∨ a ∈ explicit [e'] := by
  have hsame : ∀ a, a ∈ taken ↔ a ∈ taken ∨ a ∈ explicit [e] := fun a =>
    ⟨Or.inl, fun h => h.elim id (hexplicit a)⟩
  -- What is taken after the event: the same, unless it is a heading that gets an id.
  cases inside with
  | true => exact ⟨e, taken, by rw [assign, namelessAfter_true], hsame⟩
  | false =>
    by_cases hheading : ∃ level h, e = .start (.heading level h)
    · obtain ⟨level, h, rfl⟩ := hheading
      cases hid : h.id with
      | some id => exact ⟨_, taken, by simp only [assign, Event.namelessAfter, hid]; rfl, hsame⟩
      | none =>
        have hopen : Event.namelessAfter false (.start (.heading level h)) = true := by
          rw [Event.namelessAfter, hid]
          rfl
        rw [hopen]
        by_cases hwords : slugify (words rest) = ""
        · exact ⟨_, taken, assign_wordless taken level hid hwords, hsame⟩
        · obtain ⟨id, -, hassign⟩ := assign_heading taken level hid hwords
          refine ⟨_, _, hassign, fun a => ?_⟩
          rw [List.mem_cons, or_comm]
          simp [explicit]
    · have hother : ∀ level h, e ≠ .start (.heading level h) := fun level h he => hheading ⟨level, h, he⟩
      have hclosed : e.namelessAfter false = false := by
        unfold Event.namelessAfter
        split
        · exact absurd rfl (hother _ _)
        · rfl
      exact ⟨e, taken, by rw [assign_other hother, hclosed], hsame⟩

/-- Events with ids up to some place: what is taken there is what was taken before and what headings have got. -/
theorem assign_append (inside : Bool) (hexplicit : ∀ a ∈ explicit before, a ∈ taken) (rest : List Event) :
    ∃ front taken', assign taken inside (before ++ rest) =
        front ++ assign taken' (before.foldl (fun opened e => e.namelessAfter opened) inside) rest ∧
      front.length = before.length ∧ ∀ a, a ∈ taken' ↔ a ∈ taken ∨ a ∈ explicit front := by
  induction before generalizing taken inside with
  | nil => exact ⟨[], taken, rfl, rfl, fun a => by simp [explicit]⟩
  | cons e before ih =>
    rw [explicit_cons] at hexplicit
    obtain ⟨e', taken₁, hcons, htaken₁⟩ :=
      assign_cons inside (fun a ha => hexplicit a (List.mem_append_left _ ha)) (before ++ rest)
    obtain ⟨front, taken₂, happend, hlength, htaken₂⟩ :=
      ih (e.namelessAfter inside) fun a ha => (htaken₁ a).2 (.inl (hexplicit a (List.mem_append_right _ ha)))
    refine ⟨e' :: front, taken₂, by rw [List.cons_append, hcons, happend]; rfl, by simp [hlength], fun a => ?_⟩
    rw [htaken₂, htaken₁, explicit_cons e' front, List.mem_append, or_assoc]

end HeadingId

/-- Ids are given up to some place of a page, where authors' ids and those of the headings before it are taken. -/
theorem assignHeadingIds_append {events before rest : List Event} (hevents : events = before ++ rest) :
    ∃ front taken, assignHeadingIds events = front ++ HeadingId.assign taken (HeadingId.namelessOpen before) rest ∧
      front.length = before.length ∧ List.Forall₂ GainsId before front ∧
      ∀ a, a ∈ taken ↔ a ∈ HeadingId.explicit events ∨ a ∈ HeadingId.explicit front := by
  have hexplicit : ∀ a ∈ HeadingId.explicit before, a ∈ HeadingId.explicit events := fun a ha => by
    rw [hevents, HeadingId.explicit_append]
    exact List.mem_append_left _ ha
  obtain ⟨front, taken, happend, hlength, htaken⟩ := HeadingId.assign_append false hexplicit rest
  have hassign : assignHeadingIds events = front ++ HeadingId.assign taken (HeadingId.namelessOpen before) rest := by
    rw [HeadingId.namelessOpen, ← happend, ← hevents]
    rfl
  have hgains : List.Forall₂ GainsId events (assignHeadingIds events) := HeadingId.assign_gainsId _ _ _
  rw [hassign] at hgains
  have hfront := List.forall₂_take_append _ _ _ hgains
  rw [hlength, hevents, List.take_left] at hfront
  exact ⟨front, taken, hassign, hlength, hfront, htaken⟩

end LivePage
