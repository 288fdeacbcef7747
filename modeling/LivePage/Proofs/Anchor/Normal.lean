import LivePage.Proofs.Anchor
import LivePage.Proofs.HeadingId
import LivePage.Task.Line
/-!
# Anchors are in normal form

An anchor is runs of letters and numbers with one hyphen between each two. It can be made in one pass over the text,
which remembers whether other characters were passed since the last letter or number. Lower case is reached in one step
by every character, so the anchor of an anchor is the anchor itself.
-/
namespace LivePage

open Text Markdown

/-! ## Runs -/

/-- A text made of runs of letters and numbers with one hyphen between each two. -/
structure JoinsRuns (runs : List (List Char)) (cs : List Char) : Prop where
  ne_nil : ∀ run ∈ runs, run ≠ []
  alphanumeric : ∀ run ∈ runs, ∀ c ∈ run, isAlphanumeric c = true
  joined : cs = ['-'].intercalate runs

/-- No hyphen is at an end of a text, and no two are in a row. -/
structure HyphensApart (cs : List Char) : Prop where
  first : cs.head? ≠ some '-'
  last : cs.getLast? ≠ some '-'
  apart : ¬ ['-', '-'] <:+: cs

section
variable {runs : List (List Char)} {run cs : List Char}

theorem isAlphanumeric_hyphen : isAlphanumeric '-' = false := by decide +kernel

theorem hyphen_not_mem (h : ∀ c ∈ run, isAlphanumeric c = true) : '-' ∉ run := fun hmem =>
  absurd (isAlphanumeric_hyphen.symm.trans (h _ hmem)) Bool.false_ne_true

theorem HyphensApart.of_not_mem (h : '-' ∉ cs) : HyphensApart cs where
  first hfirst := h (List.mem_of_head? hfirst)
  last hlast := h (List.mem_of_getLast? hlast)
  apart hfound := h (hfound.mem List.mem_cons_self)

/-- A run in front of a text, with a hyphen between the two, leaves the hyphens apart. -/
theorem HyphensApart.cons (h : HyphensApart cs) (hcs : cs ≠ []) (hne : run ≠ []) (hrun : '-' ∉ run) :
    HyphensApart (run ++ '-' :: cs) where
  first hfirst := by
    obtain ⟨c, run, rfl⟩ := List.exists_cons_of_ne_nil hne
    exact hrun (Option.some.inj hfirst ▸ List.mem_cons_self)
  last hlast := by
    obtain ⟨c, cs, rfl⟩ := List.exists_cons_of_ne_nil hcs
    rw [List.getLast?_append, List.getLast?_cons_cons] at hlast
    exact h.last (by simpa [List.getLast?_cons] using hlast)
  apart := by
    induction run with
    | nil => exact absurd rfl hne
    | cons c run ih =>
      intro hinfix
      rw [List.mem_cons, not_or] at hrun
      rcases List.infix_cons_iff.1 hinfix with hpre | hinfix
      · exact hrun.1 (List.cons_prefix_cons.1 hpre).1
      · by_cases hrest : run = []
        · subst hrest
          rcases List.infix_cons_iff.1 hinfix with hpre | hinfix
          · obtain ⟨rest, rfl⟩ := (List.cons_prefix_cons.1 hpre).2
            exact h.first rfl
          · exact h.apart hinfix
        · exact ih hrest hrun.2 hinfix

theorem JoinsRuns.tail {next : List Char} (h : JoinsRuns (run :: next :: runs) cs) :
    ∃ rest, JoinsRuns (next :: runs) rest ∧ rest ≠ [] ∧ cs = run ++ '-' :: rest := by
  refine ⟨['-'].intercalate (next :: runs), ⟨fun r hr => h.ne_nil r (List.mem_cons_of_mem _ hr), fun r hr =>
    h.alphanumeric r (List.mem_cons_of_mem _ hr), rfl⟩, fun hnil => ?_, ?_⟩
  · have hnext := h.ne_nil next (List.mem_cons_of_mem _ List.mem_cons_self)
    cases runs with
    | nil => exact hnext (by simpa using hnil)
    | cons r runs => simp [List.intercalate_cons_cons] at hnil
  · rw [h.joined, List.intercalate_cons_cons, List.append_assoc, List.singleton_append]

theorem JoinsRuns.hyphensApart (h : JoinsRuns runs cs) : HyphensApart cs := by
  induction runs generalizing cs with
  | nil =>
    obtain rfl : cs = [] := h.joined
    exact .of_not_mem List.not_mem_nil
  | cons run runs ih =>
    have hrun := hyphen_not_mem (h.alphanumeric run List.mem_cons_self)
    cases runs with
    | nil =>
      obtain rfl : cs = run := by simpa using h.joined
      exact .of_not_mem hrun
    | cons next runs =>
      obtain ⟨rest, hrest, hne, rfl⟩ := h.tail
      exact (ih hrest).cons hne (h.ne_nil run List.mem_cons_self) hrun

theorem JoinsRuns.eq_nil (h : JoinsRuns runs []) : runs = [] := by
  cases runs with
  | nil => rfl
  | cons run runs =>
    cases runs with
    | nil => exact absurd (by simpa using h.joined.symm) (h.ne_nil run List.mem_cons_self)
    | cons next runs =>
      obtain ⟨rest, -, -, heq⟩ := h.tail
      simp at heq

theorem intercalate_concat (hne : runs ≠ []) (run : List Char) :
    ['-'].intercalate (runs ++ [run]) = ['-'].intercalate runs ++ '-' :: run := by
  induction runs with
  | nil => exact absurd rfl hne
  | cons r runs ih =>
    cases runs with
    | nil => simp [List.intercalate_cons_cons]
    | cons next runs =>
      have hrest := ih (by simp)
      rw [List.cons_append] at hrest
      rw [List.cons_append, List.cons_append, List.intercalate_cons_cons, hrest, List.intercalate_cons_cons,
        List.append_assoc _ (['-'].intercalate _)]

/-- What is added to the last run is added to the text. -/
theorem intercalate_concat_append (runs : List (List Char)) (run more : List Char) :
    ['-'].intercalate (runs ++ [run ++ more]) = ['-'].intercalate (runs ++ [run]) ++ more := by
  by_cases hne : runs = []
  · simp [hne]
  · rw [intercalate_concat hne, intercalate_concat hne, List.append_assoc, List.cons_append]

end

/-! ## The runs of a text -/

/-- The runs of letters and numbers of a text. -/
def runsOf (cs : List Char) : List (List Char) := (cs.splitOnP (!isAlphanumeric ·)).filter (!·.isEmpty)

section
variable {runs : List (List Char)} {run front cs : List Char} {c : Char}

theorem joinsRuns_runsOf (cs : List Char) : JoinsRuns (runsOf cs) (['-'].intercalate (runsOf cs)) where
  ne_nil run hrun := by simpa using (List.mem_filter.1 hrun).2
  alphanumeric run hrun c hc := by simpa using eq_false_of_mem_splitOnP (List.mem_filter.1 hrun).1 c hc
  joined := rfl

theorem runsOf_run (hne : run ≠ []) (hrun : ∀ c ∈ run, isAlphanumeric c = true) : runsOf run = [run] := by
  rw [runsOf, List.splitOnP_eq_singleton fun c hc => by rw [hrun c hc]; rfl]
  simp [hne]

theorem runsOf_append_cons (hc : isAlphanumeric c = false) (before after : List Char) :
    runsOf (before ++ c :: after) = runsOf before ++ runsOf after := by
  rw [runsOf, List.splitOnP_append_cons before after (by rw [hc]; rfl), List.filter_append]
  rfl

theorem runsOf_concat (hc : isAlphanumeric c = false) (cs : List Char) : runsOf (cs ++ [c]) = runsOf cs :=
  words_append_separators (List.forall_mem_singleton.2 (by rw [hc]; rfl)) cs

/-- A run at the end of a text, up to a character that is none of it. -/
theorem runsOf_append_run (hfront : front.getLast?.all (!isAlphanumeric ·) = true) (hne : run ≠ [])
    (hrun : ∀ c ∈ run, isAlphanumeric c = true) : runsOf (front ++ run) = runsOf front ++ [run] := by
  rcases List.eq_nil_or_concat front with rfl | ⟨before, c, rfl⟩
  · exact runsOf_run hne hrun
  · rw [List.concat_eq_append] at hfront ⊢
    have hc : isAlphanumeric c = false := by simpa using hfront
    rw [List.append_assoc, List.singleton_append, runsOf_append_cons hc, runsOf_run hne hrun, runsOf_concat hc]

/-- A text is cut before the run at its end. -/
theorem exists_run_at_end (cs : List Char) : ∃ front run, cs = front ++ run ∧
    front.getLast?.all (!isAlphanumeric ·) = true ∧ ∀ c ∈ run, isAlphanumeric c = true := by
  refine ⟨cs.rdropWhile isAlphanumeric, cs.rtakeWhile isAlphanumeric, List.rdropWhile_append_rtakeWhile.symm, ?_,
    fun c hc => List.mem_rtakeWhile_imp hc⟩
  rw [Option.all_eq_true]
  intro c hc
  have hne : cs.rdropWhile isAlphanumeric ≠ [] := List.ne_nil_of_mem (List.mem_of_getLast? hc)
  have hlast := List.rdropWhile_last_not isAlphanumeric cs hne
  rw [List.getLast?_eq_some_getLast hne] at hc
  rw [← Option.some.inj hc]
  simpa using hlast

theorem JoinsRuns.runsOf_eq (h : JoinsRuns runs cs) : runsOf cs = runs := by
  induction runs generalizing cs with
  | nil =>
    obtain rfl : cs = [] := h.joined
    rfl
  | cons run runs ih =>
    have hrun := runsOf_run (h.ne_nil run List.mem_cons_self) (h.alphanumeric run List.mem_cons_self)
    cases runs with
    | nil =>
      obtain rfl : cs = run := by simpa using h.joined
      exact hrun
    | cons next runs =>
      obtain ⟨rest, hrest, -, rfl⟩ := h.tail
      rw [runsOf_append_cons isAlphanumeric_hyphen, hrun, ih hrest]
      rfl

end

/-! ## One pass -/

/-- What a pass over a text has made of its anchor, and whether it has passed other characters since the last letter or
number. -/
structure AnchorPass where
  anchor : List Char
  gap : Bool

namespace AnchorPass

/-- Passes one character. A letter or number after a gap gets a hyphen before it, unless it is the first one. -/
def step (s : AnchorPass) (c : Char) : AnchorPass :=
  if isAlphanumeric c then ⟨s.anchor ++ (if s.gap && !s.anchor.isEmpty then ['-', c] else [c]), false⟩
  else { s with gap := true }

/-- The anchor that one pass over the lower-case characters of a text gives. -/
def run (cs : List Char) : List Char := ((cs.flatMap lowerCase).foldl step ⟨[], false⟩).anchor

/-- What a pass knows of the text that it has passed. -/
structure Passed (s : AnchorPass) (cs : List Char) : Prop where
  anchor : s.anchor = ['-'].intercalate (runsOf cs)
  gap : s.gap = cs.getLast?.any (!isAlphanumeric ·)
  mem : ∀ c ∈ s.anchor, c = '-' ∨ c ∈ cs

variable {s : AnchorPass} {cs : List Char}

theorem Passed.isEmpty (h : s.Passed cs) : s.anchor.isEmpty = (runsOf cs).isEmpty := by
  have hjoins := h.anchor ▸ joinsRuns_runsOf cs
  cases hanchor : s.anchor with
  | nil =>
    rw [hanchor] at hjoins
    rw [hjoins.eq_nil]
    rfl
  | cons d ds =>
    cases hruns : runsOf cs with
    | nil =>
      rw [hanchor, hruns] at hjoins
      simpa using hjoins.joined
    | cons run runs => rfl

/-- After a gap a letter or number starts a run, else it goes on with the last run. -/
theorem Passed.step (h : s.Passed cs) (c : Char) : (s.step c).Passed (cs ++ [c]) := by
  have hkept : ∀ d ∈ s.anchor, d = '-' ∨ d ∈ cs ++ [c] := fun d hd => (h.mem d hd).imp_right (List.mem_append_left _)
  by_cases hc : isAlphanumeric c = true
  · rw [AnchorPass.step, if_pos hc]
    refine ⟨?_, by simp [hc], fun d hd => ?_⟩
    · have hnew : ∀ d ∈ [c], isAlphanumeric d = true := List.forall_mem_singleton.2 hc
      rw [h.isEmpty, h.gap, h.anchor]
      -- After a gap the character is a run of its own, else it is one more of the last run.
      by_cases hgap : cs.getLast?.all (!isAlphanumeric ·) = true
      · rw [runsOf_append_run hgap (by simp) hnew]
        by_cases hruns : runsOf cs = []
        · simp [hruns]
        · have hlast : cs.getLast?.any (!isAlphanumeric ·) = true := by
            cases hl : cs.getLast? with
            | none => exact absurd (List.getLast?_eq_none_iff.1 hl ▸ rfl) hruns
            | some d => simpa [hl] using hgap
          rw [intercalate_concat hruns, hlast]
          simp [hruns]
      · obtain ⟨front, run, rfl, hfront, hrun⟩ := exists_run_at_end cs
        have hne : run ≠ [] := fun hnil => hgap (by rwa [hnil, List.append_nil])
        have hlast : (front ++ run).getLast?.any (!isAlphanumeric ·) = false := by
          rw [List.getLast?_append, List.getLast?_eq_some_getLast hne]
          simpa using hrun _ (List.getLast_mem hne)
        rw [List.append_assoc, runsOf_append_run hfront (by simp) (List.forall_mem_append.2 ⟨hrun, hnew⟩),
          intercalate_concat_append, ← runsOf_append_run hfront hne hrun, hlast]
        rfl
    · rcases List.mem_append.1 hd with hd | hd
      · exact hkept d hd
      · have hpair : d = '-' ∨ d = c := by
          split_ifs at hd
          · simpa using hd
          · exact .inr (List.mem_singleton.1 hd)
        exact hpair.imp_right fun heq => by rw [heq]; exact List.mem_append_right _ List.mem_cons_self
  · rw [Bool.not_eq_true] at hc
    rw [AnchorPass.step, hc]
    exact ⟨by rw [runsOf_concat hc]; exact h.anchor, by simp [hc], hkept⟩

theorem Passed.foldl (h : s.Passed cs) (ds : List Char) : (ds.foldl AnchorPass.step s).Passed (cs ++ ds) := by
  induction ds generalizing s cs with
  | nil => rwa [List.append_nil]
  | cons d ds ih =>
    rw [List.foldl_cons, List.append_cons]
    exact ih (h.step d)

theorem passed_lowerCase (cs : List Char) :
    Passed ((cs.flatMap lowerCase).foldl AnchorPass.step ⟨[], false⟩) (cs.flatMap lowerCase) := by
  have hstart : Passed ⟨[], false⟩ [] := ⟨rfl, rfl, fun c hc => absurd hc List.not_mem_nil⟩
  exact hstart.foldl (cs.flatMap lowerCase)

theorem run_eq (cs : List Char) : run cs = slugChars cs := (passed_lowerCase cs).anchor

end AnchorPass

/-! ## The anchor of an anchor -/

theorem joinsRuns_slugChars (cs : List Char) : JoinsRuns (runsOf (cs.flatMap lowerCase)) (slugChars cs) :=
  joinsRuns_runsOf (cs.flatMap lowerCase)

/-- All of an anchor is in lower case. -/
theorem flatMap_lowerCase_slugChars (cs : List Char) : (slugChars cs).flatMap lowerCase = slugChars cs := by
  have hlower : ∀ c ∈ slugChars cs, lowerCase c = [c] := fun c hc => by
    rw [← AnchorPass.run_eq] at hc
    rcases (AnchorPass.passed_lowerCase cs).mem c hc with rfl | hmem
    · decide +kernel
    · obtain ⟨d, -, hd⟩ := List.mem_flatMap.1 hmem
      exact lowerCase_of_mem_lowerCase hd
  rw [List.flatMap_congr hlower, List.flatMap_singleton']

theorem slugChars_slugChars (cs : List Char) : slugChars (slugChars cs) = slugChars cs := by
  have hruns : runsOf ((slugChars cs).flatMap lowerCase) = runsOf (cs.flatMap lowerCase) := by
    rw [flatMap_lowerCase_slugChars, (joinsRuns_slugChars cs).runsOf_eq]
  rw [(joinsRuns_slugChars (slugChars cs)).joined, hruns, ← (joinsRuns_slugChars cs).joined]

theorem words_map_event (rest : List PlacedEvent) : HeadingId.words (rest.map (·.event)) = headingText rest := by
  rw [HeadingId.words, headingText, List.takeWhile_map, List.map_map]
  rfl

/-- **Anchors are in normal form.** One pass over a text gives its anchor: runs of letters and numbers with one hyphen
between each two, so that no hyphen is at an end and no two are in a row. The anchor of an anchor is the anchor itself,
and white space at the ends of a text has no part in it. So the trimmed text by which a heading's line is known and the
text as it is, from which the heading gets its id, have one anchor: the heading gets it with a number, or nothing where
it is empty. -/
theorem slugify_normal :
    (∀ text : String, (slugify text).toList = AnchorPass.run text.toList ∧
      (∃ runs, JoinsRuns runs (slugify text).toList) ∧ HyphensApart (slugify text).toList ∧
      slugify (slugify text) = slugify text ∧ slugify (String.ofList (trim text.toList)) = slugify text) ∧
    ∀ (level : Nat) (attributes : HeadingAttributes) (rest : List PlacedEvent), ∃ heading anchor,
      headingKind level { attributes with id := none } (headingText rest) = .heading level heading anchor false ∧
      ∀ taken, HeadingId.explicit ((HeadingId.assign taken false
        (.start (.heading level { attributes with id := none }) :: rest.map (·.event))).take 1) =
          if anchor = "" then [] else [HeadingId.fresh taken anchor] := by
  refine ⟨fun text => ?_, fun level attributes rest => ?_⟩
  · have hchars : (slugify text).toList = slugChars text.toList := String.toList_ofList
    have hjoins := joinsRuns_slugChars text.toList
    have hagain : slugify (slugify text) = slugify text := by
      rw [← String.toList_inj, slugify, String.toList_ofList, hchars, slugChars_slugChars]
    rw [hchars]
    exact ⟨(AnchorPass.run_eq text.toList).symm, ⟨_, hjoins⟩, hjoins.hyphensApart, hagain, slugify_trim text⟩
  · refine ⟨_, slugify (headingText rest), by rw [← slugify_trim]; rfl, fun taken => ?_⟩
    rw [← words_map_event]
    split_ifs with hwords
    · rw [HeadingId.assign_wordless taken level rfl hwords]
      rfl
    · obtain ⟨id, hid, hassign⟩ := HeadingId.assign_heading taken level
        (h := { attributes with id := none }) rfl hwords
      rw [hassign, ← hid]
      rfl

example : slugify " İstanbul -- Ünï! " = "i-stanbul-ünï" := by decide +kernel

end LivePage
