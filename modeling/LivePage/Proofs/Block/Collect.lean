import LivePage.Block.Collect
import LivePage.Proofs.Dictionary
import LivePage.Proofs.Markdown.CodeBlock
import Mathlib.Data.List.Forall2
import Mathlib.Data.List.TakeWhile
/-!
# What is collected

The blocks that are collected from events are those that info strings declare, in their order and at their places.
Which ones these are does not depend on the text inside of them, only on the events that open and close code blocks.
-/
namespace LivePage

open Text Markdown

/-- What the info string of an event says, if the event opens a code block with one that can be read. -/
def Markdown.Event.info? : Event → Option InfoString
  | .start (.codeBlock (some s)) => (InfoString.parse s).toOption
  | _ => none

/-- What matters of an event for the places of live blocks. -/
def Markdown.Event.shape (e : Event) : Bool × Bool × Option InfoString := (e.opensCode, e.closesCode, e.info?)

/-- The live blocks that info strings declare among events of which the first has an index: the index of the event
and what its info string says. The flag tells whether a code block is open. -/
def declared : Nat → Bool → List Event → List (Nat × InfoString)
  | _, _, [] => []
  | i, true, e :: rest => declared (i + 1) (!e.closesCode) rest
  | i, false, e :: rest => ((e.info?.filter (·.type.isSome)).map (i, ·)).toList ++ declared (i + 1) e.opensCode rest

/-- A block is collected for a declaration, with some content. -/
def Declares (d : Nat × InfoString) (cb : CodeBlock) : Prop := ∃ content line, d.2.toBlock? content line d.1 = some cb

variable {i : Nat} {inside : Bool} {lines : LineMap} {placed : List PlacedEvent} {e : Event} {events code rest : List Event}
  {blocks : List CodeBlock} {info : InfoString} {content : String} {line : Nat} {cb : CodeBlock}

/-! ## Shapes -/

theorem codeBlocksClose_congr {events' : List Event} (h : events.map (·.shape) = events'.map (·.shape))
    (hclose : CodeBlocksClose events) : CodeBlocksClose events' := by
  have hiff (l : List Event) : (∃ x ∈ l.takeWhile (!·.opensCode), x.closesCode = true) ↔
      ∃ s ∈ (l.map (·.shape)).takeWhile (!·.1), s.2.1 = true := by
    simp [List.takeWhile_map, Function.comp_def, Event.shape]
  induction events generalizing events' with
  | nil =>
    rw [List.map_eq_nil_iff.1 h.symm]
    exact hclose
  | cons e rest ih =>
    obtain ⟨e', rest', rfl, he, hrest⟩ := List.map_eq_cons_iff.1 h.symm
    refine ⟨fun hopen => ?_, ih hrest.symm hclose.2⟩
    rw [hiff, hrest, ← hiff]
    exact hclose.1 ((congrArg (·.1) he).symm.trans hopen)

/-! ## Declarations -/

theorem info?_eq_none (h : e.opensCode = false) : e.info? = none := by
  unfold Event.info?
  split
  · cases h
  · rfl

theorem opensCode_eq_false (hsome : ∀ s, e ≠ .start (.codeBlock (some s))) (hnone : e ≠ .start (.codeBlock none)) :
    e.opensCode = false := by
  refine eq_false_of_ne_true fun hopen => ?_
  obtain ⟨info, rfl⟩ := Event.opensCode_iff.1 hopen
  cases info with
  | none => exact hnone rfl
  | some s => exact hsome s rfl

theorem declared_other (h : e.opensCode = false) : declared i false (e :: rest) = declared (i + 1) false rest := by
  rw [declared, info?_eq_none h, h]
  rfl

/-- A whole code block declares at most one live block, where it opens. -/
theorem declared_code (hcode : IsCodeBlock e code) : declared i false (code ++ rest) =
    ((e.info?.filter (·.type.isSome)).map (i, ·)).toList ++ declared (i + code.length) false rest := by
  obtain ⟨hopen, content, close, rfl, hclose, hcontent⟩ := hcode
  have hskip (j : Nat) : declared j true (content ++ close :: rest) = declared (j + content.length + 1) false rest := by
    induction content generalizing j with
    | nil => simp [declared, hclose]
    | cons x content ih =>
      have hx := hcontent x List.mem_cons_self
      rw [List.cons_append, declared, hx.2, Bool.not_false, ih (fun y hy => hcontent y (List.mem_cons_of_mem _ hy)),
        List.length_cons, Nat.add_right_comm j]
      rfl
  have hlength : i + (e :: content ++ [close]).length = i + 1 + content.length + 1 := by simp +arith
  rw [hlength, ← hskip, ← hopen, List.append_assoc, List.cons_append, declared]
  rfl

theorem le_of_mem_declared {d : Nat × InfoString} (h : d ∈ declared i inside events) : i ≤ d.1 := by
  fun_induction declared i inside events with
  | case1 => cases h
  | case2 i e rest ih => exact Nat.le_of_succ_le (ih h)
  | case3 i e rest ih =>
    rcases List.mem_append.1 h with h | h
    · obtain ⟨info, -, rfl⟩ := Option.map_eq_some_iff.1 (Option.mem_toList.1 h)
      exact Nat.le_refl _
    · exact Nat.le_of_succ_le (ih h)

theorem declared_congr {events' : List Event} (h : events.map (·.shape) = events'.map (·.shape)) :
    declared i inside events = declared i inside events' := by
  induction events generalizing i inside events' with
  | nil => rw [List.map_eq_nil_iff.1 h.symm]
  | cons e rest ih =>
    obtain ⟨e', rest', rfl, he, hrest⟩ := List.map_eq_cons_iff.1 h.symm
    simp only [Event.shape, Prod.mk.injEq] at he
    obtain ⟨hopen, hclose, hinfo⟩ := he
    cases inside with
    | true => rw [declared, declared, hclose, ih hrest.symm]
    | false => rw [declared, declared, hopen, hinfo, ih hrest.symm]

/-! ## Blocks -/

/-- What does not depend on a block's content. -/
theorem toBlock?_eq_some (h : info.toBlock? content line i = some cb) :
    info.type = some cb.type ∧ cb.eventIndex = i ∧ cb.language = info.language ∧ cb.flags = info.flags ∧
      ∀ name, name ≠ "lvt-source" → cb.metadata.find? name = info.metadata.find? name := by
  obtain ⟨type, htype, rfl⟩ := Option.map_eq_some_iff.1 h
  refine ⟨htype, rfl, rfl, rfl, fun name hname => ?_⟩
  dsimp only
  split_ifs
  · split
    · exact Dictionary.find?_insert_ne hname
    · rfl
  · rfl

theorem toBlock?_line (h : info.toBlock? content line i = some cb) : cb.line = line := by
  obtain ⟨type, -, rfl⟩ := Option.map_eq_some_iff.1 h
  rfl

theorem toBlock?_eq_none_iff : info.toBlock? content line i = none ↔ info.type = none := Option.map_eq_none_iff

/-- A block is collected for what an info string declares, if it declares any. -/
theorem declares_toBlock? (info : InfoString) (content : String) (line i : Nat) :
    List.Forall₂ Declares (((some info).filter (·.type.isSome)).map (i, ·)).toList
      (info.toBlock? content line i).toList := by
  cases hblock : info.toBlock? content line i with
  | none =>
    rw [toBlock?_eq_none_iff] at hblock
    simp [hblock]
  | some cb =>
    have hdeclares : Declares (i, info) cb := ⟨_, _, hblock⟩
    rw [Option.filter_some, (toBlock?_eq_some hblock).1]
    exact .cons hdeclares .nil

/-- **The blocks that are collected are those that are declared.** -/
theorem collectFrom_declared (h : collectFrom lines i inside placed = .ok blocks) :
    List.Forall₂ Declares (declared i inside (placed.map (·.event))) blocks := by
  induction placed generalizing i inside blocks with
  | nil =>
    obtain rfl : [] = blocks := by cases inside <;> exact Except.ok.inj h
    cases inside <;> exact .nil
  | cons p rest ih =>
    cases inside with
    | true => exact ih h
    | false =>
      rw [List.map_cons, declared]
      rw [collectFrom] at h
      split at h
      · rename_i s hevent
        rw [hevent]
        cases hparse : InfoString.parse s with
        | error u =>
          rw [hparse] at h
          cases h
        | ok info =>
          rw [hparse] at h
          simp only [bind, Except.bind] at h
          split at h
          · cases h
          · rename_i later hlater
            obtain rfl := Except.ok.inj h
            simp only [Event.info?, hparse, Except.toOption]
            exact List.rel_append (declares_toBlock? info _ _ i) (ih hlater)
      · rename_i hevent
        rw [hevent]
        exact ih h
      · rename_i hsome hnone
        have hopen := opensCode_eq_false hsome hnone
        rw [info?_eq_none hopen, hopen]
        exact ih h

/-! ## Lines -/

/-- A placed event at some place opens a fenced block with an info string. -/
def OpensFence (placed : List PlacedEvent) (j : Nat) (text : String) (e : PlacedEvent) : Prop :=
  placed[j]? = some e ∧ e.event = .start (.codeBlock (some text))

/-- **Where collected blocks are.** Each has the line on which the event with its index starts, which opens a fence. -/
theorem opensFence_of_collectFrom (h : collectFrom lines i inside placed = .ok blocks) :
    ∀ cb ∈ blocks, ∃ j text e, OpensFence placed j text e ∧ cb.eventIndex = i + j ∧
      cb.line = lines.lineOf e.span.start := by
  have hlater {i : Nat} {p : PlacedEvent} {rest : List PlacedEvent} {cb : CodeBlock}
      (ih : ∃ j text e, OpensFence rest j text e ∧ cb.eventIndex = i + 1 + j ∧ cb.line = lines.lineOf e.span.start) :
      ∃ j text e, OpensFence (p :: rest) j text e ∧ cb.eventIndex = i + j ∧ cb.line = lines.lineOf e.span.start := by
    obtain ⟨j, text, e, hopens, hi, hline⟩ := ih
    exact ⟨j + 1, text, e, hopens, by omega, hline⟩
  induction placed generalizing i inside blocks with
  | nil =>
    obtain rfl : [] = blocks := by cases inside <;> exact Except.ok.inj h
    simp
  | cons p rest ih =>
    cases inside with
    | true => exact fun cb hcb => hlater (ih h cb hcb)
    | false =>
      rw [collectFrom] at h
      split at h
      · rename_i text hevent
        cases hparse : InfoString.parse text with
        | error u =>
          rw [hparse] at h
          cases h
        | ok info =>
          rw [hparse] at h
          simp only [bind, Except.bind] at h
          split at h
          · cases h
          · rename_i later hrest
            obtain rfl := Except.ok.inj h
            intro cb hcb
            rcases List.mem_append.1 hcb with hcb | hcb
            · have hblock := Option.mem_toList.1 hcb
              exact ⟨0, text, p, ⟨rfl, hevent⟩, (toBlock?_eq_some hblock).2.1, toBlock?_line hblock⟩
            · exact hlater (ih hrest cb hcb)
      · exact fun cb hcb => hlater (ih h cb hcb)
      · exact fun cb hcb => hlater (ih h cb hcb)

/-- Collecting fails at an event that opens a fence with an info string that cannot be read. -/
theorem opensFence_of_collectFrom_error {u : UnknownBlockType} (h : collectFrom lines i inside placed = .error (u, line)) :
    ∃ j text e, OpensFence placed j text e ∧ InfoString.parse text = .error u ∧ line = lines.lineOf e.span.start := by
  have hlater {p : PlacedEvent} {rest : List PlacedEvent}
      (ih : ∃ j text e, OpensFence rest j text e ∧ InfoString.parse text = .error u ∧ line = lines.lineOf e.span.start) :
      ∃ j text e, OpensFence (p :: rest) j text e ∧ InfoString.parse text = .error u ∧ line = lines.lineOf e.span.start := by
    obtain ⟨j, hj⟩ := ih
    exact ⟨j + 1, hj⟩
  induction placed generalizing i inside with
  | nil => cases inside <;> cases h
  | cons p rest ih =>
    cases inside with
    | true => exact hlater (ih h)
    | false =>
      rw [collectFrom] at h
      split at h
      · rename_i text hevent
        cases hparse : InfoString.parse text with
        | error u' =>
          rw [hparse] at h
          simp only [Except.error.injEq, Prod.mk.injEq] at h
          obtain ⟨rfl, rfl⟩ := h
          exact ⟨0, text, p, ⟨rfl, hevent⟩, hparse, rfl⟩
        | ok info =>
          rw [hparse] at h
          simp only [bind, Except.bind] at h
          split at h
          · rename_i located hrest
            exact hlater (ih (hrest.trans h))
          · cases h
      · exact hlater (ih h)
      · exact hlater (ih h)

/-! ## Contents -/

/-- An event that opens a fence has its block among those that are collected, for no code stands within other code. -/
theorem mem_of_collectFrom {before after : List PlacedEvent} {e : PlacedEvent} {text : String} (hcode : CodeApart inside (before ++ e :: after))
    (h : collectFrom lines i inside (before ++ e :: after) = .ok blocks)
    (he : e.event = .start (.codeBlock (some text))) (hparse : InfoString.parse text = .ok info)
    (hblock : info.toBlock? (codeContent after) (lines.lineOf e.span.start) (i + before.length) = some cb) :
    cb ∈ blocks := by
  induction before generalizing i inside blocks with
  | nil =>
    cases inside with
    | true =>
      -- No code opens in code, so this case is void.
      have hno := hcode.1
      rw [he] at hno
      cases hno
    | false =>
      rw [List.nil_append, collectFrom, he] at h
      simp only [hparse, bind, Except.bind] at h
      split at h
      · cases h
      · obtain rfl := Except.ok.inj h
        exact List.mem_append_left _ (Option.mem_toList.2 hblock)
  | cons p before ih =>
    rw [List.length_cons, Nat.add_comm before.length, ← Nat.add_assoc] at hblock
    cases inside with
    | true => exact ih hcode.2 h hblock
    | false =>
      have hlater := hcode
      rw [List.cons_append, collectFrom] at h
      rw [List.cons_append, CodeApart] at hlater
      split at h
      · rename_i _ hevent
        rw [hevent] at hlater
        split at h
        · cases h
        · simp only [bind, Except.bind] at h
          split at h
          · cases h
          · rename_i hrest
            obtain rfl := Except.ok.inj h
            exact List.mem_append_right _ (ih hlater hrest hblock)
      · rename_i hevent
        rw [hevent] at hlater
        exact ih hlater h hblock
      · rename_i hsome hnone
        have hopen := opensCode_eq_false hsome hnone
        rw [hopen] at hlater
        exact ih hlater h hblock

/-- A value in quotation marks ends at the first quotation mark. -/
theorem quotedValue?_quoted {value after : List Char} (h : value.takeWhile (!isQuote ·) ≠ []) :
    quotedValue? ('=' :: '"' :: (value ++ '"' :: after)) = some (value.takeWhile (!isQuote ·)) := by
  have htake : (value ++ '"' :: after).takeWhile (!isQuote ·) = value.takeWhile (!isQuote ·) := by
    rw [List.takeWhile_append]
    split_ifs with hlength
    · rw [List.takeWhile_cons_of_neg (by decide), List.append_nil]
      exact ((List.takeWhile_prefix _).eq_of_length hlength).symm
    · rfl
  have hdrop : (value ++ '"' :: after).dropWhile (!isQuote ·) ≠ [] := by
    rw [Ne, List.dropWhile_eq_nil_iff]
    exact fun hall => absurd (hall '"' (by simp)) (by decide)
  unfold quotedValue?
  simp only [List.dropWhile_cons_of_neg (show ¬ isBlank '=' = true by decide),
    List.dropWhile_cons_of_neg (show ¬ isBlank '"' = true by decide), htake]
  refine if_pos (Bool.and_eq_true _ _ ▸ ⟨?_, bne_iff_ne.2 hdrop⟩)
  rw [List.isEmpty_eq_false_iff.2 h]
  rfl

end LivePage
