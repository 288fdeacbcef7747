import LivePage.Proofs.Schedule.Form
import LivePage.Proofs.Text.Ink
import Mathlib.Tactic.MkIffOfInductiveProp
/-!
# What an imperative keeps of its line

An imperative is meant to say all that stands after its keyword, but for the token. White space apart, what it says is a
part of that, in the same order. It is less than that where the words of the masked line are taken for the line, so that
code is lost, and where the word of the token goes on after the token, for it is dropped as a whole.
-/
namespace LivePage

open Text

/-- What an imperative says: its message, or the name of its action and the arguments. -/
def ImperativeAction.said : ImperativeAction → List Char
  | notify message => message.toList
  | runAction action args => action.toList ++ args.flatMap (·.toList)

/-! ## Words and ink -/

namespace PlacedWord

variable {offset start : Nat} {cs line : List Char} {w : PlacedWord} {ws : List PlacedWord}

/-- The text of the token in a word, with the punctuation that is trimmed from it. An at sign alone is no token. -/
def tokenPart (w : PlacedWord) : List Char := if w.isLoneSign then [] else w.text.takeWhile (!endsToken ·)

/-- What is glued to the token in a word. -/
def afterToken (w : PlacedWord) : List Char := w.text.drop w.tokenPart.length

theorem tokenPart_append (w : PlacedWord) : w.tokenPart ++ w.afterToken = w.text := by
  have hprefix : w.tokenPart <+: w.text := by
    unfold tokenPart
    split_ifs
    · exact List.nil_prefix
    · exact List.takeWhile_prefix _
  exact (List.prefix_iff_eq_append.1 hprefix)

theorem Spaced.ink_eq (h : Spaced offset cs ws) : ink cs = ws.flatMap (·.text) := by
  induction h with
  | blank hgap => exact ink_eq_nil hgap
  | word hgap _ htext _ _ ih =>
    rw [ink_append, ink_append, ink_eq_nil hgap, ink_eq_self htext, ih, List.nil_append, List.flatMap_cons]

/-- A word of a line cuts what comes from a byte before it on. -/
theorem IsIn.inkIn_eq (h : w.IsIn 0 line) (hstart : start ≤ w.start) :
    inkIn ⟨start, byteLength line⟩ 0 line =
      inkIn ⟨start, w.start⟩ 0 line ++ (w.text ++ inkIn ⟨w.stop, byteLength line⟩ 0 line) := by
  obtain ⟨before, after, rfl, hbefore⟩ := h.stands
  rw [Nat.zero_add] at hbefore
  rw [List.append_assoc]
  have hstop : w.stop ≤ byteLength (before ++ (w.text ++ after)) := by
    simp only [byteLength_append, PlacedWord.stop]
    omega
  rw [inkIn_split w.start hstart (Nat.le_trans (Nat.le_add_right ..) hstop), inkIn_split w.stop (Nat.le_add_right ..) hstop,
    inkIn_piece hbefore (show w.start + byteLength w.text = w.stop from rfl), ink_eq_self h.not_blank]

/-- What comes after the token in a word of a line. -/
theorem IsIn.inkIn_afterToken (h : w.IsIn 0 line) :
    inkIn ⟨w.start + byteLength w.tokenPart, byteLength line⟩ 0 line =
      w.afterToken ++ inkIn ⟨w.stop, byteLength line⟩ 0 line := by
  obtain ⟨before, after, rfl, hbefore⟩ := h.stands
  rw [Nat.zero_add] at hbefore
  have hlength : byteLength w.tokenPart + byteLength w.afterToken = byteLength w.text := by
    rw [← byteLength_append, w.tokenPart_append]
  have hline : before ++ w.text ++ after = (before ++ w.tokenPart) ++ (w.afterToken ++ after) := by
    rw [← w.tokenPart_append]
    simp only [List.append_assoc]
  have hafter : ∀ c ∈ w.afterToken, isBlank c = false := fun c hc => h.not_blank c (List.mem_of_mem_drop hc)
  rw [inkIn_split w.stop (by rw [PlacedWord.stop]; omega) (by simp [PlacedWord.stop, hbefore]), hline,
    inkIn_piece (by rw [byteLength_append, hbefore]) (by rw [PlacedWord.stop]; omega), ink_eq_self hafter]

end PlacedWord

/-- Masking takes ink away and adds none. -/
theorem Mask.Masks.inkIn_sublist {ranges : List Span} {i j : Nat} {masked cs : List Char} (h : Masks ranges i masked cs)
    (r : Span) : (inkIn r j masked).Sublist (inkIn r j cs) := by
  induction h generalizing j with
  | nil => exact .slnil
  | clear _ _ ih =>
    simp only [inkIn]
    split_ifs
    · exact ih.cons_cons _
    · exact ih
  | @covered i c masked cs hc h ih =>
    have hspaces : Blank (List.replicate c.utf8Size ' ') := fun d hd => by rw [List.eq_of_mem_replicate hd]; decide
    rw [inkIn_append, inkIn_eq_nil_of_blank hspaces, byteLength_spaces, List.nil_append, inkIn]
    split_ifs
    · exact ih.cons _
    · exact ih

namespace Imperative

variable {masked unmasked : List Char} {line start i : Nat} {ranges : List Span} {ws : List PlacedWord}
  {action : ImperativeAction}

namespace Form

def textStart : Form → Nat
  | notification start _ => start
  | run start _ => start
  | prose => 0

/-- What is to be kept of a line: all that comes after the keyword, but for the token that says when. -/
def kept (unmasked : List Char) (f : Form) : List Char :=
  match f.tokenWord? (·.isToken) with
  | some w =>
    inkIn ⟨f.textStart, w.start⟩ 0 unmasked ++ inkIn ⟨w.start + byteLength w.tokenPart, byteLength unmasked⟩ 0 unmasked
  | none => inkIn ⟨f.textStart, byteLength unmasked⟩ 0 unmasked

/-- The bytes of a line of which nothing but the words of the masked line is used. -/
def wordRange (unmasked : List Char) : Form → Span
  | notification start ws => ⟨start, ((ws.head?.filter (·.isToken)).map (·.start)).getD start⟩
  | run start _ => ⟨start, byteLength unmasked⟩
  | prose => ⟨0, 0⟩

/-- How much an action keeps of a line: a part of what is to be kept, in the same order. It is all of that iff nothing but
white space is masked where only the words of the masked line are used, and nothing is glued to the token. -/
@[mk_iff]
structure Keeps (f : Form) (masked unmasked : List Char) (action : ImperativeAction) : Prop where
  part : (ink action.said).Sublist (f.kept unmasked)
  all_iff : ink action.said = f.kept unmasked ↔
    inkIn (f.wordRange unmasked) 0 unmasked = inkIn (f.wordRange unmasked) 0 masked ∧
      ∀ w, f.tokenWord? (·.isToken) = some w → w.afterToken = []

end Form

/-! ## Parts of what is kept -/

theorem append_eq_append_iff_of_sublist {a a' b b' : List Char} (ha : a.Sublist a') (hb : b.Sublist b') :
    a ++ b = a' ++ b' ↔ a' = a ∧ b' = b := by
  constructor
  · intro h
    have hlength := congrArg List.length h
    rw [List.length_append, List.length_append] at hlength
    have hla := ha.length_le
    have hlb := hb.length_le
    exact ⟨(ha.eq_of_length (by omega)).symm, (hb.eq_of_length (by omega)).symm⟩
  · rintro ⟨rfl, rfl⟩
    rfl

/-- A word that is dropped, though something is glued to its token. -/
theorem drops_afterToken {x x' y y' : List Char} (glued : List Char) (hx : x.Sublist x') (hy : y.Sublist y') :
    (x ++ y).Sublist (x' ++ (glued ++ y')) ∧ (x ++ y = x' ++ (glued ++ y') ↔ (x' = x ∧ y' = y) ∧ glued = []) := by
  have hglued : y.Sublist (glued ++ y') := hy.trans (List.sublist_append_right ..)
  refine ⟨hx.append hglued, ?_⟩
  rw [append_eq_append_iff_of_sublist hx hglued, and_assoc]
  refine and_congr_right fun _ => ⟨fun h => ?_, ?_⟩
  · have hlength := congrArg List.length h
    rw [List.length_append] at hlength
    have hly := hy.length_le
    obtain rfl : glued = [] := List.eq_nil_of_length_eq_zero (by omega)
    exact ⟨h, rfl⟩
  · rintro ⟨rfl, rfl⟩
    rfl

theorem GoesOn.isIn {keyword : List Char} {w : PlacedWord} (h : GoesOn masked keyword start ws) (hw : w ∈ ws) :
    w.IsIn 0 masked := by
  obtain ⟨lead, tail, rfl, -, rfl, rfl⟩ := h
  refine PlacedWord.IsIn.append_left (lead ++ keyword) ?_
  rw [Nat.zero_add]
  exact PlacedWord.isIn_of_mem_list hw

/-! ## Notifications -/

/-- A notification says what comes after the word that says when, or after the keyword. -/
theorem ink_said_notification (h : (Form.notification start ws).action? (·.isToken) unmasked = some (some action)) :
    ink action.said =
      inkIn ⟨((ws.head?.filter (·.isToken)).map (·.stop)).getD start, byteLength unmasked⟩ 0 unmasked := by
  obtain ⟨rest, hrest, heq⟩ := Option.map_eq_some_iff.1 h
  obtain rfl := Option.some.inj heq
  rw [inkIn_rest hrest, ImperativeAction.said, String.toList_ofList, ink_trim]

/-- Of the text between the keyword and the first word nothing is left in the masked line. -/
theorem GoesOn.inkIn_head {keyword : List Char} {w : PlacedWord} {rest : List PlacedWord}
    (h : GoesOn masked keyword start (w :: rest)) : inkIn ⟨start, w.start⟩ 0 masked = [] := by
  obtain ⟨before, tail, rfl, rfl, -, hspaced⟩ := h.spaced
  rw [← List.nil_append (w :: rest)] at hspaced
  obtain ⟨gap, after, rfl, hstart, hgap, -⟩ := hspaced.split
  rw [List.append_assoc, inkIn_piece rfl hstart, hgap.ink_eq]
  rfl

theorem keeps_notification (h : GoesOn masked notifyKeyword start ws) (hmasks : Mask.Masks ranges i masked unmasked)
    (haction : (Form.notification start ws).action? (·.isToken) unmasked = some (some action)) :
    (Form.notification start ws).Keeps masked unmasked action := by
  rw [Form.keeps_iff, ink_said_notification haction]
  simp only [Form.kept, Form.wordRange, Form.tokenWord?, Form.textStart]
  cases htoken : ws.head?.filter (·.isToken) with
  | none => simp [inkIn_empty]
  | some w =>
    obtain ⟨hhead, hsign⟩ := Option.filter_eq_some_iff.1 htoken
    obtain ⟨rest, rfl⟩ := List.head?_eq_some_iff.1 hhead
    have hin := (h.isIn List.mem_cons_self).unmask hmasks
    obtain ⟨hsublist, heq⟩ := drops_afterToken w.afterToken (hmasks.inkIn_sublist (j := 0) ⟨start, w.start⟩)
      (.refl (inkIn ⟨w.stop, byteLength unmasked⟩ 0 unmasked))
    rw [h.inkIn_head, List.nil_append] at hsublist heq
    simp only [Option.map_some, Option.getD_some, Option.some.injEq, forall_eq', hin.inkIn_afterToken, h.inkIn_head]
    simpa using And.intro hsublist heq

/-! ## Runs of actions -/

/-- The run of an action says its words, all but the first that counts as a token. -/
theorem said_run (h : (Form.run start ws).action? (·.isToken) unmasked = some (some action)) :
    ∃ name rest, ws = name :: rest ∧ action.said = (name :: rest.eraseP (·.isToken)).flatMap (·.text) := by
  cases ws with
  | nil => cases h
  | cons name rest =>
    obtain rfl := Option.some.inj (Option.some.inj h)
    exact ⟨name, rest, rfl, by simp [ImperativeAction.said, List.flatMap_map]⟩

/-- White space apart, the words after the keyword are what the masked line holds there. -/
theorem GoesOn.inkIn_eq {keyword : List Char} (h : GoesOn masked keyword start ws) :
    inkIn ⟨start, byteLength masked⟩ 0 masked = ws.flatMap (·.text) := by
  obtain ⟨before, tail, rfl, hstart, -, hspaced⟩ := h.spaced
  rw [inkIn_rest (dropBytes?_eq_some_iff.2 ⟨before, rfl, hstart⟩), hspaced.ink_eq]

/-- So are the words before one of them, and those after it. -/
theorem GoesOn.inkIn_around {keyword : List Char} {w : PlacedWord} {first last : List PlacedWord}
    (h : GoesOn masked keyword start (first ++ w :: last)) :
    inkIn ⟨start, w.start⟩ 0 masked = first.flatMap (·.text) ∧
      inkIn ⟨w.stop, byteLength masked⟩ 0 masked = last.flatMap (·.text) := by
  obtain ⟨before, tail, rfl, hstart, -, hspaced⟩ := h.spaced
  obtain ⟨gap, after, rfl, hgap, hfirst, hlast⟩ := hspaced.split
  refine ⟨?_, ?_⟩
  · rw [List.append_assoc, inkIn_piece hstart hgap, hfirst.ink_eq]
  · have hstop : byteLength (before ++ (gap ++ w.text)) = w.stop := by
      simp only [byteLength_append, PlacedWord.stop]
      omega
    rw [inkIn_rest (dropBytes?_eq_some_iff.2 ⟨before ++ (gap ++ w.text), (List.append_assoc ..).symm, hstop⟩), hlast.ink_eq]

theorem GoesOn.ink_said {keyword : List Char} {l : List PlacedWord} (h : GoesOn masked keyword start ws) (hl : l ⊆ ws) :
    ink (l.flatMap (·.text)) = l.flatMap (·.text) := by
  refine ink_eq_self fun c hc => ?_
  obtain ⟨w, hw, hc⟩ := List.mem_flatMap.1 hc
  exact (h.isIn (hl hw)).not_blank c hc

theorem keeps_run (h : GoesOn masked runKeyword start ws) (hmasks : Mask.Masks ranges i masked unmasked)
    (haction : (Form.run start ws).action? (·.isToken) unmasked = some (some action)) :
    (Form.run start ws).Keeps masked unmasked action := by
  obtain ⟨name, rest, rfl, hsaid⟩ := said_run haction
  have hbytes := hmasks.byteLength_eq
  rw [Form.keeps_iff, hsaid, h.ink_said (List.cons_subset_cons _ List.eraseP_subset)]
  simp only [Form.kept, Form.wordRange, Form.tokenWord?, Form.textStart, List.tail_cons]
  cases hfind : rest.find? (·.isToken) with
  | none =>
    obtain ⟨-, herase, -⟩ := Form.none_spec fun w hw => by simpa using List.find?_eq_none.1 hfind w hw
    rw [herase, ← h.inkIn_eq, hbytes]
    refine ⟨hmasks.inkIn_sublist _, fun heq => ⟨heq.symm, fun w hw => ?_⟩, fun heq => heq.1.symm⟩
    cases hw
  | some w =>
    obtain ⟨hsign, first, last, rfl, hfirst⟩ := List.find?_eq_some_iff_append.1 hfind
    obtain ⟨-, herase, -⟩ := Form.first_spec (fun v hv => by simpa using hfirst v hv) hsign last
    rw [← List.cons_append] at h
    obtain ⟨hbefore, hafter⟩ := h.inkIn_around
    have hin := h.isIn (w := w) (by simp)
    have hstart : start ≤ w.start := by
      obtain ⟨before, tail, -, -, -, hspaced⟩ := h.spaced
      exact hspaced.offset_le (by simp)
    rw [herase, ← List.cons_append, List.flatMap_append, ← hbefore, ← hafter, hbytes]
    have hfront := hmasks.inkIn_sublist (j := 0) ⟨start, w.start⟩
    have hback := hmasks.inkIn_sublist (j := 0) ⟨w.stop, byteLength unmasked⟩
    obtain ⟨hsublist, heq⟩ := drops_afterToken w.afterToken hfront hback
    -- The word of the token is left in the masked line, so what is lost there is lost before it or after it.
    have hwords := hin.inkIn_eq hstart
    have hwritten := (hin.unmask hmasks).inkIn_eq hstart
    have hlost := append_eq_append_iff_of_sublist hfront ((List.Sublist.refl w.text).append hback)
    rw [List.append_cancel_left_eq, eq_comm, ← hwritten, ← hbytes, ← hwords, hbytes] at hlost
    simp only [Option.some.injEq, forall_eq', (hin.unmask hmasks).inkIn_afterToken, hlost]
    exact ⟨hsublist, heq⟩

end Imperative

/-! ## Scans -/

/-- **Imperatives keep their text, but for code and glued text.** What an imperative of a scan says is, white space apart, a
part of what its line as written has after the keyword and outside the token, in the same order. It is all of that just
when no code is masked where only words are used, and nothing is glued to the token. -/
theorem keepsText_iff {body : String} {ranges : List Span} {lines : LineMap} {r : ScanResult}
    (h : scan? body ranges lines = some r) {imperative : Imperative} (himperative : imperative ∈ r.imperatives) :
    ∃ masked unmasked, imperative.ReadFrom ranges lines body.toList masked unmasked ∧
      (Imperative.form masked).Keeps masked unmasked imperative.action := by
  obtain ⟨masked, unmasked, hread⟩ := exists_readFrom_of_scan? h himperative
  refine ⟨masked, unmasked, hread, ?_⟩
  obtain ⟨used, -, start, hmasks⟩ := hread.masks
  have haction := hread.action?_eq
  have hform := Imperative.form_spec masked
  cases hf : Imperative.form masked with
  | notification start ws =>
    rw [hf] at hform haction
    exact Imperative.keeps_notification hform hmasks haction
  | run start ws =>
    rw [hf] at hform haction
    exact Imperative.keeps_run hform hmasks haction
  | prose =>
    rw [hf] at haction
    cases haction

/-- A notification with a token at the end of a sentence, and code in its message. -/
def codeInMessage : String := "> Notify @daily:9am. Run `x @mon` (now)!\n"

theorem codeInMessage_kept :
    let ranges : List Span := [⟨25, 33⟩]
    let lines := LineMap.identity codeInMessage 1
    ∃ r imperative, scan? codeInMessage ranges lines = some r ∧ imperative ∈ r.imperatives ∧
      imperative.action = .notify "Run `x @mon` (now)!" ∧
      ∃ masked unmasked, imperative.ReadFrom ranges lines codeInMessage.toList masked unmasked ∧
        ink imperative.action.said = (Imperative.form masked).kept unmasked := by
  intro ranges lines
  have hscan : (scan? codeInMessage ranges lines).map (·.imperatives.map (·.action)) =
      some [.notify "Run `x @mon` (now)!"] := by decide +kernel
  obtain ⟨r, hr, hactions⟩ := Option.map_eq_some_iff.1 hscan
  obtain ⟨imperative, himperative, haction⟩ := List.mem_map.1 (hactions ▸ List.mem_cons_self)
  obtain ⟨masked, unmasked, hread, hkeeps⟩ := keepsText_iff hr himperative
  refine ⟨r, imperative, hr, himperative, haction, masked, unmasked, hread, hkeeps.all_iff.2 ?_⟩
  have hpairs : linePairs ranges codeInMessage.toList =
      [("> Notify @daily:9am. Run          (now)!\n".toList, codeInMessage.toList)] := by decide +kernel
  obtain ⟨p, hp, rfl, rfl⟩ := hread.mem_linePairs
  obtain rfl := List.mem_singleton.1 (hpairs ▸ hp)
  refine ⟨by decide +kernel, fun w hw => ?_⟩
  have htoken : (Imperative.form "> Notify @daily:9am. Run          (now)!".toList).tokenWord? (·.isToken) =
      some ⟨9, "@daily:9am.".toList⟩ := by decide +kernel
  obtain rfl := Option.some.inj (htoken.symm.trans hw)
  decide +kernel

/-- **Text that is glued to the token is lost**, and so is code among the words of an action: a message is written `)foo
bar`, and an argument `--force`. -/
theorem gluedText_lost :
    let glued := "Notify @daily)foo bar"
    let code := "Run action:build `--force` now"
    (scan? glued [] (.identity glued 1)).map (·.imperatives.map (·.action)) = some [.notify "bar"] ∧
    (Imperative.form glued.toList).kept glued.toList = ")foobar".toList ∧
    (scan? code [⟨17, 26⟩] (.identity code 1)).map (·.imperatives.map (·.action)) = some [.runAction "build" ["now"]] ∧
    (Imperative.form "Run action:build           now".toList).kept code.toList = "build`--force`now".toList := by
  intro glued code
  exact ⟨by decide +kernel, by decide +kernel, by decide +kernel, by decide +kernel⟩

end LivePage
