import LivePage.Proofs.Schedule.Imperative
import LivePage.Proofs.Schedule.Mask
/-!
# What a scan names, and when it has no answer

Everything that a scan of one line names is a piece of the masked line without white space, named with its column. A
line has no answer in one case only: the space after `Notify` is the first byte of a masked character that has more.
-/
namespace LivePage

open Text

/-- A piece of the masked line without white space stands in the line as written. -/
theorem PlacedWord.IsIn.unmask {ranges : List Span} {i offset : Nat} {masked unmasked : List Char} {w : PlacedWord}
    (hw : w.IsIn offset masked) (h : Mask.Masks ranges i masked unmasked) : w.IsIn offset unmasked := by
  obtain ⟨⟨before, after, rfl, hstart⟩, hne, hblank⟩ := hw
  have hspace (c : Char) (hc : c ∈ w.text) : c ≠ ' ' := by
    rintro rfl
    exact absurd (hblank _ hc) (by decide)
  obtain ⟨b, a, rfl, hlen, -⟩ := h.split_word hne hspace
  exact ⟨⟨b, a, rfl, by rw [hlen, hstart]⟩, hne, hblank⟩

/-- A piece of a line stands in the text that the line is of. -/
theorem PlacedWord.IsIn.slice_line {cs line : List Char} {above below : List (List Char)} {w : PlacedWord}
    (h : linesWithEnds cs = above ++ line :: below) (hw : w.IsIn 0 (dropLineEnd line)) :
    sliceBytes? cs (byteLength above.flatten + w.start) (byteLength w.text) = some w.text := by
  obtain ⟨before, after, hdrop, hstart⟩ := hw.stands
  obtain ⟨lineEnd, hend⟩ := dropLineEnd_prefix line
  refine sliceBytes?_eq_some_iff.2 ⟨above.flatten ++ before, after ++ lineEnd ++ below.flatten, ?_, ?_, rfl⟩
  · rw [← linesWithEnds_flatten cs, h, List.flatten_append, List.flatten_cons, ← hend, hdrop]
    simp
  · rw [byteLength_append, ← hstart, Nat.zero_add]

/-! ## Mentions -/

/-- A text that a scan names, with the line and the column that it gives for it. -/
structure Mention where
  raw : String
  line : Nat
  column : Nat
deriving DecidableEq, Repr

/-- A token as it is named. -/
def ScheduleToken.mention (t : ScheduleToken) : Mention := ⟨t.raw, t.line, t.column⟩

/-- The text that a warning is about. -/
def ScheduleWarning.mention (w : ScheduleWarning) : Mention := ⟨w.raw, w.line, w.column⟩

/-- A piece of a line as it is named. -/
def PlacedWord.mention (w : PlacedWord) (line : Nat) : Mention := ⟨String.ofList w.text, line, w.start + 1⟩

theorem PlacedWord.utf8ByteSize_mention (w : PlacedWord) (line : Nat) :
    (w.mention line).raw.utf8ByteSize = byteLength w.text := utf8ByteSize_ofList w.text

/-- All that is named by tokens, imperatives and warnings. -/
def mentionsOf (tokens : List ScheduleToken) (imperatives : List Imperative) (warnings : List ScheduleWarning) :
    List Mention :=
  tokens.map (·.mention) ++ imperatives.filterMap (·.token.map (·.mention)) ++ warnings.map (·.mention)

namespace ScanResult

def mentions (r : ScanResult) : List Mention := mentionsOf r.tokens r.imperatives r.warnings

theorem mem_mentions_append {a b : ScanResult} {m : Mention} :
    m ∈ (a.append b).mentions ↔ m ∈ a.mentions ∨ m ∈ b.mentions := by
  simp only [mentions, mentionsOf, append, List.map_append, List.filterMap_append, List.mem_append]
  tauto

theorem mem_mentions_foldr {rs : List ScanResult} {last : ScanResult} {m : Mention} :
    m ∈ (rs.foldr append last).mentions ↔ (∃ r ∈ rs, m ∈ r.mentions) ∨ m ∈ last.mentions := by
  induction rs with
  | nil => simp
  | cons r rs ih => simp [mem_mentions_append, ih, or_assoc]

end ScanResult

theorem mentions_readCandidate (line : Nat) (w : PlacedWord) : (readCandidate line w).mentions = [w.mention line] := by
  unfold readCandidate
  dsimp only
  split <;> rfl

namespace PlacedWord

variable {w : PlacedWord} {line : Nat}

/-- The token of a word, before it is read. -/
def tokenPiece (w : PlacedWord) : PlacedWord := ⟨w.start, tokenText w.text⟩

theorem mention_token? {t : ScheduleToken} (h : w.token? line = some t) :
    w.schedule?.isSome ∧ t.mention = w.tokenPiece.mention line := by
  obtain ⟨s, hs, rfl⟩ := Option.map_eq_some_iff.1 h
  exact ⟨by simp [hs], rfl⟩

theorem mention_extraWarning {x : ScheduleWarning} (h : x ∈ w.extraWarning line) :
    w.schedule?.isSome ∧ x.mention = w.tokenPiece.mention line := by
  unfold extraWarning at h
  split_ifs at h with htoken
  · obtain rfl := List.mem_singleton.1 h
    exact ⟨(Bool.and_eq_true .. ▸ htoken).2, rfl⟩
  · cases h

end PlacedWord

namespace Imperative

variable {masked unmasked : List Char} {start line : Nat} {ws : List PlacedWord} {result : LineResult}

/-! ## Readings -/

/-- What a line's reading names are tokens of words of the line. -/
def NamesWords (ws : List PlacedWord) (line : Nat) (result : LineResult) : Prop :=
  (∀ action t, result.1 = some (action, some t) → ∃ w ∈ ws, w.token? line = some t) ∧
    ∀ x ∈ result.2, ∃ w ∈ ws, x ∈ w.extraWarning line

/-- The token that a notification starts with, if its first word is one. -/
def lead? : List PlacedWord → Option PlacedWord
  | w :: _ => if w.isToken then some w else none
  | [] => none

/-- Where the message of a notification starts: after its token, if it starts with one. -/
def messageStart (start : Nat) (ws : List PlacedWord) : Nat := ((lead? ws).map (·.stop)).getD start

/-- What a notification says, from where its message starts. -/
def notification (ws : List PlacedWord) (line : Nat) (rest : List Char) : LineResult :=
  let message := String.ofList (trim rest)
  let token := (lead? ws).bind (·.token? line)
  (if message.isEmpty ∧ token.isNone then none else some (.notify message, token),
    (if (lead? ws).isSome then ws.tail else ws).flatMap (·.extraWarning line))

theorem mem_of_lead? {w : PlacedWord} (h : lead? ws = some w) : w ∈ ws := by
  cases ws with
  | nil => cases h
  | cons v rest =>
    rw [lead?] at h
    split_ifs at h
    exact Option.some.inj h ▸ List.mem_cons_self

/-- A notification is read if its message does not start inside a character. -/
theorem notify?_eq :
    notify? unmasked start ws line = (dropBytes? unmasked (messageStart start ws)).map (notification ws line) := by
  have hlead : notify? unmasked start ws line = (dropBytes? unmasked (messageStart start ws)).bind fun rest =>
      if (String.ofList (trim rest)).isEmpty ∧ ((lead? ws).bind (·.token? line)).isNone then
        some (none, (if (lead? ws).isSome then ws.tail else ws).flatMap (·.extraWarning line))
      else some (some (.notify (String.ofList (trim rest)), (lead? ws).bind (·.token? line)),
        (if (lead? ws).isSome then ws.tail else ws).flatMap (·.extraWarning line)) := by
    cases ws with
    | nil => rfl
    | cons w rest =>
      by_cases hw : w.isToken = true
      · simp only [notify?, messageStart, lead?, if_pos hw]; rfl
      · simp only [notify?, messageStart, lead?, if_neg hw]; rfl
  rw [hlead]
  cases dropBytes? unmasked (messageStart start ws) with
  | none => rfl
  | some rest =>
    simp only [Option.bind_some, Option.map_some, notification]
    split_ifs <;> rfl

theorem notify?_names (h : notify? unmasked start ws line = some result) : NamesWords ws line result := by
  rw [notify?_eq] at h
  obtain ⟨rest, -, rfl⟩ := Option.map_eq_some_iff.1 h
  constructor
  · intro action t ht
    simp only [notification] at ht
    split_ifs at ht
    obtain ⟨w, hw, ht⟩ := Option.bind_eq_some_iff.1 (Prod.mk.inj (Option.some.inj ht)).2
    exact ⟨w, mem_of_lead? hw, ht⟩
  · intro x hx
    obtain ⟨w, hw, hx⟩ := List.mem_flatMap.1 hx
    refine ⟨w, ?_, hx⟩
    split_ifs at hw
    · exact List.mem_of_mem_tail hw
    · exact hw

theorem isSome_mapM {α β : Type} {f : α → Option β} {l : List α} (h : ∀ a ∈ l, (f a).isSome) : (l.mapM f).isSome := by
  induction l with
  | nil => rfl
  | cons a l ih =>
    obtain ⟨b, hb⟩ := Option.isSome_iff_exists.1 (h a List.mem_cons_self)
    obtain ⟨bs, hbs⟩ := Option.isSome_iff_exists.1 (ih fun c hc => h c (List.mem_cons_of_mem _ hc))
    simp [List.mapM_cons, hb, hbs]

/-- An action is read if its words do not start or end inside a character. -/
theorem runAction?_isSome (h : ∀ w ∈ ws, (sliceBytes? unmasked w.start (byteLength w.text)).isSome) :
    (runAction? unmasked ws line).isSome := by
  unfold runAction?
  cases ws with
  | nil => rfl
  | cons name rest =>
    have htext (l : List PlacedWord) (hl : ∀ w ∈ l, w ∈ rest) :
        (l.mapM fun w => (sliceBytes? unmasked w.start (byteLength w.text)).map String.ofList).isSome :=
      isSome_mapM fun w hw => by rw [Option.isSome_map]; exact h w (List.mem_cons_of_mem _ (hl w hw))
    obtain ⟨action, haction⟩ := Option.isSome_iff_exists.1 (h name List.mem_cons_self)
    simp only [haction, Option.map_some, Option.bind_eq_bind, Option.bind_some]
    have hbefore (w : PlacedWord) (hw : w ∈ rest.takeWhile (!·.isToken)) : w ∈ rest := (List.takeWhile_prefix _).mem hw
    split
    · obtain ⟨args, hargs⟩ := Option.isSome_iff_exists.1 (htext _ hbefore)
      rw [hargs]
      rfl
    · rename_i first others hfirst
      have hmem : first :: others <:+ rest := hfirst ▸ List.dropWhile_suffix _
      obtain ⟨args, hargs⟩ := Option.isSome_iff_exists.1 (htext (rest.takeWhile (!·.isToken) ++ others) fun w hw =>
        (List.mem_append.1 hw).elim (hbefore w) fun hw => hmem.mem (List.mem_cons_of_mem _ hw))
      rw [hargs]
      rfl

theorem runAction?_names (h : runAction? unmasked ws line = some result) : NamesWords ws line result := by
  unfold runAction? at h
  cases ws with
  | nil =>
    obtain rfl := Option.some.inj h
    exact ⟨by simp, by simp⟩
  | cons name rest =>
    simp only [Option.bind_eq_bind, Option.bind_eq_some_iff] at h
    obtain ⟨action, -, h⟩ := h
    split at h
    · obtain ⟨args, -, h⟩ := Option.bind_eq_some_iff.1 h
      obtain rfl := Option.some.inj h
      exact ⟨by simp, by simp⟩
    · rename_i first others hfirst
      have hmem : first :: others <:+ rest := hfirst ▸ List.dropWhile_suffix _
      obtain ⟨args, -, h⟩ := Option.bind_eq_some_iff.1 h
      obtain rfl := Option.some.inj h
      refine ⟨?_, ?_⟩
      · intro _ t ht
        exact ⟨first, List.mem_cons_of_mem _ (hmem.mem List.mem_cons_self), (Prod.mk.inj (Option.some.inj ht)).2⟩
      · intro x hx
        obtain ⟨w, hw, hx⟩ := List.mem_flatMap.1 hx
        exact ⟨w, List.mem_cons_of_mem _ (hmem.mem (List.mem_cons_of_mem _ hw)), hx⟩

/-! ## Lines -/

/-- An imperative and warnings from the reading of a line. -/
def ofResult (unmasked : List Char) (line : Nat) (r : LineResult) : Option Imperative × List ScheduleWarning :=
  (r.1.map fun (action, token) => ⟨action, token, line, String.ofList (trim unmasked)⟩, r.2)

/-- What a line can be, by what is left of it after its markers. -/
theorem parseLine?_cases (masked : List Char) :
    (∃ tail, (skipMarkers 0 masked).2 = notifyKeyword ++ tail ∧ ∀ unmasked line, parseLine? masked unmasked line =
      let start := (skipMarkers 0 masked).1 + notifyKeyword.length
      (notify? unmasked start (PlacedWord.list start tail) line).map (ofResult unmasked line)) ∨
    (∃ tail, (skipMarkers 0 masked).2 = runKeyword ++ tail ∧ ∀ unmasked line, parseLine? masked unmasked line =
      let start := (skipMarkers 0 masked).1 + runKeyword.length
      (runAction? unmasked (PlacedWord.list start tail) line).map (ofResult unmasked line)) ∨
    (∀ tail, (skipMarkers 0 masked).2 ≠ notifyKeyword ++ tail) ∧
      ∀ unmasked line, parseLine? masked unmasked line = some (none, []) := by
  simp only [parseLine?]
  generalize skipMarkers 0 masked = skipped
  obtain ⟨start, rest⟩ := skipped
  dsimp only
  cases hnotify : dropPrefix? notifyKeyword rest with
  | some tail => exact Or.inl ⟨tail, dropPrefix?_eq_some hnotify, fun _ _ => (Option.map_eq_bind ..).symm⟩
  | none =>
    cases hrun : dropPrefix? runKeyword rest with
    | some tail =>
      exact Or.inr (Or.inl ⟨tail, dropPrefix?_eq_some hrun, fun _ _ => (Option.map_eq_bind ..).symm⟩)
    | none =>
      refine Or.inr (Or.inr ⟨fun tail h => ?_, fun unmasked line => rfl⟩)
      rw [h, dropPrefix?_append] at hnotify
      cases hnotify

theorem isIn_of_mem_words {keyword tail : List Char} {w : PlacedWord} (hkeyword : byteLength keyword = keyword.length)
    (hrest : (skipMarkers 0 masked).2 = keyword ++ tail)
    (hw : w ∈ PlacedWord.list ((skipMarkers 0 masked).1 + keyword.length) tail) : w.IsIn 0 masked := by
  obtain ⟨before, hmasked, hstart⟩ := skipMarkers_spec 0 masked
  have h := PlacedWord.isIn_of_mem_list hw
  rw [← hkeyword, ← hstart] at h
  rw [hmasked, hrest]
  exact (h.append_left _).append_left _

/-- What a reading names are tokens of words, as they are written. -/
theorem NamesWords.mention {ws : List PlacedWord} {r : LineResult} (h : NamesWords ws line r) {m : Mention}
    (hm : m ∈ mentionsOf [] (ofResult unmasked line r).1.toList (ofResult unmasked line r).2) :
    ∃ w ∈ ws, w.schedule?.isSome ∧ m = w.tokenPiece.mention line := by
  simp only [mentionsOf, ofResult, List.map_nil, List.nil_append, List.mem_append, List.mem_filterMap, List.mem_map,
    Option.mem_toList, Option.map_eq_some_iff] at hm
  rcases hm with ⟨_, ⟨⟨action, token⟩, hr, rfl⟩, t, ht, rfl⟩ | ⟨x, hx, rfl⟩
  · obtain rfl : token = some t := ht
    obtain ⟨w, hw, htoken⟩ := h.1 action t hr
    exact ⟨w, hw, PlacedWord.mention_token? htoken⟩
  · obtain ⟨w, hw, hx⟩ := h.2 x hx
    exact ⟨w, hw, PlacedWord.mention_extraWarning hx⟩

/-- What is read from a line is a reading of words of the masked line. -/
theorem exists_result {found : Option Imperative × List ScheduleWarning}
    (h : parseLine? masked unmasked line = some found) :
    ∃ ws r, NamesWords ws line r ∧ (∀ w ∈ ws, w.IsIn 0 masked) ∧ ofResult unmasked line r = found := by
  rcases parseLine?_cases masked with ⟨tail, hrest, heq⟩ | ⟨tail, hrest, heq⟩ | ⟨-, heq⟩
  · rw [heq] at h
    obtain ⟨r, hr, hfound⟩ := Option.map_eq_some_iff.1 h
    exact ⟨_, r, notify?_names hr, fun w => isIn_of_mem_words (by decide) hrest, hfound⟩
  · rw [heq] at h
    obtain ⟨r, hr, hfound⟩ := Option.map_eq_some_iff.1 h
    exact ⟨_, r, runAction?_names hr, fun w => isIn_of_mem_words (by decide) hrest, hfound⟩
  · rw [heq] at h
    exact ⟨[], (none, []), ⟨by simp, by simp⟩, by simp, Option.some.inj h⟩

/-- An imperative and its warnings name tokens of the masked line. -/
theorem mentions_parseLine? {imperative : Option Imperative} {warnings : List ScheduleWarning} {m : Mention}
    (h : parseLine? masked unmasked line = some (imperative, warnings))
    (hm : m ∈ mentionsOf [] imperative.toList warnings) : ∃ w : PlacedWord, w.IsIn 0 masked ∧ m = w.mention line := by
  obtain ⟨ws, r, hnames, hws, hfound⟩ := exists_result h
  rw [← show (ofResult unmasked line r).1 = imperative by rw [hfound],
    ← show (ofResult unmasked line r).2 = warnings by rw [hfound]] at hm
  obtain ⟨w, hw, hs, rfl⟩ := hnames.mention hm
  exact ⟨w.tokenPiece, (hws w hw).token hs, rfl⟩

/-- The warnings of an imperative are about tokens that are well formed. -/
theorem schedule_of_mem_warnings {imperative : Option Imperative} {warnings : List ScheduleWarning} {x : ScheduleWarning}
    (h : parseLine? masked unmasked line = some (imperative, warnings)) (hx : x ∈ warnings) :
    ∃ s, Schedule.parseToken x.raw = .ok s := by
  obtain ⟨ws, r, hnames, -, hfound⟩ := exists_result h
  rw [← show (ofResult unmasked line r).2 = warnings by rw [hfound]] at hx
  obtain ⟨w, -, hw⟩ := hnames.2 x hx
  unfold PlacedWord.extraWarning at hw
  split_ifs at hw with htoken
  · obtain rfl := List.mem_singleton.1 hw
    obtain ⟨s, hs⟩ := Option.isSome_iff_exists.1 (Bool.and_eq_true .. ▸ htoken).2
    refine ⟨s, ?_⟩
    unfold PlacedWord.schedule? at hs
    split at hs
    · rename_i s' hparse
      rwa [← Option.some.inj hs]
    · cases hs
  · cases hw

/-! ## Lines without an answer -/

/-- A line that is masked so that the message of a notification would start inside a character: after its markers it
reads `Notify` and then blanks that stand for one character of several bytes, and no token comes next. -/
def CutsMessage (masked unmasked : List Char) : Prop :=
  ∃ before c after rest, unmasked = before ++ "Notify".toList ++ c :: after ∧ 1 < c.utf8Size ∧
    skipMarkers 0 masked = (byteLength before, "Notify".toList ++ List.replicate c.utf8Size ' ' ++ rest) ∧
    (rest.dropWhile isBlank).head? ≠ some '@'

theorem lead?_list (offset : Nat) (cs : List Char) :
    (lead? (PlacedWord.list offset cs)).isSome ↔ (cs.dropWhile isBlank).head? = some '@' := by
  rw [PlacedWord.list]
  split
  · rename_i hdrop
    simp [hdrop, lead?]
  · rename_i c rest hdrop
    have hc : isBlank c = false := by
      have := List.head?_dropWhile_not isBlank cs
      simpa [hdrop] using this
    rw [hdrop]
    simp only [lead?, PlacedWord.isToken, List.takeWhile_cons, hc, Bool.not_false, if_true, List.head?_cons]
    split_ifs with hat <;> simpa using hat

theorem messageStart_of_lead?_eq_none (h : lead? ws = none) : messageStart start ws = start := by
  rw [messageStart, h]
  rfl

theorem dropWhile_isBlank_spaces (n : Nat) (cs : List Char) :
    (List.replicate n ' ' ++ cs).dropWhile isBlank = cs.dropWhile isBlank := by
  rw [List.dropWhile_append_of_pos]
  intro c hc
  rw [List.eq_of_mem_replicate hc]
  decide

theorem notifyKeyword_eq : notifyKeyword = "Notify".toList ++ [' '] := by decide

/-- A blank after `Notify` completes the keyword. -/
theorem notify_spaces {n : Nat} (h : 0 < n) (rest : List Char) :
    "Notify".toList ++ List.replicate n ' ' ++ rest = notifyKeyword ++ (List.replicate (n - 1) ' ' ++ rest) := by
  obtain ⟨n, rfl⟩ := Nat.exists_eq_add_one_of_ne_zero (Nat.ne_of_gt h)
  rw [List.replicate_succ, notifyKeyword_eq]
  simp

/-- The reading of a notification on a line, from where its markers and the keyword end. -/
def readNotify? (masked unmasked tail : List Char) (line : Nat) : Option LineResult :=
  let start := (skipMarkers 0 masked).1 + notifyKeyword.length
  notify? unmasked start (PlacedWord.list start tail) line

/-- Without an answer the message starts right after the keyword: after a token it could start between characters. -/
theorem lead?_eq_none_of_notify? {ranges : List Span} {i : Nat} {tail : List Char}
    (h : Mask.Masks ranges i masked unmasked) (hrest : (skipMarkers 0 masked).2 = notifyKeyword ++ tail)
    (hnone : readNotify? masked unmasked tail line = none) :
    lead? (PlacedWord.list ((skipMarkers 0 masked).1 + notifyKeyword.length) tail) = none := by
  rw [readNotify?, notify?_eq, Option.map_eq_none_iff] at hnone
  rw [Option.eq_none_iff_forall_ne_some]
  intro w hw
  have hstop := ((isIn_of_mem_words (by decide) hrest (mem_of_lead? hw)).unmask h).isBoundary_stop
  rw [messageStart, hw, Option.map_some, Option.getD_some] at hnone
  rw [IsBoundary, hnone] at hstop
  cases hstop

theorem cutsMessage_of_notify?_eq_none {ranges : List Span} {i : Nat} {tail : List Char}
    (h : Mask.Masks ranges i masked unmasked) (hrest : (skipMarkers 0 masked).2 = notifyKeyword ++ tail)
    (hnone : readNotify? masked unmasked tail line = none) : CutsMessage masked unmasked := by
  have hlead := lead?_eq_none_of_notify? h hrest hnone
  rw [readNotify?, notify?_eq, Option.map_eq_none_iff, messageStart_of_lead?_eq_none hlead] at hnone
  obtain ⟨lineStart, hmasked, hstart⟩ := skipMarkers_spec 0 masked
  rw [Nat.zero_add] at hstart
  rw [hmasked, hrest, notifyKeyword_eq, ← List.append_assoc, ← List.append_assoc, List.append_assoc _ [' ']] at h
  have hspace : ' ' ∉ "Notify".toList := by decide
  obtain ⟨before, after, rfl, hlen, hafter⟩ := h.split_word (by simp) fun c hc heq => hspace (heq ▸ hc)
  -- The line as written cannot be cut one byte after `Notify`, so a longer character was masked there.
  have hcut : ¬ IsBoundary after 1 := by
    intro hone
    obtain ⟨first, rest, rfl, hfirst⟩ := isBoundary_iff.1 hone
    have hbound : IsBoundary (before ++ "Notify".toList ++ (first ++ rest))
        ((skipMarkers 0 masked).1 + notifyKeyword.length) :=
      isBoundary_iff.2 ⟨before ++ "Notify".toList ++ first, rest, by simp, by
        rw [byteLength_append, byteLength_append, hfirst, hlen, hstart]; rfl⟩
    rw [IsBoundary, hnone] at hbound
    cases hbound
  obtain ⟨c, after, rest, rfl, hsize, hspaces⟩ := hafter.cut_space hcut
  have hskip : (skipMarkers 0 masked).2 = "Notify".toList ++ List.replicate c.utf8Size ' ' ++ rest := by
    rw [hrest, notifyKeyword_eq, List.append_assoc, List.append_assoc, ← hspaces]
    rfl
  refine ⟨before, c, after, rest, rfl, hsize, Prod.ext (by rw [hlen, hstart]) hskip, ?_⟩
  rw [notify_spaces (Nat.lt_trans Nat.zero_lt_one hsize), hrest] at hskip
  rw [← dropWhile_isBlank_spaces (c.utf8Size - 1), ← List.append_cancel_left hskip, Ne,
    ← lead?_list ((skipMarkers 0 masked).1 + notifyKeyword.length), hlead]
  simp

theorem notify?_eq_none_of_cutsMessage {tail : List Char} (hrest : (skipMarkers 0 masked).2 = notifyKeyword ++ tail)
    (hcuts : CutsMessage masked unmasked) : readNotify? masked unmasked tail line = none := by
  obtain ⟨before, c, after, rest, rfl, hsize, hskip, hat⟩ := hcuts
  have hskip2 : (skipMarkers 0 masked).2 = "Notify".toList ++ List.replicate c.utf8Size ' ' ++ rest := by rw [hskip]
  rw [notify_spaces (Nat.lt_trans Nat.zero_lt_one hsize), hrest] at hskip2
  rw [← dropWhile_isBlank_spaces (c.utf8Size - 1), ← List.append_cancel_left hskip2, Ne,
    ← lead?_list ((skipMarkers 0 masked).1 + notifyKeyword.length), Option.not_isSome_iff_eq_none] at hat
  rw [readNotify?, notify?_eq, Option.map_eq_none_iff, messageStart_of_lead?_eq_none hat, hskip]
  by_contra hsome
  have hbound : IsBoundary (before ++ "Notify".toList ++ c :: after) (byteLength before + notifyKeyword.length) :=
    Option.isSome_iff_ne_none.2 hsome
  -- The message would start one byte after `Notify`, inside the character that stands there.
  have hseven : notifyKeyword.length = 7 := by decide
  have hsix : byteLength "Notify".toList = 6 := by decide
  rcases hbound.le_or_le with hle | hle
  · rw [byteLength_append] at hle
    omega
  · simp only [byteLength_append, byteLength_cons, byteLength_nil] at hle
    omega

/-- **The one case in which a line has no answer.** -/
theorem parseLine?_eq_none_iff {ranges : List Span} {i : Nat} (h : Mask.Masks ranges i masked unmasked) (line : Nat) :
    parseLine? masked unmasked line = none ↔ CutsMessage masked unmasked := by
  have hnotify (hcuts : CutsMessage masked unmasked) : ∃ tail, (skipMarkers 0 masked).2 = notifyKeyword ++ tail := by
    obtain ⟨before, c, after, rest, -, hsize, hskip, -⟩ := hcuts
    exact ⟨_, by rw [hskip]; exact notify_spaces (Nat.lt_trans Nat.zero_lt_one hsize) rest⟩
  rcases parseLine?_cases masked with ⟨tail, hrest, heq⟩ | ⟨tail, hrest, heq⟩ | ⟨hno, heq⟩
  · rw [heq, Option.map_eq_none_iff]
    exact ⟨cutsMessage_of_notify?_eq_none h hrest, notify?_eq_none_of_cutsMessage hrest⟩
  · refine iff_of_false ?_ fun hcuts => ?_
    · have hwords : ∀ w ∈ PlacedWord.list ((skipMarkers 0 masked).1 + runKeyword.length) tail,
          (sliceBytes? unmasked w.start (byteLength w.text)).isSome := fun w hw => by
        rw [((isIn_of_mem_words (by decide) hrest hw).unmask h).slice]
        rfl
      rw [heq, Option.map_eq_none_iff, ← Ne, ← Option.isSome_iff_ne_none]
      exact runAction?_isSome hwords
    · obtain ⟨tail', htail⟩ := hnotify hcuts
      rw [hrest] at htail
      cases htail
  · refine iff_of_false (by simp [heq]) fun hcuts => ?_
    obtain ⟨tail, htail⟩ := hnotify hcuts
    exact hno tail htail

end Imperative

variable {ranges : List Span} {line i : Nat} {masked unmasked : List Char}

/-- All that the scan of a line names stands in the masked line, and it is named with the line's number. -/
theorem mentions_scanLine? {r : ScanResult} {m : Mention} (h : scanLine? masked unmasked line = some r)
    (hm : m ∈ r.mentions) : ∃ w : PlacedWord, w.IsIn 0 masked ∧ m = w.mention line := by
  simp only [scanLine?, Option.bind_eq_bind, Option.bind_eq_some_iff] at h
  obtain ⟨⟨imperative, warnings⟩, hparse, h⟩ := h
  obtain rfl := Option.some.inj h
  rcases ScanResult.mem_mentions_foldr.1 hm with ⟨r, hr, hm⟩ | hm
  · obtain ⟨w, hw, rfl⟩ := List.mem_map.1 hr
    rw [mentions_readCandidate, List.mem_singleton] at hm
    exact ⟨w, PlacedWord.isIn_of_mem_tokenSpans hw, hm⟩
  · exact Imperative.mentions_parseLine? hparse hm

theorem scanLine?_eq_none_iff (h : Mask.Masks ranges i masked unmasked) (line : Nat) :
    scanLine? masked unmasked line = none ↔ Imperative.CutsMessage masked unmasked := by
  rw [← Imperative.parseLine?_eq_none_iff h line, scanLine?]
  cases Imperative.parseLine? masked unmasked line <;> simp

/-! ## Bodies -/

/-- The lines of a masked body, each beside the line that it masks. -/
def linePairs (ranges : List Span) (cs : List Char) : List (List Char × List Char) :=
  (linesWithEnds (Mask.apply ranges cs)).zip (linesWithEnds cs)

/-- The lines of a scan are those of the masked body and those of the body, at the same bytes. -/
theorem stands_linePairs {cs : List Char} (h : ∀ r ∈ ranges, r.OnBoundaries cs)
    {before after : List (List Char × List Char)} {p : List Char × List Char}
    (hp : linePairs ranges cs = before ++ p :: after) :
    Mask.Masks ranges (byteLength (before.map (·.1)).flatten) p.1 p.2 ∧
      linesWithEnds cs = before.map (·.2) ++ p.2 :: after.map (·.2) ∧
      byteLength (before.map (·.2)).flatten = byteLength (before.map (·.1)).flatten := by
  have hlines := (Mask.masks_apply h).lines.stands hp
  rwa [Nat.zero_add] at hlines

/-- A scan of lines names just what the scan of each line names, with the number that the line map gives for the byte at
which the line starts. -/
theorem mem_mentions_scanLines?_iff {lines : LineMap} {pairs : List (List Char × List Char)} {r : ScanResult} {m : Mention}
    (h : scanLines? lines i pairs = some r) : m ∈ r.mentions ↔ ∃ before p after found, pairs = before ++ p :: after ∧
      scanLine? (dropLineEnd p.1) (dropLineEnd p.2) (lines.lineOf (i + byteLength (before.map (·.1)).flatten)) =
        some found ∧ m ∈ found.mentions := by
  -- By the lines of the scan; the byte at which a line starts is counted from the lines before it.
  induction pairs generalizing i r with
  | nil =>
    obtain rfl := Option.some.inj h
    simp [ScanResult.mentions, mentionsOf]
  | cons p rest ih =>
    simp only [scanLines?, Option.bind_eq_bind, Option.bind_eq_some_iff] at h
    obtain ⟨here, hhere, later, hlater, h⟩ := h
    obtain rfl := Option.some.inj h
    rw [ScanResult.mem_mentions_append, ih hlater]
    constructor
    · rintro (hm | ⟨before, q, after, found, rfl, hfound, hm⟩)
      · exact ⟨[], p, rest, here, rfl, hhere, hm⟩
      · refine ⟨p :: before, q, after, found, rfl, ?_, hm⟩
        rwa [List.map_cons, List.flatten_cons, byteLength_append, ← Nat.add_assoc]
    · rintro ⟨before, q, after, found, hp, hfound, hm⟩
      cases before with
      | nil =>
        obtain ⟨rfl, rfl⟩ := List.cons.inj hp
        obtain rfl := Option.some.inj (hhere.symm.trans hfound)
        exact .inl hm
      | cons _ before =>
        obtain ⟨rfl, rfl⟩ := List.cons.inj hp
        rw [List.map_cons, List.flatten_cons, byteLength_append, ← Nat.add_assoc] at hfound
        exact .inr ⟨before, q, after, found, rfl, hfound, hm⟩

/-- All that a scan of lines names stands in one of the masked lines. -/
theorem mentions_scanLines? {lines : LineMap} {pairs : List (List Char × List Char)} {r : ScanResult} {m : Mention}
    (h : scanLines? lines i pairs = some r) (hm : m ∈ r.mentions) :
    ∃ before p after, ∃ w : PlacedWord, pairs = before ++ p :: after ∧ w.IsIn 0 (dropLineEnd p.1) ∧
      m = w.mention (lines.lineOf (i + byteLength (before.map (·.1)).flatten)) := by
  obtain ⟨before, p, after, found, hp, hfound, hm⟩ := (mem_mentions_scanLines?_iff h).1 hm
  obtain ⟨w, hw, hmention⟩ := mentions_scanLine? hfound hm
  exact ⟨before, p, after, w, hp, hw, hmention⟩

theorem scanLines?_eq_none_iff {lines : LineMap} {maskeds unmaskeds : List (List Char)}
    (h : Mask.Masks.Lines ranges i maskeds unmaskeds) : scanLines? lines i (maskeds.zip unmaskeds) = none ↔
      ∃ p ∈ maskeds.zip unmaskeds, Imperative.CutsMessage (dropLineEnd p.1) (dropLineEnd p.2) := by
  induction h with
  | nil => simp [scanLines?]
  | @cons i masked line maskeds unmaskeds h rest ih =>
    have hline := scanLine?_eq_none_iff h.dropLineEnd (lines.lineOf i)
    simp only [List.zip_cons_cons, List.exists_mem_cons_iff, ← hline, ← ih, scanLines?]
    cases scanLine? (dropLineEnd masked) (dropLineEnd line) (lines.lineOf i) with
    | none => simp
    | some here => cases scanLines? lines (i + byteLength masked) (maskeds.zip unmaskeds) <;> simp

/-- **The one case in which a body has no answer**: one of its lines has none. -/
theorem scan?_eq_none_iff {body : String} {lines : LineMap} (h : ∀ r ∈ ranges, r.OnBoundaries body.toList) :
    scan? body ranges lines = none ↔
      ∃ p ∈ linePairs ranges body.toList, Imperative.CutsMessage (dropLineEnd p.1) (dropLineEnd p.2) := by
  have hranges : Mask.wellFormed ranges (byteLength body.toList) = true := by
    refine List.all_eq_true.2 fun r hr => decide_eq_true ?_
    have := (h r hr).le
    omega
  rw [scan?, if_pos hranges]
  exact scanLines?_eq_none_iff (Mask.masks_apply h).lines

end LivePage
