import LivePage.Frontmatter
import LivePage.Proofs.Text.Bytes
import LivePage.Proofs.Text.LineEdit
/-!
# Where the body starts

The lines of a document are those of its header and then those of its body, and the line on which the body starts
counts those before it. What a document says before its body does not depend on the body.
-/
namespace LivePage

open Text

/-! ## The first line -/

/-- What opens a header is a line of its own. -/
theorem splitOpening?_eq_some {text opening rest : List Char} (h : splitOpening? text = some (opening, rest)) :
    text = opening ++ rest ∧ (opening = ['-', '-', '-', '\n'] ∨ opening = ['-', '-', '-', '\r', '\n']) := by
  obtain ⟨o, ho, hmap⟩ := List.exists_of_findSome?_eq_some h
  obtain ⟨r, hr, heq⟩ := Option.map_eq_some_iff.1 hmap
  simp only [Prod.mk.injEq] at heq
  obtain ⟨rfl, rfl⟩ := heq
  refine ⟨dropPrefix?_eq_some hr, ?_⟩
  simpa using ho

/-- What a document is split into below the line that opens its header. -/
def extractBelow (decode : String → Except DecodeFault Header) (first rest : List Char) :
    Except FrontmatterFault Extracted :=
  let isDelimiter (line : List Char) : Bool := dropLineEnd line == delimiterLine
  match (linesWithEnds rest).dropWhile (!isDelimiter ·) with
  | [] => .error .unclosed
  | closing :: body =>
    let header := ((linesWithEnds rest).takeWhile (!isDelimiter ·)).flatten
    let before := first ++ header ++ closing
    match if isBlankText header then .ok {} else decode (String.ofList header) with
    | .error fault => .error (.undecodable fault)
    | .ok header =>
      .ok
        { frontmatter := header.toFrontmatter
          body := String.ofList body.flatten
          bodyOffset := byteLength before
          bodyLine := 1 + before.count '\n' }

/-- What a header says: nothing if it is blank, and otherwise what the decoder makes of it. -/
def decodeHeader (decode : String → Except DecodeFault Header) (header : List Char) :
    Except FrontmatterFault Frontmatter :=
  if isBlankText header then .ok {}
  else match decode (String.ofList header) with
    | .error fault => .error (.undecodable fault)
    | .ok header => .ok header.toFrontmatter

/-- What opens a header: a line of three hyphens, after a byte order mark or none. -/
def OpensHeader (first : List Char) : Prop :=
  ∃ mark newline, (mark = [] ∨ mark = ['\uFEFF']) ∧ IsNewline newline ∧ first = mark ++ delimiterLine ++ newline

theorem OpensHeader.closed {first : List Char} (h : OpensHeader first) : Closed first := by
  obtain ⟨mark, newline, rfl | rfl, hnewline, rfl⟩ := h <;> exact hnewline.closed (by decide)

/-- A document with a header is split below the line that opens it. -/
theorem OpensHeader.extractWith_eq {first : List Char} (h : OpensHeader first)
    (decode : String → Except DecodeFault Header) (rest : List Char) :
    extractWith decode (String.ofList (first ++ rest)) = extractBelow decode first rest := by
  obtain ⟨mark, newline, hmark, hnewline, rfl⟩ := h
  have hagain : ((mark ++ delimiterLine ++ newline ++ rest).takeWhile (· == '\uFEFF')).take 1 = mark := by
    rcases hmark with rfl | rfl <;> rcases hnewline with rfl | rfl <;> rfl
  have hopens : splitOpening? ((mark ++ delimiterLine ++ newline ++ rest).drop mark.length) =
      some (delimiterLine ++ newline, rest) := by
    rw [List.append_assoc, List.append_assoc, List.drop_left, ← List.append_assoc]
    rcases hnewline with rfl | rfl <;> rfl
  unfold extractWith
  simp only [String.toList_ofList, hagain, hopens]
  rw [← List.append_assoc]
  rfl

/-- **How a document opens**: with a line that opens a header, or it has no header. -/
theorem extractWith_cases (source : String) :
    ((∀ first rest, OpensHeader first → source.toList ≠ first ++ rest) ∧
      ∀ decode, extractWith decode source = .ok { body := source }) ∨
      ∃ first rest, OpensHeader first ∧ source.toList = first ++ rest := by
  by_cases hopens : ∃ first rest, OpensHeader first ∧ source.toList = first ++ rest
  · exact .inr hopens
  refine .inl ⟨fun first rest hfirst heq => hopens ⟨first, rest, hfirst, heq⟩, fun decode => ?_⟩
  suffices hnone : splitOpening? (source.toList.drop ((source.toList.takeWhile (· == '\uFEFF')).take 1).length) = none by
    simp only [extractWith, hnone]
  generalize hmark : (source.toList.takeWhile (· == '\uFEFF')).take 1 = mark
  have hprefix : mark <+: source.toList := hmark ▸ (List.take_prefix 1 _).trans (List.takeWhile_prefix _)
  have hmarks : mark = [] ∨ mark = ['\uFEFF'] := by
    rw [← hmark]
    cases htake : source.toList.takeWhile (· == '\uFEFF') with
    | nil => exact .inl rfl
    | cons c cs =>
      have := List.mem_takeWhile_imp (htake ▸ List.mem_cons_self)
      exact .inr (by simpa using this)
  obtain ⟨below, hbelow⟩ := hprefix
  rw [← hbelow, List.drop_left, Option.eq_none_iff_forall_ne_some]
  rintro ⟨opening, rest⟩ hopening
  obtain ⟨rfl, hdash⟩ := splitOpening?_eq_some hopening
  refine hopens ⟨mark ++ opening, rest, ?_, by rw [← hbelow, List.append_assoc]⟩
  rcases hdash with rfl | rfl
  · exact ⟨mark, "\n".toList, hmarks, .inl rfl, by simp [delimiterLine]⟩
  · exact ⟨mark, "\r\n".toList, hmarks, .inr rfl, by simp [delimiterLine]⟩

/-! ## Header and body -/

variable {decode : String → Except DecodeFault Header} {source : String} {x : Extracted}

/-- Without a header the document is its own body. -/
theorem extractWith_eq_ok (hx : extractWith decode source = .ok x) :
    (x.body = source ∧ x.bodyLine = 1) ∨
    ∃ opening header closing body, linesWithEnds source.toList = opening :: header ++ closing :: body ∧
      x.body = String.ofList body.flatten ∧
      x.bodyLine = 1 + (opening :: header ++ [closing]).flatten.count '\n' := by
  rcases extractWith_cases source with ⟨-, h⟩ | ⟨first, rest, hfirst, hsource⟩
  · obtain rfl := Except.ok.inj ((h decode).symm.trans hx)
    exact .inl ⟨rfl, rfl⟩
  · rw [← String.ofList_toList (s := source), hsource, hfirst.extractWith_eq] at hx
    unfold extractBelow at hx
    dsimp only at hx
    split at hx
    · cases hx
    · rename_i closing body hbody
      split at hx
      · cases hx
      · obtain rfl := Except.ok.inj hx
        refine .inr ⟨first, (linesWithEnds rest).takeWhile fun line => !(dropLineEnd line == delimiterLine), closing,
          body, ?_, rfl, by simp⟩
        rw [hsource, linesWithEnds_closed_append hfirst.closed, ← hbody, List.cons_append, List.takeWhile_append_dropWhile]

theorem bodyLine_pos {x : Extracted} (hx : extractWith decode source = .ok x) : 0 < x.bodyLine := by
  rcases extractWith_eq_ok hx with ⟨-, hline⟩ | ⟨_, _, _, _, -, -, hline⟩ <;> omega

/-- The lines of a document from the body's line on are the lines of the body. -/
theorem linesWithEnds_body (hx : extractWith decode source = .ok x) (hbody : x.body ≠ "") :
    (linesWithEnds source.toList).drop (x.bodyLine - 1) = linesWithEnds x.body.toList := by
  rcases extractWith_eq_ok hx with ⟨hsource, hline⟩ | ⟨opening, header, closing, body, hlines, hx, hline⟩
  · rw [hline, hsource]; rfl
  · have hcut : linesWithEnds source.toList = (opening :: header ++ [closing]) ++ body := by simpa using hlines
    obtain ⟨hafter, hcount⟩ := linesWithEnds_eq_append hcut
    have hne : body ≠ [] := by
      rintro rfl
      exact hbody (by rw [hx]; rfl)
    rw [hcut, hline, hcount hne, hx, String.toList_ofList, hafter, Nat.add_sub_cancel_left, List.drop_left]

/-! ## Other bodies -/

section
variable {first header line rest rest' front : List Char} {lines : List (List Char)} {closing : List Char}

/-- A header ends with the first line of three hyphens after it opens. -/
theorem extractBelow_eq_ok (h : extractBelow decode first rest = .ok x) :
    ∃ lines closing body, linesWithEnds rest = lines ++ closing :: body ∧ x.body = String.ofList body.flatten ∧
      (∀ l ∈ lines, dropLineEnd l ≠ delimiterLine) ∧ dropLineEnd closing = delimiterLine := by
  unfold extractBelow at h
  dsimp only at h
  split at h
  · cases h
  · rename_i closing body hbody
    split at h
    · cases h
    · obtain rfl := Except.ok.inj h
      refine ⟨(linesWithEnds rest).takeWhile fun line => !(dropLineEnd line == delimiterLine), closing, body, ?_, rfl,
        fun l hl => by simpa using List.mem_takeWhile_imp hl, ?_⟩
      · rw [← hbody, List.takeWhile_append_dropWhile]
      · have hclosing := List.head?_dropWhile_not (fun line => !(dropLineEnd line == delimiterLine)) (linesWithEnds rest)
        rw [hbody] at hclosing
        simpa using hclosing

/-- Without a line of three hyphens a header has no end. -/
theorem extractBelow_eq_unclosed (h : ∀ l ∈ linesWithEnds rest, dropLineEnd l ≠ delimiterLine) :
    extractBelow decode first rest = .error .unclosed := by
  have hnone : (linesWithEnds rest).dropWhile (fun line => !(dropLineEnd line == delimiterLine)) = [] :=
    List.dropWhile_eq_nil_iff.2 fun l hl => by simpa using h l hl
  unfold extractBelow
  simp only [hnone]

/-- A document is cut at the first line of three hyphens. -/
theorem extractBelow_of_lines {body : List (List Char)} (hcut : linesWithEnds rest = lines ++ closing :: body)
    (hlines : ∀ l ∈ lines, dropLineEnd l ≠ delimiterLine) (hclosing : dropLineEnd closing = delimiterLine) :
    extractBelow decode first rest = (decodeHeader decode lines.flatten).map fun frontmatter =>
      { frontmatter, body := String.ofList body.flatten
        bodyOffset := byteLength (first ++ lines.flatten ++ closing)
        bodyLine := 1 + (first ++ lines.flatten ++ closing).count '\n' } := by
  have hpos : ∀ l ∈ lines, (!(dropLineEnd l == delimiterLine)) = true := fun l hl => by simpa using hlines l hl
  have hdrop : (linesWithEnds rest).dropWhile (fun line => !(dropLineEnd line == delimiterLine)) = closing :: body := by
    rw [hcut, List.dropWhile_append_of_pos hpos, List.dropWhile_cons_of_neg (by simp [hclosing])]
  have htake : (linesWithEnds rest).takeWhile (fun line => !(dropLineEnd line == delimiterLine)) = lines := by
    rw [hcut, List.takeWhile_append_of_pos hpos, List.takeWhile_cons_of_neg (by simp [hclosing]), List.append_nil]
  unfold extractBelow decodeHeader
  simp only [hdrop, htake]
  split_ifs with hblank
  · rfl
  · cases decode (String.ofList lines.flatten) <;> rfl

theorem extractBelow_append (hclosed : ∀ l ∈ lines ++ [closing], Closed l)
    (hlines : ∀ l ∈ lines, dropLineEnd l ≠ delimiterLine) (hclosing : dropLineEnd closing = delimiterLine)
    (body : List Char) :
    extractBelow decode first ((lines ++ [closing]).flatten ++ body) =
      (extractBelow decode first (lines ++ [closing]).flatten).map fun x => { x with body := String.ofList body } := by
  have hcut (body : List Char) : linesWithEnds ((lines ++ [closing]).flatten ++ body) = lines ++ closing :: linesWithEnds body := by
    rw [linesWithEnds_flatten_append hclosed, List.append_assoc, List.singleton_append]
  have hnil := hcut []
  rw [List.append_nil] at hnil
  rw [extractBelow_of_lines (hcut body) hlines hclosing, extractBelow_of_lines hnil hlines hclosing, linesWithEnds_flatten]
  cases decodeHeader decode lines.flatten <;> rfl

/-- **What a document says before its body does not depend on the body**, as long as its first line is the same. -/
theorem extractWith_otherBody (hline : Closed line) (hx : extractWith decode (String.ofList (front ++ (line ++ rest))) = .ok x)
    (hbody : x.body = String.ofList (line ++ rest)) (rest' : List Char) :
    extractWith decode (String.ofList (front ++ (line ++ rest'))) = .ok { x with body := String.ofList (line ++ rest') } := by
  have hne : line ≠ [] := by
    obtain ⟨k, -, rfl⟩ := hline
    simp
  have hbelow {first rest₀ : List Char} (h : extractBelow decode first rest₀ = .ok x) : line.length + rest.length ≤ rest₀.length := by
    obtain ⟨lines, closing, body, hlines, hx, -⟩ := extractBelow_eq_ok h
    rw [hbody, String.ofList_inj] at hx
    rw [← List.length_append, hx, ← linesWithEnds_flatten rest₀, hlines]
    simp +arith
  rcases extractWith_cases (String.ofList (front ++ (line ++ rest))) with ⟨-, hno⟩ | ⟨first, rest₀, hfirst, hsource⟩
  · -- The document is its body, and its first line opens no header in another one either.
    obtain rfl := Except.ok.inj ((hno decode).symm.trans hx)
    obtain rfl : front = [] := by simpa using hbody
    rcases extractWith_cases (String.ofList ([] ++ (line ++ rest'))) with ⟨-, hno'⟩ | ⟨first, rest₀, hfirst, hsource⟩
    · exact hno' decode
    · have hlines := congrArg linesWithEnds hsource
      rw [String.toList_ofList, List.nil_append, linesWithEnds_closed_append hline,
        linesWithEnds_closed_append hfirst.closed, List.cons.injEq] at hlines
      obtain ⟨rfl, -⟩ := hlines
      have hlength := hbelow ((hfirst.extractWith_eq decode rest).symm.trans hx)
      have := List.length_pos_of_ne_nil hne
      omega
  · -- The header and its closing line are closed lines, so they are found whatever comes after them.
    have hx' := hx
    rw [← String.ofList_toList (s := String.ofList _), hsource, hfirst.extractWith_eq] at hx'
    obtain ⟨lines, closing, body, hlines, hbody', hopen, hclosing⟩ := extractBelow_eq_ok hx'
    rw [hbody, String.ofList_inj] at hbody'
    have hbodyne : body ≠ [] := by
      rintro rfl
      exact hne (List.append_eq_nil_iff.1 hbody').1
    have hcut : linesWithEnds rest₀ = (lines ++ [closing]) ++ body := by simpa using hlines
    have hclosed : ∀ l ∈ lines ++ [closing], Closed l := by
      obtain ⟨l, ls, rfl⟩ := List.exists_cons_of_ne_nil hbodyne
      exact (closed_of_lines hcut).1
    have hrest : rest₀ = (lines ++ [closing]).flatten ++ (line ++ rest) := by
      rw [hbody', ← List.flatten_append, ← hcut, linesWithEnds_flatten]
    obtain rfl : front = first ++ (lines ++ [closing]).flatten := by
      rw [String.toList_ofList, hrest, ← List.append_assoc first] at hsource
      exact List.append_cancel_right hsource
    have hbelow' := hfirst.extractWith_eq decode ((lines ++ [closing]).flatten ++ (line ++ rest'))
    rw [hrest, extractBelow_append hclosed hopen hclosing] at hx'
    rw [List.append_assoc, hbelow', extractBelow_append hclosed hopen hclosing]
    cases hhead : extractBelow decode first (lines ++ [closing]).flatten with
    | error => rw [hhead] at hx'; cases hx'
    | ok y =>
      rw [hhead] at hx'
      obtain rfl := Except.ok.inj hx'
      rfl

end

/-! ## Faults -/

/-- Without frontmatter there is a line that opens a header, and no closing line or a header that is not decoded. -/
theorem extractWith_eq_error {fault : FrontmatterFault} (h : extractWith decode source = .error fault) :
    linesWithEnds source.toList ≠ [] ∧ (fault = .unclosed ∨
      ∃ opening header closing body f, linesWithEnds source.toList = opening :: header ++ closing :: body ∧
        decode (String.ofList header.flatten) = .error f ∧ fault = .undecodable f) := by
  rcases extractWith_cases source with ⟨-, hno⟩ | ⟨first, rest, hfirst, hsource⟩
  · cases (hno decode).symm.trans h
  · have hlines : linesWithEnds source.toList = first :: linesWithEnds rest := by
      rw [hsource, linesWithEnds_closed_append hfirst.closed]
    refine ⟨by rw [hlines]; exact List.cons_ne_nil _ _, ?_⟩
    rw [← String.ofList_toList (s := source), hsource, hfirst.extractWith_eq] at h
    unfold extractBelow at h
    dsimp only at h
    split at h
    · exact .inl (Except.error.inj h).symm
    · rename_i closing body hbody
      split at h
      · rename_i f hdecoded
        split_ifs at hdecoded
        refine .inr ⟨first, _, closing, body, f, ?_, hdecoded, (Except.error.inj h).symm⟩
        rw [hlines, ← hbody, List.cons_append, List.takeWhile_append_dropWhile]
      · cases h

/-- A decoder places its faults on the lines of a header, or on the one after its last line feed. -/
def PlacesInside (decode : String → Except DecodeFault Header) : Prop :=
  ∀ header fault place, decode header = .error fault → fault.place = some place →
    1 ≤ place.1 ∧ place.1 ≤ header.toList.count '\n' + 1

/-- **A fault of the frontmatter is on a line of the document**, if the decoder places its faults in the header. -/
theorem toError_line_le {fault : FrontmatterFault} (hdecode : PlacesInside decode)
    (h : extractWith decode source = .error fault) (file : String) :
    0 < (fault.toError file).line ∧ (fault.toError file).line ≤ (linesWithEnds source.toList).length := by
  obtain ⟨hne, rfl | ⟨opening, header, closing, body, f, hlines, hf, rfl⟩⟩ := extractWith_eq_error h
  · exact ⟨Nat.one_pos, List.length_pos_of_ne_nil hne⟩
  · have hcount : (opening :: header).flatten.count '\n' = (opening :: header).length :=
      (linesWithEnds_eq_append hlines).2 (List.cons_ne_nil _ _)
    have hopening : opening.count '\n' = 1 := (linesWithEnds_eq_cons hlines).2 (by simp)
    have hheader : header.flatten.count '\n' = header.length := by
      rw [List.flatten_cons, List.count_append, hopening, List.length_cons] at hcount
      omega
    have hlength : (linesWithEnds source.toList).length = header.length + body.length + 2 := by
      rw [hlines]
      simp +arith
    rw [hlength]
    cases hplace : f.place with
    | none => simp [FrontmatterFault.toError, hplace]
    | some place =>
      have hinside := hdecode _ _ _ hf hplace
      rw [String.toList_ofList, hheader] at hinside
      simp only [FrontmatterFault.toError, hplace, Option.map_some, Option.getD_some]
      omega

end LivePage
