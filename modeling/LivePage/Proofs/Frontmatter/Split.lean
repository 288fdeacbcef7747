import LivePage.Proofs.Frontmatter
/-!
# How a document is split

A document without a line that opens a header is all body. With one, the header ends at the first line of three hyphens
after it, and no decoder has a say in this: it is given what stands between the two lines, and the body is what comes
after the second.
-/
namespace LivePage

open Text

variable {decode : String → Except DecodeFault Header} {source : String} {first rest closing : List Char}
  {lines : List (List Char)}

/-- A document with a header is split if and only if a line of three hyphens ends the header. -/
theorem extractWith_eq_unclosed_iff (hfirst : OpensHeader first) (hsource : source.toList = first ++ rest) :
    extractWith decode source = .error .unclosed ↔ ∀ l ∈ linesWithEnds rest, dropLineEnd l ≠ delimiterLine := by
  rw [← String.ofList_toList (s := source), hsource, hfirst.extractWith_eq]
  refine ⟨fun h => ?_, extractBelow_eq_unclosed⟩
  by_contra! hsome
  have hfind : ((linesWithEnds rest).find? (dropLineEnd · == delimiterLine)).isSome := by simpa using hsome
  obtain ⟨closing, hfind⟩ := Option.isSome_iff_exists.1 hfind
  obtain ⟨hclosing, lines, body, hcut, hlines⟩ := List.find?_eq_some_iff_append.1 hfind
  rw [extractBelow_of_lines hcut (by simpa using hlines) (by simpa using hclosing), decodeHeader] at h
  split_ifs at h
  · cases h
  · cases hdecode : decode (String.ofList lines.flatten) <;> rw [hdecode] at h <;> cases h

/-- The text of a document up to its body, and its body. -/
theorem toList_eq_of_lines {body : List (List Char)} (hsource : source.toList = first ++ rest)
    (hcut : linesWithEnds rest = lines ++ closing :: body) :
    source.toList = first ++ lines.flatten ++ closing ++ body.flatten := by
  rw [hsource, ← linesWithEnds_flatten rest, hcut]
  simp

/-- The lines of a header are those of the document after the first. -/
theorem getElem?_header {body : List (List Char)} (hfirst : OpensHeader first) (hsource : source.toList = first ++ rest)
    (hcut : linesWithEnds rest = lines ++ closing :: body) {n : Nat} (hn : n < lines.length) :
    (linesWithEnds source.toList)[n + 1]? = lines[n]? := by
  rw [hsource, linesWithEnds_closed_append hfirst.closed, List.getElem?_cons_succ, hcut, List.getElem?_append_left hn]

/-- A body below a header comes back as it is, whatever the header and the decoder. -/
theorem extractWith_header_append (hfirst : OpensHeader first) (hlines : ∀ l ∈ lines, Closed l)
    (hinside : ∀ l ∈ lines, dropLineEnd l ≠ delimiterLine) (hclosed : Closed closing)
    (hclosing : dropLineEnd closing = delimiterLine) (body : String) :
    extractWith decode (String.ofList (first ++ lines.flatten ++ closing) ++ body) =
      (decodeHeader decode lines.flatten).map fun frontmatter =>
        { frontmatter, body
          bodyOffset := byteLength (first ++ lines.flatten ++ closing)
          bodyLine := 1 + (first ++ lines.flatten ++ closing).count '\n' } := by
  have hcut : linesWithEnds (lines.flatten ++ (closing ++ body.toList)) =
      lines ++ closing :: linesWithEnds body.toList := by
    rw [linesWithEnds_flatten_append hlines, linesWithEnds_closed_append hclosed]
  have hsource : String.ofList (first ++ lines.flatten ++ closing) ++ body =
      String.ofList (first ++ (lines.flatten ++ (closing ++ body.toList))) := by
    rw [← String.toList_inj]
    simp
  rw [hsource, hfirst.extractWith_eq, extractBelow_of_lines hcut hinside hclosing, linesWithEnds_flatten,
    String.ofList_toList]

/-- **A document is split exactly.** Without a line that opens a header it is all body. With one, it has no frontmatter
if no line of three hyphens follows. Otherwise what stands before the first such line is all that is decoded, the body
is what comes after it, and a fault of the decoder is reported on the line of the document that it is about. So a header
put before a body gives this body back. -/
theorem extractWith_splits (decode : String → Except DecodeFault Header) :
    (∀ source : String, (∀ first rest, OpensHeader first → source.toList ≠ first ++ rest) →
      extractWith decode source = .ok { frontmatter := {}, body := source, bodyOffset := 0, bodyLine := 1 }) ∧
    (∀ (source : String) (first rest : List Char), OpensHeader first → source.toList = first ++ rest →
      (extractWith decode source = .error .unclosed ↔ ∀ l ∈ linesWithEnds rest, dropLineEnd l ≠ delimiterLine) ∧
      ∀ header closing body, linesWithEnds rest = header ++ closing :: body →
        (∀ l ∈ header, dropLineEnd l ≠ delimiterLine) → dropLineEnd closing = delimiterLine →
        extractWith decode source = (decodeHeader decode header.flatten).map (fun frontmatter =>
          { frontmatter, body := String.ofList body.flatten
            bodyOffset := byteLength (first ++ header.flatten ++ closing)
            bodyLine := 1 + (first ++ header.flatten ++ closing).count '\n' }) ∧
        takeBytes? source.toList (byteLength (first ++ header.flatten ++ closing)) =
          some (first ++ header.flatten ++ closing) ∧
        dropBytes? source.toList (byteLength (first ++ header.flatten ++ closing)) = some body.flatten ∧
        ∀ (fault : DecodeFault) (file : String),
          (fault.place = none → ((FrontmatterFault.undecodable fault).toError file).line = 2) ∧
          ∀ line column, fault.place = some (line, column) →
            ((FrontmatterFault.undecodable fault).toError file).line = line + 1 ∧
            ((FrontmatterFault.undecodable fault).toError file).column = some column ∧
            (1 ≤ line → line ≤ header.length → (linesWithEnds source.toList)[line]? = header[line - 1]?)) ∧
    ∀ (first header newline closing : List Char) (body : String), OpensHeader first →
      (∀ l ∈ linesWithEnds header, dropLineEnd l ≠ delimiterLine) →
      (newline = [] ∧ (header = [] ∨ header.getLast? = some '\n') ∨ IsNewline newline) →
      Closed closing → dropLineEnd closing = delimiterLine →
      extractWith decode (String.ofList (first ++ (header ++ newline) ++ closing) ++ body) =
        (decodeHeader decode (header ++ newline)).map fun frontmatter =>
          { frontmatter, body
            bodyOffset := byteLength (first ++ (header ++ newline) ++ closing)
            bodyLine := 1 + (first ++ (header ++ newline) ++ closing).count '\n' } := by
  refine ⟨fun source hno => ?_, fun source first rest hfirst hsource => ⟨extractWith_eq_unclosed_iff hfirst hsource, ?_⟩, ?_⟩
  · rcases extractWith_cases source with ⟨-, heq⟩ | ⟨first, rest, hfirst, hsource⟩
    · exact heq decode
    · exact absurd hsource (hno first rest hfirst)
  · intro header closing body hcut hinside hclosing
    have htext := toList_eq_of_lines hsource hcut
    refine ⟨?_, takeBytes?_eq_some_iff.2 ⟨_, htext, rfl⟩, dropBytes?_eq_some_iff.2 ⟨_, htext, rfl⟩,
      fun fault file => ⟨?_, ?_⟩⟩
    · rw [← String.ofList_toList (s := source), hsource, hfirst.extractWith_eq, extractBelow_of_lines hcut hinside hclosing]
    · intro hplace
      simp [FrontmatterFault.toError, hplace]
    · intro line column hplace
      refine ⟨by simp [FrontmatterFault.toError, hplace], by simp [FrontmatterFault.toError, hplace], fun hpos hle => ?_⟩
      have := getElem?_header hfirst hsource hcut (n := line - 1) (by omega)
      rwa [Nat.sub_add_cancel hpos] at this
  · intro first header newline closing body hfirst hinside hnewline hclosed hclosing
    obtain ⟨lines, htext, hlines⟩ := exists_closed_lines hnewline
    rw [htext]
    refine extractWith_header_append hfirst (fun l hl => (hlines l hl).1) (fun l hl => ?_) hclosed hclosing body
    -- A line of the header says what a line of its text says, or nothing.
    rcases (hlines l hl).2 with hempty | ⟨m, hm, heq⟩
    · rw [hempty]
      exact (List.cons_ne_nil _ _).symm
    · rw [heq]
      exact hinside m hm

/-- A decoder that takes all it is given for the title, and faults a tab on the second line. -/
def titleDecoder (header : String) : Except DecodeFault Header :=
  if header.toList.contains '\t' then .error { message := "tab", place := some (2, 1) } else .ok { title := some header }

/-- A header after a byte order mark, with line ends of both kinds, is decoded. A fault on the second line of a header is
one on the third line of the document. -/
theorem titledHeader_splits :
    extractWith titleDecoder "\uFEFF---\r\ntitle: a\r\n---\nx" =
      .ok { frontmatter := { title := some "title: a\r\n" }, body := "x", bodyOffset := 22, bodyLine := 4 } ∧
    extractWith titleDecoder "---\ntitle:\n\ta\n---\nx" = .error (.undecodable ⟨"tab", some (2, 1)⟩) ∧
    ((FrontmatterFault.undecodable ⟨"tab", some (2, 1)⟩).toError "page.md").line = 3 ∧
    (linesWithEnds "---\ntitle:\n\ta\n---\nx".toList)[2]? = some "\ta\n".toList := by
  obtain ⟨-, hdocument, hprefixed⟩ := extractWith_splits titleDecoder
  constructor
  · exact hprefixed "\uFEFF---\r\n".toList "title: a".toList "\r\n".toList "---\n".toList "x"
      ⟨['\uFEFF'], "\r\n".toList, .inr rfl, .inr rfl, rfl⟩ (by decide +kernel) (.inr (.inr rfl))
      ⟨delimiterLine, by decide, rfl⟩ (by decide)
  · obtain ⟨heq, -, -, hfault⟩ := (hdocument "---\ntitle:\n\ta\n---\nx" "---\n".toList "title:\n\ta\n---\nx".toList
      ⟨[], ['\n'], .inl rfl, .inl rfl, rfl⟩ (by decide +kernel)).2 ["title:\n".toList, "\ta\n".toList] "---\n".toList
      ["x".toList] (by decide +kernel) (by decide +kernel) (by decide)
    obtain ⟨hline, -, hplace⟩ := (hfault ⟨"tab", some (2, 1)⟩ "page.md").2 2 1 rfl
    exact ⟨heq, hline, hplace (by decide) (by decide)⟩

end LivePage
