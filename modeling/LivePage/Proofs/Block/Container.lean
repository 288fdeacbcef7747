import LivePage.Block.Container
import Mathlib.Data.List.Basic
import Mathlib.Tactic.SplitIfs
/-!
# Containers as a browser reads them

A container's opening tag is put together from texts of the author. Here it is read back, character by character: a value
runs to the next quotation mark, and the five references that are written for special characters are undone. What is
read is one complete tag with every text as it was, so no text ends a value or the tag, and the tag tells blocks apart.
-/
namespace LivePage

/-! ## Values -/

namespace Block

/-- A value with the references for special characters undone. -/
def unescape : List Char → List Char
  | '&' :: 'a' :: 'm' :: 'p' :: ';' :: cs => '&' :: unescape cs
  | '&' :: 'l' :: 't' :: ';' :: cs => '<' :: unescape cs
  | '&' :: 'g' :: 't' :: ';' :: cs => '>' :: unescape cs
  | '&' :: 'q' :: 'u' :: 'o' :: 't' :: ';' :: cs => '"' :: unescape cs
  | '&' :: '#' :: '3' :: '9' :: ';' :: cs => '\'' :: unescape cs
  | c :: cs => c :: unescape cs
  | [] => []

theorem unescape_cons {c : Char} (h : c ≠ '&') (cs : List Char) : unescape (c :: cs) = c :: unescape cs := by
  rw [unescape] <;> simp [h]

theorem escapeChar_cases (c : Char) :
    (c = '&' ∧ escapeChar c = "&amp;".toList) ∨ (c = '<' ∧ escapeChar c = "&lt;".toList) ∨
      (c = '>' ∧ escapeChar c = "&gt;".toList) ∨ (c = '"' ∧ escapeChar c = "&quot;".toList) ∨
      (c = '\'' ∧ escapeChar c = "&#39;".toList) ∨ (c ≠ '&' ∧ c ≠ '"' ∧ escapeChar c = [c]) := by
  unfold escapeChar
  split <;> simp_all

/-- An escaped character is read back before anything that follows it. -/
theorem unescape_escapeChar_append (c : Char) (cs : List Char) : unescape (escapeChar c ++ cs) = c :: unescape cs := by
  rcases escapeChar_cases c with ⟨rfl, h⟩ | ⟨rfl, h⟩ | ⟨rfl, h⟩ | ⟨rfl, h⟩ | ⟨rfl, h⟩ | ⟨hamp, -, h⟩
  all_goals rw [h]
  case inr.inr.inr.inr.inr => exact unescape_cons hamp cs
  all_goals rfl

/-- **Escaped values are read back**, whatever they hold, references included. -/
theorem unescape_escapeValue (s : String) : unescape (escapeValue s).toList = s.toList := by
  rw [escapeValue, String.toList_ofList]
  induction s.toList with
  | nil => rfl
  | cons c cs ih => rw [List.flatMap_cons, unescape_escapeChar_append, ih]

theorem quote_not_mem_escapeValue (s : String) : '"' ∉ (escapeValue s).toList := by
  rw [escapeValue, String.toList_ofList, List.mem_flatMap]
  rintro ⟨c, -, hc⟩
  rcases escapeChar_cases c with ⟨-, h⟩ | ⟨-, h⟩ | ⟨-, h⟩ | ⟨-, h⟩ | ⟨-, h⟩ | ⟨-, hquote, h⟩
  all_goals rw [h] at hc
  case inr.inr.inr.inr.inr => exact hquote (List.mem_singleton.1 hc).symm
  all_goals exact absurd hc (by decide)

end Block

/-! ## Tags -/

/-- An opening tag: its name, and its attributes in order, of which some have values. -/
structure OpeningTag where
  name : String
  attributes : List (String × Option String)
deriving DecidableEq

/-- What is being read of a tag, with the characters of it so far. -/
inductive TagPiece where
  | name (read : List Char)
  | gap
  | attributeName (name : List Char)
  | equals (name : List Char)
  | value (name read : List Char)
  /-- The quotation mark that ends a value. -/
  | closed (name value : List Char)

namespace OpeningTag

def isSpace (c : Char) : Bool := c == ' ' || c == '\t' || c == '\n' || c == '\r' || c == '\x0c'

/-- A character of the name of a tag or an attribute. No others are read, since containers have none. -/
def isNameChar (c : Char) : Bool := c.isAlphanum || c == '-'

/-- A piece with one more character. Within a value every character belongs to it but a quotation mark. -/
def extend? : TagPiece → Char → Option TagPiece
  | .name read, c => if isNameChar c then some (.name (read ++ [c])) else none
  | .gap, c => if isNameChar c then some (.attributeName [c]) else none
  | .attributeName name, c =>
    if isNameChar c then some (.attributeName (name ++ [c])) else if c = '=' then some (.equals name) else none
  | .equals name, c => if c = '"' then some (.value name []) else none
  | .value name read, c => some (if c = '"' then .closed name read else .value name (read ++ [c]))
  | .closed _ _, _ => none

/-- A tag with a piece taken in, if white space or the end of the tag may come after it. -/
def take? (t : OpeningTag) : TagPiece → Option OpeningTag
  | .name read => if read = [] then none else some { t with name := String.ofList read }
  | .gap => some t
  | .attributeName name => some { t with attributes := t.attributes ++ [(String.ofList name, none)] }
  | .equals _ | .value _ _ => none
  | .closed name value =>
    some { t with attributes := t.attributes ++ [(String.ofList name, some (String.ofList (Block.unescape value)))] }

/-- Reads a tag on, from some piece of it up to the character that ends it. What comes after it is left. -/
def readFrom (t : OpeningTag) (piece : TagPiece) : List Char → Option (OpeningTag × List Char)
  | [] => none
  | c :: cs =>
    match t.take? piece with
    | some whole =>
      if c = '>' then some (whole, cs)
      else if isSpace c then whole.readFrom .gap cs
      else (extend? piece c).bind fun next => t.readFrom next cs
    | none => (extend? piece c).bind fun next => t.readFrom next cs

/-- The opening tag at the start of a text, with what comes after it. -/
def read? : List Char → Option (OpeningTag × List Char)
  | '<' :: cs => readFrom ⟨"", []⟩ (.name []) cs
  | _ => none

def attributeChars : String × Option String → List Char
  | (name, none) => ' ' :: name.toList
  | (name, some value) => (Block.attributeText name value).toList

def chars (t : OpeningTag) : List Char :=
  '<' :: t.name.toList ++ t.attributes.flatMap attributeChars ++ ['>']

def IsName (name : String) : Prop := name ≠ "" ∧ ∀ c ∈ name.toList, isNameChar c = true

instance (name : String) : Decidable (IsName name) :=
  decidable_of_iff (name ≠ "" ∧ name.toList.all isNameChar = true) (and_congr_right' List.all_eq_true)

/-- All names of a tag can be written. -/
structure WellNamed (t : OpeningTag) : Prop where
  name : IsName t.name
  attributes : ∀ a ∈ t.attributes, IsName a.1

variable {t whole : OpeningTag} {piece : TagPiece} {name value : String} {cs : List Char}

theorem readFrom_space (h : t.take? piece = some whole) (cs : List Char) :
    t.readFrom piece (' ' :: cs) = whole.readFrom .gap cs := by
  simp [readFrom, h, isSpace]

theorem readFrom_end (h : t.take? piece = some whole) (cs : List Char) :
    t.readFrom piece ('>' :: cs) = some (whole, cs) := by
  simp [readFrom, h]

/-- A character that goes on with a piece is neither white space nor the end of the tag, or it stands in a value. -/
theorem readFrom_extend {next : TagPiece} {c : Char} (h : extend? piece c = some next)
    (hc : t.take? piece = none ∨ c ≠ '>' ∧ isSpace c = false) (cs : List Char) :
    t.readFrom piece (c :: cs) = t.readFrom next cs := by
  rw [readFrom]
  cases htake : t.take? piece with
  | none => simp [h]
  | some whole =>
    have hc : c ≠ '>' ∧ isSpace c = false := by simpa [htake] using hc
    simp [hc.1, hc.2, h]

/-- Characters that all go on with one kind of piece. -/
theorem readFrom_append (grow : List Char → TagPiece) {read : List Char}
    (hgrow : ∀ read, ∀ c ∈ cs, extend? (grow read) c = some (grow (read ++ [c])))
    (hstay : ∀ read, ∀ c ∈ cs, t.take? (grow read) = none ∨ c ≠ '>' ∧ isSpace c = false) (rest : List Char) :
    t.readFrom (grow read) (cs ++ rest) = t.readFrom (grow (read ++ cs)) rest := by
  induction cs generalizing read with
  | nil => rw [List.append_nil, List.nil_append]
  | cons c cs ih =>
    rw [List.cons_append, readFrom_extend (hgrow read c List.mem_cons_self) (hstay read c List.mem_cons_self),
      ih (fun read d hd => hgrow read d (List.mem_cons_of_mem _ hd))
        (fun read d hd => hstay read d (List.mem_cons_of_mem _ hd)), List.append_assoc, List.singleton_append]

theorem isNameChar_ne {c : Char} (h : isNameChar c = true) : c ≠ '>' ∧ isSpace c = false := by
  constructor
  · rintro rfl
    exact absurd h (by decide)
  · refine eq_false_of_ne_true fun hspace => ?_
    simp only [isSpace, Bool.or_eq_true, beq_iff_eq] at hspace
    rcases hspace with (((rfl | rfl) | rfl) | rfl) | rfl <;> exact absurd h (by decide)

theorem readFrom_name (hname : ∀ c ∈ cs, isNameChar c = true) (rest : List Char) :
    t.readFrom (.name []) (cs ++ rest) = t.readFrom (.name cs) rest :=
  readFrom_append .name (fun _ c hc => if_pos (hname c hc)) (fun _ c hc => .inr (isNameChar_ne (hname c hc))) rest

theorem readFrom_gap (h : IsName name) (rest : List Char) :
    t.readFrom .gap (name.toList ++ rest) = t.readFrom (.attributeName name.toList) rest := by
  obtain ⟨hne, hname⟩ := h
  cases hcs : name.toList with
  | nil => exact absurd (String.toList_eq_nil_iff.1 hcs) hne
  | cons c cs =>
    rw [hcs, List.forall_mem_cons] at hname
    have hfirst : extend? .gap c = some (.attributeName [c]) := if_pos hname.1
    rw [List.cons_append, readFrom_extend hfirst (.inr (isNameChar_ne hname.1))]
    exact readFrom_append .attributeName (fun _ d hd => if_pos (hname.2 d hd))
      (fun _ d hd => .inr (isNameChar_ne (hname.2 d hd))) rest

theorem readFrom_value {name : List Char} (hquote : '"' ∉ cs) (rest : List Char) :
    t.readFrom (.value name []) (cs ++ '"' :: rest) = t.readFrom (.closed name cs) rest := by
  have hvalue (read : List Char) : ∀ c ∈ cs, extend? (.value name read) c = some (.value name (read ++ [c])) :=
    fun c hc => congrArg some (if_neg fun (heq : c = '"') => hquote (heq ▸ hc))
  have hclosed : extend? (.value name cs) '"' = some (.closed name cs) := rfl
  rw [readFrom_append (.value name) hvalue (fun _ _ _ => .inl rfl), List.nil_append, readFrom_extend hclosed (.inl rfl)]

/-- An attribute that is read leaves a piece that adds it to the tag. -/
theorem readFrom_attribute {a : String × Option String} (hname : IsName a.1) (h : t.take? piece = some whole)
    (rest : List Char) :
    ∃ next, t.readFrom piece (attributeChars a ++ rest) = whole.readFrom next rest ∧
      whole.take? next = some { whole with attributes := whole.attributes ++ [a] } := by
  obtain ⟨name, value⟩ := a
  cases value with
  | none =>
    refine ⟨.attributeName name.toList, ?_, by simp [take?]⟩
    rw [attributeChars, List.cons_append, readFrom_space h, readFrom_gap hname]
  | some value =>
    refine ⟨.closed name.toList (Block.escapeValue value).toList, ?_, by simp [take?, Block.unescape_escapeValue]⟩
    have hchars : attributeChars (name, some value) ++ rest =
        ' ' :: (name.toList ++ '=' :: '"' :: ((Block.escapeValue value).toList ++ '"' :: rest)) := by
      simp [attributeChars, Block.attributeText]
    have hequals : extend? (.attributeName name.toList) '=' = some (.equals name.toList) := rfl
    have hopens : extend? (.equals name.toList) '"' = some (.value name.toList []) := rfl
    rw [hchars, readFrom_space h, readFrom_gap hname, readFrom_extend hequals (.inr (by decide)),
      readFrom_extend hopens (.inl rfl), readFrom_value (Block.quote_not_mem_escapeValue value)]

/-- Attributes are read one after the other, up to the end of the tag. -/
theorem readFrom_attributes {attributes : List (String × Option String)} (hnames : ∀ a ∈ attributes, IsName a.1)
    (h : t.take? piece = some whole) (rest : List Char) :
    t.readFrom piece (attributes.flatMap attributeChars ++ '>' :: rest) =
      some ({ whole with attributes := whole.attributes ++ attributes }, rest) := by
  induction attributes generalizing t piece whole with
  | nil => rw [List.flatMap_nil, List.nil_append, readFrom_end h, List.append_nil]
  | cons a attributes ih =>
    rw [List.forall_mem_cons] at hnames
    obtain ⟨next, hread, htake⟩ := readFrom_attribute hnames.1 h (attributes.flatMap attributeChars ++ '>' :: rest)
    rw [List.flatMap_cons, List.append_assoc, hread, ih hnames.2 htake, List.append_assoc, List.singleton_append]

/-- **A tag is read back as it was written**, whatever its values hold, and what comes after it is left. -/
theorem read?_chars (h : t.WellNamed) (rest : List Char) : read? (t.chars ++ rest) = some (t, rest) := by
  have hchars : t.chars ++ rest = '<' :: (t.name.toList ++ (t.attributes.flatMap attributeChars ++ '>' :: rest)) := by
    simp [chars]
  have htake : take? ⟨"", []⟩ (.name t.name.toList) = some ⟨t.name, []⟩ := by
    simp [take?, h.name.1]
  rw [hchars, read?, readFrom_name h.name.2, readFrom_attributes h.attributes htake]
  rfl

theorem chars_injective {t' : OpeningTag} (h : t.WellNamed) (h' : t'.WellNamed) (heq : t.chars = t'.chars) : t = t' := by
  have hread := read?_chars h []
  rw [heq, read?_chars h' []] at hread
  exact (Prod.mk.inj (Option.some.inj hread)).1.symm

end OpeningTag

/-! ## Containers -/

namespace Block

def stateRef? (b : Block) : Option String := b.interactive?.bind (·.stateRef)

def sourceRef? (b : Block) : Option String := b.interactive?.bind (·.sourceRef)

/-- The attributes that every container has. -/
def commonPairs (b : Block) : List (String × Option String) :=
  [("data-livedoc-block", none), ("data-block-id", some b.id), ("data-block-type", some b.type.name),
    ("data-language", some b.language)]

/-- The attribute for a reference, if there is one. -/
def referencePairs (name : String) (reference : Option String) : List (String × Option String) :=
  (reference.map fun value => (name, some value)).toList

/-- What the opening tag of a placeholder says. -/
def placeholderOpening (b : Block) : OpeningTag where
  name := "div"
  attributes := ("class", some "livedoc-interactive-block") :: (b.commonPairs
    ++ (referencePairs "data-state-ref" b.stateRef? ++ (referencePairs "data-source-ref" b.sourceRef?
      ++ [("data-interactive-content", none)])))

/-- The class that the container of a kind of code has. -/
def wrapperClass (type : BlockType) : String := "livedoc-code-block livedoc-" ++ type.name ++ "-block"

/-- What the opening tag of the container around code says. -/
def wrapperOpening (b : Block) : OpeningTag where
  name := "div"
  attributes := ("class", some (wrapperClass b.type)) :: (b.commonPairs
    ++ ([("data-readonly", some (toString b.isReadonly)), ("data-editable", some (toString b.isEditable))]
      ++ referencePairs "data-show-run" (b.wasm?.map fun w => toString w.showRunButton)))

theorem attributeChars_some (name value : String) :
    OpeningTag.attributeChars (name, some value) = (attributeText name value).toList := rfl

theorem flatMap_commonPairs (b : Block) :
    b.commonPairs.flatMap OpeningTag.attributeChars = b.commonAttributes.toList := by
  have hmark : OpeningTag.attributeChars ("data-livedoc-block", none) = " data-livedoc-block".toList := by decide
  unfold commonPairs commonAttributes
  simp only [String.toList_append, List.flatMap_cons, List.flatMap_nil]
  rw [hmark, List.append_nil, List.append_assoc, List.append_assoc]
  rfl

theorem flatMap_referencePairs (name : String) (reference : Option String) :
    (referencePairs name reference).flatMap OpeningTag.attributeChars = (referenceAttribute name reference).toList := by
  cases reference with
  | none => rfl
  | some value => exact List.append_nil _

theorem placeholderTag_eq (b : Block) :
    b.placeholderTag = "<div class=\"livedoc-interactive-block\"" ++ b.commonAttributes
      ++ (referenceAttribute "data-state-ref" b.stateRef? ++ referenceAttribute "data-source-ref" b.sourceRef?)
      ++ " data-interactive-content>" := by
  cases b <;> rfl

theorem chars_placeholderOpening (b : Block) : b.placeholderOpening.chars = b.placeholderTag.toList := by
  have hopening : '<' :: "div".toList ++ OpeningTag.attributeChars ("class", some "livedoc-interactive-block") =
      "<div class=\"livedoc-interactive-block\"".toList := by decide
  have hclosing : OpeningTag.attributeChars ("data-interactive-content", none) ++ ['>'] =
      " data-interactive-content>".toList := by decide
  rw [placeholderTag_eq, String.toList_append, String.toList_append, String.toList_append, ← hopening, ← hclosing]
  simp only [OpeningTag.chars, placeholderOpening, List.flatMap_cons, List.flatMap_append, List.flatMap_nil,
    flatMap_commonPairs, flatMap_referencePairs, String.toList_append, List.append_assoc, List.append_nil]

theorem wrapperTag_eq (b : Block) :
    b.wrapperTag = "<div class=\"livedoc-code-block livedoc-" ++ b.type.name ++ "-block\"" ++ b.commonAttributes
      ++ attributeText "data-readonly" (toString b.isReadonly) ++ attributeText "data-editable" (toString b.isEditable)
      ++ referenceAttribute "data-show-run" (b.wasm?.map fun w => toString w.showRunButton) ++ ">" := by
  cases b <;> rfl

theorem chars_wrapperOpening (b : Block) : b.wrapperOpening.chars = b.wrapperTag.toList := by
  have hopening (type : BlockType) :
      '<' :: "div".toList ++ OpeningTag.attributeChars ("class", some (wrapperClass type)) =
        ("<div class=\"livedoc-code-block livedoc-" ++ type.name ++ "-block\"").toList := by
    cases type <;> decide +kernel
  have hclosing : ['>'] = ">".toList := rfl
  rw [wrapperTag_eq, String.toList_append, String.toList_append, String.toList_append, String.toList_append,
    String.toList_append, ← hopening, ← hclosing]
  simp only [OpeningTag.chars, wrapperOpening, List.flatMap_cons, List.flatMap_append, List.flatMap_nil,
    flatMap_commonPairs, flatMap_referencePairs, attributeChars_some, List.append_assoc, List.append_nil]

theorem isName_commonPairs (b : Block) : ∀ a ∈ b.commonPairs, OpeningTag.IsName a.1 := by
  have hnames : ∀ name ∈ ["data-livedoc-block", "data-block-id", "data-block-type", "data-language"],
      OpeningTag.IsName name := by decide
  exact fun a ha => hnames a.1 (List.mem_map_of_mem (f := Prod.fst) ha)

theorem isName_referencePairs {name : String} (h : OpeningTag.IsName name) (reference : Option String) :
    ∀ a ∈ referencePairs name reference, OpeningTag.IsName a.1 := by
  cases reference with
  | none => exact nofun
  | some value => exact List.forall_mem_singleton.2 h

/-! ## What containers tell -/

/-- The id and the references of a block, by which the runtime finds what belongs to it. -/
def identity (b : Block) : String × Option String × Option String := (b.id, b.stateRef?, b.sourceRef?)

/-- A tag tells the id, the language and the references of a block. A reference that is absent has no attribute. -/
structure Told (t : OpeningTag) (id language : String) (state source : Option String) : Prop where
  name : t.name = "div"
  id : t.attributes.lookup "data-block-id" = some (some id)
  language : t.attributes.lookup "data-language" = some (some language)
  state : t.attributes.lookup "data-state-ref" = state.map some
  source : t.attributes.lookup "data-source-ref" = source.map some

theorem told_placeholderOpening (b : Block) : Told b.placeholderOpening b.id b.language b.stateRef? b.sourceRef? := by
  unfold placeholderOpening
  cases b.stateRef? <;> cases b.sourceRef? <;> exact ⟨rfl, rfl, rfl, rfl, rfl⟩

theorem told_wrapperOpening (b : Block) : Told b.wrapperOpening b.id b.language none none := by
  unfold wrapperOpening
  cases b.wasm? <;> exact ⟨rfl, rfl, rfl, rfl, rfl⟩

theorem wellNamed_placeholderOpening (b : Block) : b.placeholderOpening.WellNamed where
  name := (by decide : OpeningTag.IsName "div")
  attributes := by
    unfold placeholderOpening
    simp only [List.forall_mem_cons, List.forall_mem_append]
    exact ⟨by decide, isName_commonPairs b, isName_referencePairs (by decide) _, isName_referencePairs (by decide) _,
      by decide, nofun⟩

theorem wellNamed_wrapperOpening (b : Block) : b.wrapperOpening.WellNamed where
  name := (by decide : OpeningTag.IsName "div")
  attributes := by
    unfold wrapperOpening
    simp only [List.forall_mem_cons, List.forall_mem_append]
    exact ⟨by decide, isName_commonPairs b, ⟨by decide, by decide, nofun⟩, isName_referencePairs (by decide) _⟩

/-! ## Blocks apart -/

/-- The opening tag of a block's container: that of a placeholder, or of a wrapper around code. -/
def openingTag (b : Block) : String := if b.type = .lvt then b.placeholderTag else b.wrapperTag

theorem refs_eq_none {b : Block} (h : b.type ≠ .lvt) : b.stateRef? = none ∧ b.sourceRef? = none := by
  cases b with
  | interactive => exact absurd rfl h
  | _ => exact ⟨rfl, rfl⟩

/-- A tag tells one id and one pair of references. -/
theorem Told.unique {t : OpeningTag} {id id' language language' : String} {state state' source source' : Option String}
    (h : Told t id language state source) (h' : Told t id' language' state' source') :
    id = id' ∧ state = state' ∧ source = source' := by
  have hinjective : Function.Injective (some : String → Option String) := fun _ _ => Option.some.inj
  exact ⟨hinjective (Option.some.inj (h.id.symm.trans h'.id)),
    Option.map_injective hinjective (h.state.symm.trans h'.state),
    Option.map_injective hinjective (h.source.symm.trans h'.source)⟩

section
variable {b b' : Block}

theorem placeholderOpening_eq (h : b.placeholderTag = b'.placeholderTag) : b.placeholderOpening = b'.placeholderOpening := by
  refine OpeningTag.chars_injective (wellNamed_placeholderOpening b) (wellNamed_placeholderOpening b') ?_
  rw [chars_placeholderOpening, chars_placeholderOpening, h]

theorem wrapperOpening_eq (h : b.wrapperTag = b'.wrapperTag) : b.wrapperOpening = b'.wrapperOpening := by
  refine OpeningTag.chars_injective (wellNamed_wrapperOpening b) (wellNamed_wrapperOpening b') ?_
  rw [chars_wrapperOpening, chars_wrapperOpening, h]

theorem placeholderTag_ne_wrapperTag : b.placeholderTag ≠ b'.wrapperTag := by
  intro h
  have hopening : b.placeholderOpening = b'.wrapperOpening := by
    refine OpeningTag.chars_injective (wellNamed_placeholderOpening b) (wellNamed_wrapperOpening b') ?_
    rw [chars_placeholderOpening, chars_wrapperOpening, h]
  have hclass : "livedoc-interactive-block" = wrapperClass b'.type := by
    have hlookup := congrArg (fun t => t.attributes.lookup "class") hopening
    exact Option.some.inj (Option.some.inj hlookup)
  have hne (type : BlockType) : "livedoc-interactive-block" ≠ wrapperClass type := by cases type <;> decide
  exact hne _ hclass

/-- Placeholders that are the same belong to blocks with the same id and references. -/
theorem identity_of_placeholderTag (h : b.placeholderTag = b'.placeholderTag) : b.identity = b'.identity := by
  have htold := told_placeholderOpening b
  rw [placeholderOpening_eq h] at htold
  obtain ⟨hid, hstate, hsource⟩ := htold.unique (told_placeholderOpening b')
  rw [identity, identity, hid, hstate, hsource]

theorem identity_of_wrapperTag (hb : b.type ≠ .lvt) (hb' : b'.type ≠ .lvt) (h : b.wrapperTag = b'.wrapperTag) :
    b.identity = b'.identity := by
  have htold := told_wrapperOpening b
  rw [wrapperOpening_eq h] at htold
  obtain ⟨hstate, hsource⟩ := refs_eq_none hb
  obtain ⟨hstate', hsource'⟩ := refs_eq_none hb'
  rw [identity, identity, hstate, hstate', hsource, hsource', (htold.unique (told_wrapperOpening b')).1]

/-- Containers that open alike belong to blocks with the same id and references. -/
theorem identity_of_openingTag (h : b.openingTag = b'.openingTag) : b.identity = b'.identity := by
  unfold openingTag at h
  split_ifs at h with hb hb' hb'
  · exact identity_of_placeholderTag h
  · exact absurd h placeholderTag_ne_wrapperTag
  · exact absurd h.symm placeholderTag_ne_wrapperTag
  · exact identity_of_wrapperTag hb hb' h

end

/-- **No text breaks out of a container.** Whatever the texts of a block hold, what opens its container reads as one
complete tag, with the rest of the container after it. The tag tells the id, the language and the references of the
block as they are, and no reference that the block does not have; around code there are none to tell. Blocks with
different ids or references never have the same tag. -/
theorem containers_unbroken (b : Block) :
    (∃ t, OpeningTag.read? b.placeholder.toList =
        some (t, "<div class=\"loading\">Connecting...</div></div>\n".toList) ∧
      Told t b.id b.language b.stateRef? b.sourceRef?) ∧
    (∃ t, OpeningTag.read? b.wrapperOpen.toList = some (t, "\n".toList) ∧ Told t b.id b.language none none) ∧
    (b.type ≠ .lvt → b.stateRef? = none ∧ b.sourceRef? = none) ∧
    (∀ b' : Block, b.placeholderTag = b'.placeholderTag → b.identity = b'.identity) ∧
    ∀ b' : Block, b.openingTag = b'.openingTag → b.identity = b'.identity := by
  refine ⟨⟨b.placeholderOpening, ?_, told_placeholderOpening b⟩, ⟨b.wrapperOpening, ?_, told_wrapperOpening b⟩,
    refs_eq_none, fun _ => identity_of_placeholderTag, fun _ => identity_of_openingTag⟩
  · rw [placeholder, String.toList_append, ← chars_placeholderOpening]
    exact OpeningTag.read?_chars (wellNamed_placeholderOpening b) _
  · rw [wrapperOpen, String.toList_append, ← chars_wrapperOpening]
    exact OpeningTag.read?_chars (wellNamed_wrapperOpening b) _

/-- A block with texts that would end a value or a tag, and one that looks like a reference. -/
def hostileBlock : Block := .interactive ⟨"\"><script>", some "&quot;", some "a' b=\"c", "", [], [], 1⟩

theorem hostileBlock_unbroken :
    ∃ t, OpeningTag.read? hostileBlock.placeholder.toList =
        some (t, "<div class=\"loading\">Connecting...</div></div>\n".toList) ∧
      Told t "\"><script>" "lvt" (some "&quot;") (some "a' b=\"c") :=
  (containers_unbroken hostileBlock).1

end Block

end LivePage
