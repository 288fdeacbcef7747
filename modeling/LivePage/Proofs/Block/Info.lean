import LivePage.Block.Info
import LivePage.Proofs.Dictionary
import LivePage.Proofs.Text.Piece
/-!
# What an info string says

The words after the language are read one by one. Of the words that choose a kind of block the last decides, of the
pairs for a key the last decides, and a flag counts where it is first used. So an info string says what its words say
together, and it fails on the first of them that asks for a kind that does not exist.
-/
namespace LivePage

open Text

theorem BlockType.ofName?_eq_some_iff {name : String} {t : BlockType} : ofName? name = some t ↔ name = t.name := by
  constructor
  · unfold ofName?
    split <;> rintro ⟨⟩ <;> rfl
  · rintro rfl
    cases t <;> rfl

theorem BlockType.equals_notMem_name (t : BlockType) : '=' ∉ t.name.toList := by cases t <;> decide

theorem Flag.ofName?_eq_some_iff {name : String} {f : Flag} : ofName? name = some f ↔ name = f.name := by
  constructor
  · unfold ofName?
    split <;> rintro ⟨⟩ <;> rfl
  · rintro rfl
    cases f <;> rfl

theorem Flag.equals_notMem_name (f : Flag) : '=' ∉ f.name.toList := by cases f <;> decide

namespace InfoWord

/-! ## What a word says -/

/-- A pair: a key, the first equals sign of the word, and a value, which quotation marks may stand around. -/
def IsPair (word : List Char) (key value : String) : Prop :=
  ∃ before after, word = key.toList ++ '=' :: (before ++ value.toList ++ after) ∧ '=' ∉ key.toList ∧
    (∀ c ∈ before, isQuote c = true) ∧ (∀ c ∈ after, isQuote c = true) ∧
    (∀ c ∈ value.toList.head?, isQuote c = false) ∧ ∀ c ∈ value.toList.getLast?, isQuote c = false

/-- A word that chooses a kind of block: its name, or a pair that names it. -/
def Chooses (word : List Char) (t : BlockType) : Prop := word = t.name.toList ∨ IsPair word "type" t.name

/-- A word that asks for a kind of block that does not exist. -/
def AsksUnknown (word : List Char) (name : String) : Prop := IsPair word "type" name ∧ ∀ t : BlockType, name ≠ t.name

/-- A word that gives a key its value. -/
def Sets (key : String) (word : List Char) (value : String) : Prop := key ≠ "" ∧ key ≠ "type" ∧ IsPair word key value

/-- A word that says nothing of these. -/
def Idle (word : List Char) : Prop :=
  (∀ t, ¬ Chooses word t) ∧ (∀ f : Flag, word ≠ f.name.toList) ∧ (∀ key value, ¬ Sets key word value) ∧
    ∀ name, ¬ AsksUnknown word name

variable {word : List Char} {key value : String}

theorem isPair_iff : IsPair word key value ↔
    ∃ text, splitFirst? '=' word = some (key.toList, text) ∧ trimWhile isQuote text = value.toList := by
  simp only [splitFirst?_eq_some_iff, trimWhile_eq_iff]
  constructor
  · rintro ⟨before, after, hword, hkey, hvalue⟩
    exact ⟨_, ⟨hword, hkey⟩, before, after, rfl, hvalue⟩
  · rintro ⟨_, ⟨hword, hkey⟩, before, after, rfl, hvalue⟩
    exact ⟨before, after, hword, hkey, hvalue⟩

/-- A word with an equals sign is one pair. -/
theorem exists_isPair_iff : (∃ key value, IsPair word key value) ↔ '=' ∈ word := by
  constructor
  · rintro ⟨key, value, before, after, rfl, -⟩
    exact List.mem_append_right _ List.mem_cons_self
  · intro hmem
    cases hsplit : splitFirst? '=' word with
    | none => exact absurd hmem (splitFirst?_eq_none_iff.1 hsplit)
    | some p =>
      obtain ⟨key, text⟩ := p
      exact ⟨String.ofList key, String.ofList (trimWhile isQuote text),
        isPair_iff.2 ⟨text, by rw [String.toList_ofList, hsplit], by rw [String.toList_ofList]⟩⟩

theorem IsPair.isPair_iff {key' value' : String} (h : IsPair word key value) :
    IsPair word key' value' ↔ key' = key ∧ value' = value := by
  constructor
  · intro h'
    obtain ⟨text, hsplit, hvalue⟩ := InfoWord.isPair_iff.1 h
    obtain ⟨text', hsplit', hvalue'⟩ := InfoWord.isPair_iff.1 h'
    obtain ⟨hkey, rfl⟩ := Prod.mk.inj (Option.some.inj (hsplit'.symm.trans hsplit))
    exact ⟨String.toList_inj.1 hkey, String.toList_inj.1 (hvalue'.symm.trans hvalue)⟩
  · rintro ⟨rfl, rfl⟩
    exact h

theorem IsPair.read_eq (h : IsPair word key value) : read word =
    if key = "" then .ok .ignored
    else if key = "type" then (BlockType.ofName? value).elim (.error ⟨value⟩) (.ok <| .type ·)
    else .ok (.pair key value) := by
  obtain ⟨text, hsplit, hvalue⟩ := InfoWord.isPair_iff.1 h
  rw [read, hsplit]
  cases hkey : key.toList with
  | nil =>
    obtain rfl : key = "" := by simpa using hkey
    rfl
  | cons c cs =>
    have hne : key ≠ "" := by
      rintro rfl
      cases hkey
    dsimp only
    rw [← hkey, hvalue, String.ofList_toList, String.ofList_toList, if_neg hne]
    simp only [String.toList_inj]
    cases BlockType.ofName? value <;> rfl

theorem read_bare (h : '=' ∉ word) : read word = .ok
    (((BlockType.ofName? (String.ofList word)).map .type).or ((Flag.ofName? (String.ofList word)).map .flag)
      |>.getD .ignored) := by
  simp only [read, splitFirst?_eq_none_iff.2 h]
  cases BlockType.ofName? (String.ofList word) <;> cases Flag.ofName? (String.ofList word) <;> rfl

theorem IsPair.idle (h : IsPair word "" value) : Idle word := by
  have hmem : '=' ∈ word := exists_isPair_iff.1 ⟨"", value, h⟩
  refine ⟨?_, ?_, ?_, ?_⟩
  · rintro t (rfl | h')
    · exact t.equals_notMem_name hmem
    · exact absurd (h.isPair_iff.1 h').1 (by decide)
  · rintro f rfl
    exact f.equals_notMem_name hmem
  · rintro key value' ⟨hne, -, h'⟩
    exact hne (h.isPair_iff.1 h').1
  · rintro name ⟨h', -⟩
    exact absurd (h.isPair_iff.1 h').1 (by decide)

/-- A word that is no pair and no name says nothing. -/
theorem idle_of_bare (h : '=' ∉ word) (htype : BlockType.ofName? (String.ofList word) = none)
    (hflag : Flag.ofName? (String.ofList word) = none) : Idle word := by
  have hpair : ∀ key value, ¬ IsPair word key value := fun key value h' => h (exists_isPair_iff.1 ⟨key, value, h'⟩)
  refine ⟨?_, ?_, fun key value h' => hpair key value h'.2.2, fun name h' => hpair _ name h'.1⟩
  · rintro t (rfl | h')
    · rw [String.ofList_toList, BlockType.ofName?_eq_some_iff.2 rfl] at htype
      cases htype
    · exact hpair _ _ h'
  · rintro f rfl
    rw [String.ofList_toList, Flag.ofName?_eq_some_iff.2 rfl] at hflag
    cases hflag

/-- What can be read from a word, and when. -/
def Means (word : List Char) : Except UnknownBlockType InfoWord → Prop
  | .ok (.type t) => Chooses word t
  | .ok (.flag f) => word = f.name.toList
  | .ok (.pair key value) => Sets key word value
  | .ok .ignored => Idle word
  | .error u => AsksUnknown word u.name

theorem means_read (word : List Char) : Means word (read word) := by
  by_cases hmem : '=' ∈ word
  · obtain ⟨key, value, h⟩ := exists_isPair_iff.2 hmem
    rw [h.read_eq]
    split_ifs with hempty htype
    · subst hempty
      exact h.idle
    · subst htype
      cases hname : BlockType.ofName? value with
      | some t =>
        obtain rfl := BlockType.ofName?_eq_some_iff.1 hname
        exact .inr h
      | none => exact ⟨h, fun t ht => by cases hname.symm.trans (BlockType.ofName?_eq_some_iff.2 ht)⟩
    · exact ⟨hempty, htype, h⟩
  · rw [read_bare hmem]
    cases htype : BlockType.ofName? (String.ofList word) with
    | some t => exact .inl (by rw [← BlockType.ofName?_eq_some_iff.1 htype, String.toList_ofList])
    | none =>
      cases hflag : Flag.ofName? (String.ofList word) with
      | some f => exact (by rw [← Flag.ofName?_eq_some_iff.1 hflag, String.toList_ofList] : word = f.name.toList)
      | none => exact idle_of_bare hmem htype hflag

/-- **A word says one thing**, and that is read from it. -/
theorem read_eq_iff {r : Except UnknownBlockType InfoWord} : read word = r ↔ Means word r := by
  constructor
  · rintro rfl
    exact means_read word
  · match r with
    | .ok (.type t) =>
      rintro (rfl | h)
      · cases t <;> rfl
      · rw [h.read_eq]
        cases t <;> rfl
    | .ok (.flag f) =>
      rintro rfl
      cases f <;> rfl
    | .ok (.pair key value) =>
      rintro ⟨hne, htype, h⟩
      rw [h.read_eq, if_neg hne, if_neg htype]
    | .error ⟨name⟩ =>
      rintro ⟨h, hunknown⟩
      have hnone : BlockType.ofName? name = none := Option.eq_none_iff_forall_ne_some.2 fun t ht =>
        hunknown t (BlockType.ofName?_eq_some_iff.1 ht)
      rw [h.read_eq, if_neg (by decide), if_pos rfl, hnone]
      rfl
    | .ok .ignored =>
      rintro ⟨htype, hflag, hpair, herror⟩
      -- Whatever else the word were read as, it would say just that.
      have hmeans := means_read word
      match hread : read word, hmeans with
      | .ok (.type t), h => exact absurd h (htype t)
      | .ok (.flag f), h => exact absurd h (hflag f)
      | .ok (.pair key value), h => exact absurd h (hpair key value)
      | .ok .ignored, _ => rfl
      | .error u, h => exact absurd h (herror u.name)

end InfoWord

namespace InfoString

open InfoWord

/-! ## What the words say together -/

section
variable {α : Type} {tells : List Char → α → Prop} {ws : List (List Char)} {w : List Char} {a : α}

/-- No word says anything of this sort. -/
def Silent (tells : List Char → α → Prop) (ws : List (List Char)) : Prop := ∀ w ∈ ws, ∀ a, ¬ tells w a

/-- The first word to say anything of this sort says this. -/
def FirstToTell (tells : List Char → α → Prop) (ws : List (List Char)) (a : α) : Prop :=
  ∃ before w after, ws = before ++ w :: after ∧ Silent tells before ∧ tells w a

/-- The last word to say anything of this sort says this. -/
def LastToTell (tells : List Char → α → Prop) (ws : List (List Char)) (a : α) : Prop :=
  ∃ before w after, ws = before ++ w :: after ∧ tells w a ∧ Silent tells after

theorem silent_nil : Silent tells [] := nofun

theorem silent_cons : Silent tells (w :: ws) ↔ (∀ a, ¬ tells w a) ∧ Silent tells ws := List.forall_mem_cons

theorem silent_concat : Silent tells (ws ++ [w]) ↔ Silent tells ws ∧ ∀ a, ¬ tells w a := by
  rw [Silent, List.forall_mem_append, List.forall_mem_singleton]
  rfl

theorem not_firstToTell_nil : ¬ FirstToTell tells [] a := by
  rintro ⟨before, w, after, h, -⟩
  simp at h

theorem firstToTell_cons :
    FirstToTell tells (w :: ws) a ↔ tells w a ∨ (∀ b, ¬ tells w b) ∧ FirstToTell tells ws a := by
  constructor
  · rintro ⟨before, v, after, h, hbefore, hv⟩
    cases before with
    | nil =>
      obtain ⟨rfl, rfl⟩ := List.cons.inj h
      exact .inl hv
    | cons x before =>
      obtain ⟨rfl, rfl⟩ := List.cons.inj h
      obtain ⟨hx, hbefore⟩ := silent_cons.1 hbefore
      exact .inr ⟨hx, before, v, after, rfl, hbefore, hv⟩
  · rintro (hw | ⟨hw, before, v, after, rfl, hbefore, hv⟩)
    · exact ⟨[], w, ws, rfl, silent_nil, hw⟩
    · exact ⟨w :: before, v, after, rfl, silent_cons.2 ⟨hw, hbefore⟩, hv⟩

theorem exists_firstToTell_iff : (∃ a, FirstToTell tells ws a) ↔ ∃ w ∈ ws, ∃ a, tells w a := by
  constructor
  · rintro ⟨a, before, w, after, rfl, -, hw⟩
    exact ⟨w, List.mem_append_right _ List.mem_cons_self, a, hw⟩
  · induction ws with
    | nil => rintro ⟨w, ⟨⟩, -⟩
    | cons v ws ih =>
      rintro ⟨w, hw, a, ha⟩
      by_cases hv : ∃ b, tells v b
      · obtain ⟨b, hb⟩ := hv
        exact ⟨b, firstToTell_cons.2 (.inl hb)⟩
      · rcases List.mem_cons.1 hw with rfl | hw
        · exact absurd ⟨a, ha⟩ hv
        · obtain ⟨b, hb⟩ := ih ⟨w, hw, a, ha⟩
          exact ⟨b, firstToTell_cons.2 (.inr ⟨not_exists.1 hv, hb⟩)⟩

theorem not_lastToTell_nil : ¬ LastToTell tells [] a := by
  rintro ⟨before, w, after, h, -⟩
  simp at h

theorem lastToTell_concat :
    LastToTell tells (ws ++ [w]) a ↔ tells w a ∨ (∀ b, ¬ tells w b) ∧ LastToTell tells ws a := by
  constructor
  · rintro ⟨before, v, after, h, hv, hafter⟩
    rcases List.eq_nil_or_concat' after with rfl | ⟨after, x, rfl⟩
    · obtain ⟨-, ⟨⟩⟩ := List.append_inj' h rfl
      exact .inl hv
    · rw [← List.cons_append, ← List.append_assoc] at h
      obtain ⟨rfl, ⟨⟩⟩ := List.append_inj' h rfl
      obtain ⟨hafter, hx⟩ := silent_concat.1 hafter
      exact .inr ⟨hx, before, v, after, rfl, hv, hafter⟩
  · rintro (hw | ⟨hw, before, v, after, rfl, hv, hafter⟩)
    · exact ⟨ws, w, [], rfl, hw, silent_nil⟩
    · exact ⟨before, v, after ++ [w], by simp, hv, silent_concat.2 ⟨hafter, hw⟩⟩

end

/-- What an info string says that has these words. A flag counts where it is first used, so it counts once. -/
structure Reads (first : List Char) (later : List (List Char)) (info : InfoString) : Prop where
  language : info.language = String.ofList first
  type_iff : ∀ t, info.type = some t ↔
    LastToTell Chooses later t ∨ Silent Chooses later ∧ first = "lvt".toList ∧ t = .lvt
  find?_iff : ∀ key value, info.metadata.find? key = some value ↔ LastToTell (Sets key) later value
  ascending : info.metadata.Ascending
  mem_flags_iff : ∀ f, f ∈ info.flags ↔ f.name.toList ∈ later
  flags : info.flags.Pairwise fun f g => later.idxOf f.name.toList < later.idxOf g.name.toList

variable {first w : List Char} {before later ws : List (List Char)} {info info' : InfoString} {x : InfoWord}
  {u : UnknownBlockType}

/-- The words of an info string leave nothing open. -/
theorem Reads.unique (h : Reads first later info) (h' : Reads first later info') : info = info' := by
  have htype : info.type = info'.type := Option.ext fun t => (h.type_iff t).trans (h'.type_iff t).symm
  have hmetadata : info.metadata = info'.metadata := h.ascending.ext h'.ascending fun key =>
    Option.ext fun value => (h.find?_iff key value).trans (h'.find?_iff key value).symm
  have hflags : info.flags = info'.flags := by
    have : Std.Irrefl fun f g : Flag => later.idxOf f.name.toList < later.idxOf g.name.toList :=
      ⟨fun f => lt_irrefl _⟩
    have : Std.Antisymm fun f g : Flag => later.idxOf f.name.toList < later.idxOf g.name.toList :=
      ⟨fun f g hfg hgf => absurd hgf hfg.not_gt⟩
    exact h.flags.eq_of_mem_iff h'.flags fun f => (h.mem_flags_iff f).trans (h'.mem_flags_iff f).symm
  cases info
  cases info'
  rw [InfoString.mk.injEq]
  exact ⟨h.language.trans h'.language.symm, htype, hflags, hmetadata⟩

/-! ## One word more -/

theorem language_add : (info.add x).language = info.language := by
  cases x <;> try rfl
  rw [add]
  split_ifs <;> rfl

theorem type_add_iff {t : BlockType} :
    (info.add x).type = some t ↔ x = .type t ∨ (∀ u, x ≠ .type u) ∧ info.type = some t := by
  cases x with
  | type u => simp [add]
  | flag f => rw [add]; split_ifs <;> simp
  | pair key value => simp [add]
  | ignored => simp [add]

theorem find?_add_iff {key value : String} : (info.add x).metadata.find? key = some value ↔
    x = .pair key value ∨ (∀ v, x ≠ .pair key v) ∧ info.metadata.find? key = some value := by
  cases x with
  | type u => simp [add]
  | flag f => rw [add]; split_ifs <;> simp
  | pair k v =>
    by_cases hkey : key = k
    · subst hkey
      simp [add, Dictionary.find?_insert_self]
    · simp [add, Dictionary.find?_insert_ne hkey, Ne.symm hkey]
  | ignored => simp [add]

theorem ascending_add (h : info.metadata.Ascending) : (info.add x).metadata.Ascending := by
  cases x with
  | type u => exact h
  | flag f => rw [add]; split_ifs <;> exact h
  | pair key value => exact h.insert
  | ignored => exact h

theorem flags_add (info : InfoString) (x : InfoWord) :
    (info.add x).flags = info.flags ∧ (∀ f, x = .flag f → f ∈ info.flags) ∨
      ∃ f, x = .flag f ∧ f ∉ info.flags ∧ (info.add x).flags = info.flags ++ [f] := by
  cases x with
  | type u => exact .inl ⟨rfl, nofun⟩
  | flag f =>
    rw [add]
    by_cases hf : f ∈ info.flags
    · rw [if_pos (List.contains_iff_mem.2 hf)]
      exact .inl ⟨rfl, fun g hg => by cases hg; exact hf⟩
    · rw [if_neg fun h => hf (List.contains_iff_mem.1 h)]
      exact .inr ⟨f, rfl, hf, rfl⟩
  | pair key value => exact .inl ⟨rfl, nofun⟩
  | ignored => exact .inl ⟨rfl, nofun⟩

/-- **One word more**: what it says is added to what the words before it say. -/
theorem Reads.add (h : Reads first before info) (hread : InfoWord.read w = .ok x) :
    Reads first (before ++ [w]) (info.add x) := by
  have hmeans : ∀ y, Means w (.ok y) ↔ x = y := fun y => by rw [← read_eq_iff, hread, Except.ok.injEq]
  have hchooses : ∀ t, Chooses w t ↔ x = .type t := fun t => hmeans (.type t)
  have hsets : ∀ key value, Sets key w value ↔ x = .pair key value := fun key value => hmeans (.pair key value)
  have hflag : ∀ f : Flag, w = f.name.toList ↔ x = .flag f := fun f => hmeans (.flag f)
  refine ⟨language_add.trans h.language, fun t => ?_, fun key value => ?_, ascending_add h.ascending, fun f => ?_, ?_⟩
  · simp only [type_add_iff, h.type_iff, lastToTell_concat, silent_concat, hchooses]
    tauto
  · simp only [find?_add_iff, h.find?_iff, lastToTell_concat, hsets]
  · rw [List.mem_append, List.mem_singleton, eq_comm (b := w), hflag, ← h.mem_flags_iff]
    rcases info.flags_add x with ⟨hsame, hold⟩ | ⟨g, rfl, -, hflags⟩
    · rw [hsame, or_iff_left_of_imp (hold f)]
    · rw [hflags, List.mem_append, List.mem_singleton, InfoWord.flag.injEq, eq_comm]
  -- A flag that was there keeps the place of its first use, and a new one has its first use in this word.
  · have hidx : ∀ f ∈ info.flags, (before ++ [w]).idxOf f.name.toList = before.idxOf f.name.toList := fun f hf =>
      List.idxOf_append_of_mem ((h.mem_flags_iff f).1 hf)
    have hold : info.flags.Pairwise fun f g =>
        (before ++ [w]).idxOf f.name.toList < (before ++ [w]).idxOf g.name.toList :=
      h.flags.imp_of_mem fun hf hg hlt => by rwa [hidx _ hf, hidx _ hg]
    rcases info.flags_add x with ⟨hsame, -⟩ | ⟨g, hx, hnew, hflags⟩
    · rwa [hsame]
    · rw [hflags, List.pairwise_append]
      refine ⟨hold, List.pairwise_singleton .., fun f hf g' hg' => ?_⟩
      obtain rfl := List.mem_singleton.1 hg'
      rw [hidx f hf, List.idxOf_append_of_notMem fun hmem => hnew ((h.mem_flags_iff g').2 hmem)]
      exact (List.idxOf_lt_length_of_mem ((h.mem_flags_iff f).1 hf)).trans_le (Nat.le_add_right ..)

/-! ## All the words -/

theorem addAll_append (info : InfoString) (ws vs : List (List Char)) :
    addAll info (ws ++ vs) = (addAll info ws).bind (addAll · vs) := by
  induction ws generalizing info with
  | nil => rfl
  | cons w ws ih =>
    rw [List.cons_append, addAll, addAll]
    cases InfoWord.read w with
    | error u => rfl
    | ok x => exact ih _

theorem Reads.addAll (h : Reads first before info) (hok : addAll info ws = .ok info') :
    Reads first (before ++ ws) info' := by
  induction ws generalizing before info with
  | nil =>
    obtain rfl := Except.ok.inj hok
    rwa [List.append_nil]
  | cons w ws ih =>
    rw [InfoString.addAll] at hok
    cases hread : InfoWord.read w with
    | error u =>
      rw [hread] at hok
      cases hok
    | ok x =>
      rw [hread] at hok
      rw [List.append_cons]
      exact ih (h.add hread) hok

theorem addAll_eq_error_iff : addAll info ws = .error u ↔ FirstToTell AsksUnknown ws u.name := by
  induction ws generalizing info with
  | nil => exact iff_of_false nofun not_firstToTell_nil
  | cons w ws ih =>
    have hmeans : ∀ name, AsksUnknown w name ↔ InfoWord.read w = .error ⟨name⟩ := fun name =>
      (read_eq_iff (r := .error ⟨name⟩)).symm
    simp only [firstToTell_cons, hmeans, InfoString.addAll]
    cases InfoWord.read w with
    | error e =>
      obtain ⟨asked⟩ := e
      obtain ⟨name⟩ := u
      simp
    | ok x => simp [ih]

/-- A word that says nothing has no effect, wherever it stands. -/
theorem addAll_idle (h : Idle w) (info : InfoString) (before after : List (List Char)) :
    addAll info (before ++ w :: after) = addAll info (before ++ after) := by
  have hread : InfoWord.read w = .ok .ignored := read_eq_iff.2 h
  simp only [addAll_append, InfoString.addAll, hread]
  rfl

/-! ## Info strings -/

/-- What is read before the words after the language. -/
def opening (first : List Char) : InfoString :=
  { language := String.ofList first, type := if first = "lvt".toList then some .lvt else none }

/-- A text without words has the empty word for its language. -/
theorem parse_eq (text : String) :
    parse text = addAll (opening ((words text.toList).headD [])) (words text.toList).tail := by
  unfold parse
  cases words text.toList with
  | nil => rfl
  | cons first later =>
    have hlvt : String.ofList first = "lvt" ↔ first = "lvt".toList := by rw [← String.toList_inj, String.toList_ofList]
    simp only [hlvt]
    rfl

theorem reads_opening (first : List Char) : Reads first [] (opening first) where
  language := rfl
  type_iff t := by
    rw [or_iff_right not_lastToTell_nil, and_iff_right silent_nil, opening]
    by_cases hlvt : first = "lvt".toList
    · rw [if_pos hlvt, and_iff_right hlvt, Option.some_inj, eq_comm]
    · rw [if_neg hlvt]
      exact iff_of_false nofun fun h => hlvt h.1
  find?_iff key value := iff_of_false nofun not_lastToTell_nil
  ascending := Dictionary.ascending_nil
  mem_flags_iff f := iff_of_false List.not_mem_nil List.not_mem_nil
  flags := .nil

section
variable {text : String} {words : List (List Char)}

theorem parse_eq_error_iff (h : IsWords text.toList words) :
    parse text = .error u ↔ FirstToTell AsksUnknown words.tail u.name := by
  rw [parse_eq, addAll_eq_error_iff, h.words_eq]

theorem exists_parse_eq_error_iff (h : IsWords text.toList words) :
    (∃ u, parse text = .error u) ↔ ∃ w ∈ words.tail, ∃ name, AsksUnknown w name := by
  rw [← exists_firstToTell_iff]
  constructor
  · rintro ⟨u, hu⟩
    exact ⟨u.name, (parse_eq_error_iff h).1 hu⟩
  · rintro ⟨name, hname⟩
    exact ⟨⟨name⟩, (parse_eq_error_iff h).2 hname⟩

theorem parse_eq_ok_iff (h : IsWords text.toList words) :
    parse text = .ok info ↔ Silent AsksUnknown words.tail ∧ Reads (words.headD []) words.tail info := by
  have hreads : ∀ info, parse text = .ok info → Reads (words.headD []) words.tail info := fun info hok => by
    rw [parse_eq, h.words_eq] at hok
    exact (reads_opening _).addAll hok
  constructor
  · intro hok
    refine ⟨fun w hw name hname => ?_, hreads info hok⟩
    obtain ⟨u, hu⟩ := (exists_parse_eq_error_iff h).2 ⟨w, hw, name, hname⟩
    cases hok.symm.trans hu
  · rintro ⟨hsilent, hinfo⟩
    cases hparse : parse text with
    | error u =>
      obtain ⟨w, hw, name, hname⟩ := (exists_parse_eq_error_iff h).1 ⟨u, hparse⟩
      exact absurd hname (hsilent w hw name)
    | ok info' => rw [(hreads info' hparse).unique hinfo]

end

/-- **What an info string says.** It fails if and only if a word after the language asks for a kind that does not exist,
and then names the first that is asked for. Otherwise it is read as its words say together. A word that says
nothing has no effect. -/
theorem parse_reads (text : String) : ∃ words, IsWords text.toList words ∧
    ((∃ u, parse text = .error u) ↔ ∃ w ∈ words.tail, ∃ name, AsksUnknown w name) ∧
    (∀ u, parse text = .error u ↔ FirstToTell AsksUnknown words.tail u.name) ∧
    (∀ info, parse text = .ok info ↔ Silent AsksUnknown words.tail ∧ Reads (words.headD []) words.tail info) ∧
    ∀ first before w after other, words = first :: (before ++ w :: after) → Idle w →
      IsWords other.toList (first :: (before ++ after)) → parse other = parse text := by
  have h : IsWords text.toList (words text.toList) := words_eq_iff.1 rfl
  refine ⟨_, h, exists_parse_eq_error_iff h, fun _ => parse_eq_error_iff h, fun _ => parse_eq_ok_iff h, ?_⟩
  intro first before w after other hwords hidle hother
  rw [parse_eq, parse_eq, hother.words_eq, hwords]
  exact (addAll_idle hidle _ before after).symm

/-- An info string whose words disagree about the kind of block and about a value, with a word that says nothing. -/
def crowdedInfo : String := "lvt server readonly x=\"a=b\" type=wasm =odd readonly x=\"c\""

theorem crowdedInfo_reads : ∃ later info, parse crowdedInfo = .ok info ∧ Reads "lvt".toList later info ∧
    info = { language := "lvt", type := some .wasm, flags := [.readonly], metadata := [("x", "c")] } ∧
    Idle "=odd".toList ∧ parse "lvt server readonly x=\"a=b\" type=wasm readonly x=\"c\"" = parse crowdedInfo := by
  obtain ⟨words, hwords, -, -, hok, hidle⟩ := parse_reads crowdedInfo
  have hcut : words = ["lvt", "server", "readonly", "x=\"a=b\"", "type=wasm", "=odd", "readonly", "x=\"c\""].map
      String.toList := by
    rw [← hwords.words_eq]
    decide +kernel
  have hparse : parse crowdedInfo = .ok
      { language := "lvt", type := some .wasm, flags := [.readonly], metadata := [("x", "c")] } := by decide +kernel
  have hodd : Idle "=odd".toList := (InfoWord.read_eq_iff (r := .ok .ignored)).1 (by decide)
  have hreads := ((hok _).1 hparse).2
  rw [hcut] at hreads
  refine ⟨_, _, hparse, hreads, rfl, hodd, ?_⟩
  exact hidle "lvt".toList (["server", "readonly", "x=\"a=b\"", "type=wasm"].map String.toList) "=odd".toList
    (["readonly", "x=\"c\""].map String.toList) _ hcut hodd (words_eq_iff.1 (by decide +kernel))

end InfoString

end LivePage
