import LivePage.Span
import LivePage.Text.Basic
import Mathlib.Tactic.SplitIfs
/-!
# Cutting texts at bytes

A text can be cut at a byte offset just where whole characters come before it. What is cut out is then the piece of
the text that stands there, whatever comes before and after it.
-/
namespace LivePage

namespace Text

/-! ## Lengths -/

section
variable {cs before after piece rest : List Char} {c : Char} {start len n : Nat}

@[simp] theorem byteLength_nil : byteLength [] = 0 := rfl

@[simp] theorem byteLength_cons (c : Char) (cs : List Char) : byteLength (c :: cs) = c.utf8Size + byteLength cs := rfl

@[simp] theorem byteLength_append (cs ds : List Char) : byteLength (cs ++ ds) = byteLength cs + byteLength ds := by
  induction cs with
  | nil => simp
  | cons c cs ih => simp [ih, Nat.add_assoc]

theorem byteLength_ascii (h : ∀ c ∈ cs, c.utf8Size = 1) : byteLength cs = cs.length := by
  induction cs with
  | nil => rfl
  | cons c cs ih =>
    rw [byteLength_cons, h c List.mem_cons_self, ih fun d hd => h d (List.mem_cons_of_mem _ hd), List.length_cons,
      Nat.add_comm]

theorem byteLength_spaces (n : Nat) : byteLength (List.replicate n ' ') = n := by
  rw [byteLength_ascii fun c hc => by rw [List.eq_of_mem_replicate hc]; rfl, List.length_replicate]

theorem eq_nil_of_byteLength (h : byteLength cs = 0) : cs = [] := by
  cases cs with
  | nil => rfl
  | cons c cs => have := c.utf8Size_pos; rw [byteLength_cons] at h; omega

theorem byteLength_toList (s : String) : byteLength s.toList = s.utf8ByteSize := by
  rw [← String.ofList_toList (s := s), String.toList_ofList]
  induction s.toList with
  | nil => rfl
  | cons c cs ih =>
    rw [byteLength_cons, ih, String.ofList_cons, String.utf8ByteSize_append, String.utf8ByteSize_singleton]

theorem utf8ByteSize_ofList (cs : List Char) : (String.ofList cs).utf8ByteSize = byteLength cs := by
  rw [← byteLength_toList, String.toList_ofList]

theorem isEmpty_ofList (l : List Char) : (String.ofList l).isEmpty = l.isEmpty := by
  rw [Bool.eq_iff_iff, String.isEmpty_iff, List.isEmpty_iff, ← String.toList_inj, String.toList_ofList, String.toList_empty]

/-! ## Cuts -/

theorem append_zero_iff : cs = before ++ rest ∧ byteLength before = 0 ↔ before = [] ∧ cs = rest := by
  constructor
  · rintro ⟨rfl, h⟩
    obtain rfl := eq_nil_of_byteLength h
    exact ⟨rfl, rfl⟩
  · rintro ⟨rfl, rfl⟩
    exact ⟨rfl, rfl⟩

theorem nil_append_succ_iff : [] = before ++ rest ∧ byteLength before = n + 1 ↔ False := by
  rw [iff_false]
  rintro ⟨h, hlen⟩
  obtain rfl := (List.append_eq_nil_iff.1 h.symm).1
  cases hlen

/-- A cut after at least one byte comes after the first character. -/
theorem cons_append_succ_iff : c :: cs = before ++ rest ∧ byteLength before = n + 1 ↔
    c.utf8Size ≤ n + 1 ∧ ∃ b, before = c :: b ∧ cs = b ++ rest ∧ byteLength b = n + 1 - c.utf8Size := by
  constructor
  · rintro ⟨h, hlen⟩
    cases before with
    | nil => cases hlen
    | cons d b =>
      obtain ⟨rfl, rfl⟩ := List.cons.inj h
      rw [byteLength_cons] at hlen
      exact ⟨by omega, b, rfl, rfl, by omega⟩
  · rintro ⟨hle, b, rfl, rfl, hlen⟩
    exact ⟨rfl, by rw [byteLength_cons, hlen]; omega⟩

theorem dropBytes?_eq_some_iff :
    dropBytes? cs n = some rest ↔ ∃ before, cs = before ++ rest ∧ byteLength before = n := by
  fun_induction dropBytes? cs n with
  | case1 cs => simp only [append_zero_iff, exists_eq_left, Option.some.injEq]
  | case2 n => simp only [nil_append_succ_iff, exists_false, reduceCtorEq]
  | case3 c cs n hle ih =>
    simp only [cons_append_succ_iff, hle, true_and, ih]
    exact ⟨fun ⟨b, h⟩ => ⟨c :: b, b, rfl, h⟩, fun ⟨_, b, _, h⟩ => ⟨b, h⟩⟩
  | case4 c cs n hlt => simp only [cons_append_succ_iff, hlt, false_and, exists_false, reduceCtorEq]

theorem takeBytes?_eq_some_iff :
    takeBytes? cs n = some piece ↔ ∃ after, cs = piece ++ after ∧ byteLength piece = n := by
  fun_induction takeBytes? cs n generalizing piece with
  | case1 cs =>
    simp only [append_zero_iff, Option.some.injEq]
    exact ⟨fun h => ⟨cs, h.symm, rfl⟩, fun ⟨_, h, _⟩ => h.symm⟩
  | case2 n => simp only [nil_append_succ_iff, exists_false, reduceCtorEq]
  | case3 c cs n hle ih =>
    simp only [cons_append_succ_iff, hle, true_and, Option.map_eq_some_iff, ih]
    constructor
    · rintro ⟨p, ⟨after, hp⟩, rfl⟩
      exact ⟨after, p, rfl, hp⟩
    · rintro ⟨after, p, rfl, hp⟩
      exact ⟨p, ⟨after, hp⟩, rfl⟩
  | case4 c cs n hlt => simp only [cons_append_succ_iff, hlt, false_and, exists_false, reduceCtorEq]

/-- Cuts of a text after the same number of bytes are the same. -/
theorem append_inj_of_byteLength {before' rest' : List Char} (h : before ++ rest = before' ++ rest')
    (hlen : byteLength before = byteLength before') : before = before' ∧ rest = rest' := by
  have hcut : takeBytes? (before ++ rest) (byteLength before') = some before :=
    takeBytes?_eq_some_iff.2 ⟨rest, rfl, hlen⟩
  rw [h, takeBytes?_eq_some_iff.2 ⟨rest', rfl, rfl⟩] at hcut
  obtain rfl := Option.some.inj hcut
  exact ⟨rfl, List.append_cancel_left h⟩

/-- The character at a byte of a piece of a text is one of the piece. -/
theorem mem_of_byteLength {front back : List Char} (h : before ++ (piece ++ after) = front ++ c :: back)
    (hle : byteLength before ≤ byteLength front) (hlt : byteLength front < byteLength before + byteLength piece) :
    c ∈ piece := by
  rcases List.append_eq_append_iff.1 h with ⟨more, rfl, hrest⟩ | ⟨more, rfl, hrest⟩
  · rw [byteLength_append] at hlt
    rcases List.append_eq_append_iff.1 hrest with ⟨x, rfl, -⟩ | ⟨x, rfl, hx⟩
    · rw [byteLength_append] at hlt
      omega
    · cases x with
      | nil => simp at hlt
      | cons d x => simp [(List.cons.inj hx).1]
  · rw [byteLength_append] at hle
    obtain rfl := eq_nil_of_byteLength (show byteLength more = 0 by omega)
    cases piece with
    | nil => simp at hlt
    | cons d piece => simp [(List.cons.inj hrest).1]

/-- What is cut out of a text is the piece that stands there. -/
theorem sliceBytes?_eq_some_iff :
    sliceBytes? cs start len = some piece ↔
      ∃ before after, cs = before ++ piece ++ after ∧ byteLength before = start ∧ byteLength piece = len := by
  simp only [sliceBytes?, Option.bind_eq_some_iff, dropBytes?_eq_some_iff, takeBytes?_eq_some_iff]
  constructor
  · rintro ⟨rest, ⟨before, rfl, hstart⟩, after, rfl, hlen⟩
    exact ⟨before, after, (List.append_assoc ..).symm, hstart, hlen⟩
  · rintro ⟨before, after, rfl, hstart, hlen⟩
    exact ⟨_, ⟨before, List.append_assoc .., hstart⟩, after, rfl, hlen⟩

theorem dropPrefix?_eq_some {pre : List Char} (h : dropPrefix? pre cs = some rest) : cs = pre ++ rest := by
  unfold dropPrefix? at h
  split_ifs at h with hpre
  obtain ⟨t, rfl⟩ := List.isPrefixOf_iff_prefix.1 hpre
  rw [← Option.some.inj h, List.drop_left]

theorem dropPrefix?_append (pre rest : List Char) : dropPrefix? pre (pre ++ rest) = some rest := by
  rw [dropPrefix?, if_pos (List.isPrefixOf_iff_prefix.2 (List.prefix_append ..)), List.drop_left]

/-! ## Boundaries -/

/-- Whole characters come before a byte offset. -/
def IsBoundary (cs : List Char) (n : Nat) : Prop := (dropBytes? cs n).isSome

instance (cs : List Char) : DecidablePred (IsBoundary cs) := fun n => inferInstanceAs (Decidable ((dropBytes? cs n).isSome = true))

theorem isBoundary_iff : IsBoundary cs n ↔ ∃ before rest, cs = before ++ rest ∧ byteLength before = n := by
  rw [IsBoundary, Option.isSome_iff_exists]
  simp only [dropBytes?_eq_some_iff]
  exact exists_comm

/-- A boundary does not lie inside a character. -/
theorem IsBoundary.le_or_le (h : IsBoundary (before ++ c :: after) n) :
    n ≤ byteLength before ∨ byteLength (before ++ [c]) ≤ n := by
  obtain ⟨first, rest, heq, rfl⟩ := isBoundary_iff.1 h
  rcases List.append_eq_append_iff.1 heq with ⟨more, rfl, hmore⟩ | ⟨more, rfl, -⟩
  · cases more with
    | nil => exact Or.inl (by simp)
    | cons d more =>
      obtain ⟨rfl, -⟩ := List.cons.inj hmore
      exact Or.inr (by simp)
  · exact Or.inl (by simp)

end

/-! ## Bytes of characters -/

/-- A byte of ASCII is the only one of its character. -/
theorem ascii_of_utf8EncodeChar {c : Char} {i : Nat} {x : UInt8} (h : (String.utf8EncodeChar c)[i]? = some x)
    (hx : x < 128) : i = 0 ∧ c = Char.ofUInt8 x := by
  have hlarge {n : Nat} (hn : 128 ≤ n % 256) : ¬ UInt8.ofNat n < 128 := by
    rw [UInt8.lt_iff_toNat_lt, UInt8.toNat_ofNat']
    exact Nat.not_lt.2 hn
  -- The bytes of a longer character are all past those of ASCII.
  have hbytes {bytes : List UInt8} (hall : ∀ y ∈ bytes, ¬ y < 128) (h : bytes[i]? = some x) : False :=
    hall x (List.mem_of_getElem? h) hx
  unfold String.utf8EncodeChar at h
  dsimp only at h
  split_ifs at h with h1 h2 h3
  · obtain ⟨rfl, rfl⟩ : i = 0 ∧ UInt8.ofNat c.val.toNat = x := by
      cases i <;> simp_all
    refine ⟨rfl, Char.ext (UInt32.toNat_inj.1 ?_)⟩
    change c.val.toNat = (UInt8.ofNat c.val.toNat).toNat
    rw [UInt8.toNat_ofNat', Nat.mod_eq_of_lt (by omega)]
  all_goals
    refine (hbytes ?_ h).elim
    simp only [List.forall_mem_cons, List.not_mem_nil, false_imp_iff, implies_true, and_true]
    refine ⟨hlarge (by omega), ?_⟩
  · exact hlarge (by omega)
  · exact ⟨hlarge (by omega), hlarge (by omega)⟩
  · exact ⟨hlarge (by omega), hlarge (by omega), hlarge (by omega)⟩

/-- A byte of ASCII stands for a character of the text. -/
theorem exists_char_of_byte {cs : List Char} {i : Nat} {x : UInt8} (h : (cs.flatMap String.utf8EncodeChar)[i]? = some x)
    (hx : x < 128) : ∃ front after, cs = front ++ Char.ofUInt8 x :: after ∧ byteLength front = i := by
  induction cs generalizing i with
  | nil => simp at h
  | cons c cs ih =>
    rw [List.flatMap_cons, List.getElem?_append, String.length_utf8EncodeChar] at h
    split_ifs at h with hi
    · obtain ⟨rfl, rfl⟩ := ascii_of_utf8EncodeChar h hx
      exact ⟨[], cs, rfl, rfl⟩
    · obtain ⟨front, after, rfl, hlen⟩ := ih h
      exact ⟨c :: front, after, rfl, by rw [byteLength_cons, hlen]; omega⟩

/-- A line feed is a byte of no other character. -/
theorem not_mem_utf8EncodeChar {c : Char} (h : c ≠ '\n') : 0x0a ∉ String.utf8EncodeChar c := fun hmem => by
  obtain ⟨i, hi⟩ := List.getElem?_of_mem hmem
  exact h (ascii_of_utf8EncodeChar hi (by decide)).2

theorem length_flatMap_utf8EncodeChar (cs : List Char) : (cs.flatMap String.utf8EncodeChar).length = byteLength cs := by
  induction cs with
  | nil => rfl
  | cons c cs ih => rw [List.flatMap_cons, List.length_append, String.length_utf8EncodeChar, ih, byteLength_cons]

theorem count_flatMap_utf8EncodeChar (cs : List Char) :
    (cs.flatMap String.utf8EncodeChar).count 0x0a = cs.count '\n' := by
  induction cs with
  | nil => rfl
  | cons c cs ih =>
    rw [List.flatMap_cons, List.count_append, ih]
    by_cases hc : c = '\n'
    · rw [hc, List.count_cons_self, Nat.add_comm]
      rfl
    · rw [List.count_eq_zero.2 (not_mem_utf8EncodeChar hc), List.count_cons_of_ne hc, Nat.zero_add]

theorem toList_toUTF8 (text : String) : text.toUTF8.data.toList = text.toList.flatMap String.utf8EncodeChar := by
  change text.toByteArray.data.toList = _
  rw [← String.utf8Encode_toList, List.utf8Encode, List.data_toByteArray]

end Text

open Text

namespace Span

/-- A byte range of a text that runs forward and cuts no character. -/
structure OnBoundaries (cs : List Char) (s : Span) : Prop where
  le : s.start ≤ s.stop
  start : IsBoundary cs s.start
  stop : IsBoundary cs s.stop

instance (cs : List Char) : DecidablePred (OnBoundaries cs) := fun s =>
  decidable_of_iff (s.start ≤ s.stop ∧ IsBoundary cs s.start ∧ IsBoundary cs s.stop)
    ⟨fun ⟨h1, h2, h3⟩ => ⟨h1, h2, h3⟩, fun ⟨h1, h2, h3⟩ => ⟨h1, h2, h3⟩⟩

end Span

end LivePage
