import LivePage.Proofs.Text.Bytes
import LivePage.Task.Line
import Mathlib.Data.Nat.Digits.Defs
import Mathlib.Tactic.SplitIfs
/-!
# Reading in a proof

The bytes of a text are the digits of a number, least first. From that number the byte at a position is found by one
division, without a walk over the bytes before it. So the events of a text of some length, and the kinds of its lines,
can be computed in a proof. In a text of ASCII each byte is a character, which need not be decoded.
-/
namespace LivePage

open Text

/-! ## Characters -/

theorem map_ofUInt8_flatMap {text : List Char} (h : ∀ x ∈ text.flatMap String.utf8EncodeChar, x < 128) :
    (text.flatMap String.utf8EncodeChar).map Char.ofUInt8 = text := by
  induction text with
  | nil => rfl
  | cons c text ih =>
    rw [List.flatMap_cons] at h ⊢
    rw [List.map_append, ih fun x hx => h x (List.mem_append_right _ hx)]
    have hascii {i : Nat} {x : UInt8} (hx : (String.utf8EncodeChar c)[i]? = some x) : i = 0 ∧ c = Char.ofUInt8 x :=
      ascii_of_utf8EncodeChar hx (h x (List.mem_append_left _ (List.mem_of_getElem? hx)))
    cases hbytes : String.utf8EncodeChar c with
    | nil =>
      have hsize := c.utf8Size_pos
      rw [← String.length_utf8EncodeChar, hbytes] at hsize
      exact absurd hsize (lt_irrefl 0)
    | cons x rest =>
      rw [hbytes] at hascii
      obtain ⟨-, hc⟩ := hascii (i := 0) rfl
      cases rest with
      | nil => rw [List.map_singleton, ← hc, List.singleton_append]
      | cons y rest => exact absurd (hascii (i := 1) rfl).1 (by decide)

/-- The characters of a text, from its bytes one by one if all of them are of ASCII. -/
def byteChars (text : String) : List Char :=
  let bytes := text.toUTF8.data.toList
  if bytes.all (· < 128) then bytes.map Char.ofUInt8 else text.toList

theorem byteChars_eq (text : String) : byteChars text = text.toList := by
  unfold byteChars
  dsimp only
  split_ifs with h
  · rw [toList_toUTF8] at h ⊢
    exact map_ofUInt8_flatMap fun x hx => of_decide_eq_true (List.all_eq_true.1 h x hx)
  · rfl

namespace Markdown

/-! ## Bytes -/

namespace Buffer

/-- The byte at a position among the digits of a number. -/
def digit? (bytes : List UInt8) (i : Nat) : Option UInt8 :=
  if i < bytes.length then some (UInt8.ofNat (Nat.ofDigits 256 (bytes.map UInt8.toNat) / 256 ^ i)) else none

theorem ofNat_ofDigits_div {bytes : List UInt8} {i : Nat} (h : i < bytes.length) :
    UInt8.ofNat (Nat.ofDigits 256 (bytes.map UInt8.toNat) / 256 ^ i) = bytes[i] := by
  induction bytes generalizing i with
  | nil => simp at h
  | cons x bytes ih =>
    rw [List.map_cons, Nat.ofDigits_cons]
    cases i with
    | zero =>
      apply UInt8.toNat_inj.1
      have := x.toNat_lt
      simp only [pow_zero, Nat.div_one, UInt8.toNat_ofNat', List.getElem_cons_zero]
      omega
    | succ i =>
      have hrest (n : Nat) : (x.toNat + 256 * n) / 256 = n := by
        have := x.toNat_lt
        omega
      rw [pow_succ', ← Nat.div_div_eq_div_mul, hrest, ih (Nat.lt_of_succ_lt_succ h)]
      rfl

theorem digit?_eq (bytes : List UInt8) (i : Nat) : digit? bytes i = bytes[i]? := by
  unfold digit?
  split_ifs with h
  · rw [ofNat_ofDigits_div h, List.getElem?_eq_getElem h]
  · rw [List.getElem?_eq_none (not_lt.1 h)]

/-- A source whose bytes are looked up among the digits of a number. -/
def ofDigits (bytes : List UInt8) : Buffer where
  bytes := ⟨bytes.toArray⟩
  stop := bytes.length
  byte? := digit? bytes
  byte?_eq i := (digit?_eq bytes i).trans (List.getElem?_toArray ..).symm

theorem ext_bytes {b c : Buffer} (hbytes : b.bytes = c.bytes) (hstop : b.stop = c.stop) : b = c := by
  obtain ⟨bytes, stop, byte?, hbyte⟩ := b
  obtain ⟨bytes', stop', byte?', hbyte'⟩ := c
  obtain rfl : bytes = bytes' := hbytes
  obtain rfl : stop = stop' := hstop
  obtain rfl : byte? = byte?' := funext fun i => (hbyte i).trans (hbyte' i).symm
  rfl

theorem ofString_eq_ofDigits (text : String) : ofString text = ofDigits (text.toList.flatMap String.utf8EncodeChar) := by
  refine ext_bytes ?_ ?_
  · rw [← toList_toUTF8]
    rfl
  · exact (byteLength_toList text).symm.trans (length_flatMap_utf8EncodeChar text.toList).symm

theorem fromUTF8?_toUTF8 (text : String) : String.fromUTF8? text.toUTF8 = some text := by
  rw [String.fromUTF8?, String.toUTF8_eq_toByteArray, dif_pos text.isValidUTF8]
  rfl

/-- What a source gives between two characters is the piece of its text. -/
theorem slice_ofString {text : String} {front piece after : List Char} (h : text.toList = front ++ (piece ++ after)) :
    (ofString text).slice (byteLength front) (byteLength (front ++ piece)) = String.ofList piece := by
  have hstop : byteLength (front ++ piece) ≤ text.utf8ByteSize := by
    rw [← byteLength_toList, h, ← List.append_assoc, byteLength_append _ after]
    exact Nat.le_add_right ..
  have hbytes : text.toUTF8.extract (byteLength front) (byteLength (front ++ piece)) = (String.ofList piece).toUTF8 := by
    apply ByteArray.ext
    apply Array.toList_inj.1
    rw [ByteArray.data_extract, Array.toList_extract, List.extract_eq_take_drop, toList_toUTF8, toList_toUTF8, h,
      List.flatMap_append, List.drop_left' (length_flatMap_utf8EncodeChar front), List.flatMap_append, byteLength_append,
      Nat.add_sub_cancel_left, List.take_left' (length_flatMap_utf8EncodeChar piece), String.toList_ofList]
  rw [slice, ofString]
  dsimp only
  rw [Nat.min_eq_left hstop, hbytes, fromUTF8?_toUTF8, Option.getD_some]

end Buffer

/-! ## What is read -/

/-- The events of a source, in the order of the nodes of its tree. -/
def eventsOf (b : Buffer) : List PlacedEvent :=
  let o := Outline.read b
  Node.eventsOfAll b (Node.readInlinesOfAll b o [] o.nodes)

/-- The events of a text, from the number of its bytes. -/
theorem events_ofList (cs : List Char) :
    events (String.ofList cs) = eventsOf (.ofDigits (cs.flatMap String.utf8EncodeChar)) := by
  rw [events, eventsOf, Buffer.ofString_eq_ofDigits, String.toList_ofList]

end Markdown

open Markdown

/-- What each line of a text is, from the number of its bytes. -/
def digitKinds (text : List Char) : List LineKind :=
  let t := TextLines.ofText text
  markLines t false (eventsOf (.ofDigits (text.flatMap String.utf8EncodeChar))) (t.lines.map .plain)

theorem lineKinds_ofList (text : List Char) : lineKinds (String.ofList text) = digitKinds text := by
  rw [lineKinds, lineKindsOf, events_ofList, String.toList_ofList, digitKinds]

end LivePage
