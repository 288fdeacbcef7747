import LivePage.Anchor
import LivePage.Markdown.Event
/-!
# Heading ids

A heading without an id of its own gets its anchor as id. A number is added when another heading of the page has
that id already: any id that an author wrote, anywhere on the page, or one that an earlier heading got.
-/
namespace LivePage

open Markdown

namespace HeadingId

/-- The ids that authors wrote. -/
def explicit (events : List Event) : List String :=
  events.filterMap fun
    | .start (.heading _ h) => h.id.map (·.text)
    | _ => none

/-- The words of a heading whose content starts a sequence of events. -/
def words (events : List Event) : String :=
  String.join ((events.takeWhile (!·.closesHeading)).map (·.words))

/-- An anchor with a number; zero leaves it as it is. -/
def numbered (base : String) (n : Nat) : String := if n = 0 then base else s!"{base}-{n}"

/-- The anchor with the least number that makes it free. -/
def fresh (taken : List String) (base : String) : String :=
  (((List.range (taken.length + 1)).map (numbered base)).find? (!taken.contains ·)).getD base

theorem oneLine_numbered {base : String} (h : '\n' ∉ base.toList) (n : Nat) : '\n' ∉ (numbered base n).toList := by
  unfold numbered
  split
  · exact h
  · intro hmem
    rw [String.toList_append, String.toList_append, List.mem_append, List.mem_append] at hmem
    rcases hmem with (hmem | hmem) | hmem
    · exact h hmem
    · exact absurd hmem (by decide)
    · rw [Nat.toString_eq_repr, Nat.toList_repr] at hmem
      exact absurd (Nat.isDigit_of_mem_toDigits (by decide) (by decide) hmem) (by decide)

theorem oneLine_fresh {base : String} (h : '\n' ∉ base.toList) (taken : List String) :
    '\n' ∉ (fresh taken base).toList := by
  unfold fresh
  cases hfind : ((List.range (taken.length + 1)).map (numbered base)).find? (!taken.contains ·) with
  | none => exact h
  | some id =>
    obtain ⟨n, -, rfl⟩ := List.mem_map.1 (List.mem_of_find?_eq_some hfind)
    exact oneLine_numbered h n

/-- Gives ids to the headings among events, with the ids that are taken (`assign_heading_ids`). Inside a heading that
has been given an id, which the flag tells, there are no headings. -/
def assign : List String → Bool → List Event → List Event
  | _, _, [] => []
  | taken, true, e :: rest => e :: assign taken (!e.closesHeading) rest
  | taken, false, e :: rest =>
    match e with
    | .start (.heading level h) =>
      match h.id with
      | some _ => e :: assign taken false rest
      | none =>
        let base := slugify (words rest)
        if base.isEmpty then e :: assign taken true rest
        else
          let id := fresh taken base
          .start (.heading level { h with id := some ⟨id, oneLine_fresh (oneLine_slugify _) _⟩ })
            :: assign (id :: taken) true rest
    | _ => e :: assign taken false rest

end HeadingId

/-- The events of a page with an id for every heading that has words (`assign_heading_ids`). -/
def assignHeadingIds (events : List Event) : List Event := HeadingId.assign (HeadingId.explicit events) false events

end LivePage
