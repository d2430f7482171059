/-!
# Searching and replacing

Occurrences of one text in another, from left to right and without overlap.
-/

namespace LedStudio.Text

/-- The text `needle` stands somewhere in a text. -/
def occursIn {α : Type} [BEq α] (needle : List α) : List α → Bool
  | [] => needle.isEmpty
  | c :: cs => needle.isPrefixOf (c :: cs) || occursIn needle cs

/-- Replaces `old` by `new`, after leaving out some characters of an occurrence already replaced. -/
def replaceFrom {α : Type} [BEq α] (old new : List α) : Nat → List α → List α
  | _, [] => []
  | skip + 1, _ :: cs => replaceFrom old new skip cs
  | 0, c :: cs =>
    if old.isPrefixOf (c :: cs) then new ++ replaceFrom old new (old.length - 1) cs
    else c :: replaceFrom old new 0 cs

/-- Replaces every occurrence of a text that is not empty; what was put in is not searched again. -/
def replaceAll {α : Type} [BEq α] (old new text : List α) : List α := replaceFrom old new 0 text

/-- The pieces of a text between the occurrences of one character; at least one piece. -/
def splitAt {α : Type} [DecidableEq α] (mark : α) : List α → List (List α)
  | [] => [[]]
  | c :: cs =>
    if c = mark then [] :: splitAt mark cs
    else
      match splitAt mark cs with
      | [] => [[c]]
      | piece :: pieces => (c :: piece) :: pieces

end LedStudio.Text
