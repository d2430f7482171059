import LedStudio.Pattern.Basic
import LedStudio.Text.Search

/-!
# Prompts

A prompt describes an effect in free text. A table of keywords is gone through in order; the first
keyword that occurs in the prompt, whatever its case there, decides on the pattern.
-/

namespace LedStudio

/-- Keywords and the patterns they stand for. -/
abbrev KeywordTable := List (String × PatternId)

def keywordTable : KeywordTable := [("ocean", .wave), ("party", .rainbow), ("emergency", .police)]

/-- The pattern for a prompt without a keyword. -/
def fallbackPattern : PatternId := .sparkle

/-- The pattern of the first keyword that occurs among the code points of a text. -/
def KeywordTable.firstIn (table : KeywordTable) (points : List Nat) : Option PatternId :=
  (table.find? fun entry => Text.occursIn (entry.1.toList.map Char.toNat) points).map (·.2)

/-- The code points of a prompt in lower case. A value that counts as false is an empty prompt. -/
def promptPoints (prompt : Value) : Outcome (List Nat) :=
  match prompt.kind with
  | .text => .ok (Text.lowerPoints prompt.points)
  | kind => if prompt.isTruthy then .error (.noLowerCase kind) else .ok []

/-- The pattern that a prompt suggests. -/
def suggest (table : KeywordTable) (fallback : PatternId) (prompt : Value) : Outcome PatternId :=
  (promptPoints prompt).map fun points => (table.firstIn points).getD fallback

end LedStudio
