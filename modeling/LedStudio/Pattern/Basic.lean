import LedStudio.Choice
import LedStudio.Text.Half

/-!
# Patterns

The patterns that a strip can show, and references to them. A reference that names no pattern is
no mistake: it stands for a strip that is all white.
-/

namespace LedStudio

inductive PatternId where
  | rainbow | wave | chase | strobe | fire | police | sparkle | breathing
  deriving DecidableEq, Repr, Inhabited

namespace PatternId

/-- The patterns in the order in which they are offered. -/
def all : List PatternId := [rainbow, wave, chase, strobe, fire, police, sparkle, breathing]

/-- The name of a pattern for users and in sketches. -/
def name : PatternId → String
  | rainbow => "rainbow"
  | wave => "wave"
  | chase => "chase"
  | strobe => "strobe"
  | fire => "fire"
  | police => "police"
  | sparkle => "sparkle"
  | breathing => "breathing"

/-- The name of a pattern as a member of its choice. -/
def memberName : PatternId → String
  | rainbow => "RAINBOW"
  | wave => "WAVE"
  | chase => "CHASE"
  | strobe => "STROBE"
  | fire => "FIRE"
  | police => "POLICE"
  | sparkle => "SPARKLE"
  | breathing => "BREATHING"

def choice : Choice PatternId :=
  ⟨"PatternID", all.map fun p => ⟨p.memberName, .text p.name, p⟩⟩

/-- The pattern depends on random numbers: one for every LED of every frame. -/
def isRandom : PatternId → Bool
  | fire | sparkle => true
  | _ => false

/-- The pattern that a text names. -/
def ofText? (s : String) : Option PatternId := (choice.find? s).map (·.item)

end PatternId

/-- A pattern, a value that may name one, or a text with half characters in it, which names none; of
that, the code points are kept. -/
inductive PatternRef where
  | id (p : PatternId)
  | value (v : Value)
  | broken (points : List Nat)
  deriving Repr, Inhabited

namespace PatternRef

/-- The pattern that is meant. Only texts name patterns. -/
def resolve : PatternRef → Option PatternId
  | id p => some p
  | value (.text s) => PatternId.ofText? s
  | value _ => none
  | broken _ => none

/-- The text of a reference; half characters are shown as `Value.display` shows them. -/
def name : PatternRef → String
  | id p => p.name
  | value v => v.display
  | broken points => (Value.brokenText points).display

/-- The reference as it is kept: the pattern, or the text of what names none. -/
def normalize (ref : PatternRef) : PatternRef :=
  match ref.resolve, ref with
  | some p, _ => .id p
  | none, broken points | none, value (.brokenText points) => broken points
  | none, ref => .value (.text ref.name)

/-- The name of the rule that colours the LEDs. -/
def ruleName (ref : PatternRef) : String :=
  match ref.resolve with
  | some p => p.name
  | none => "solid_white"

/-- Frames of the pattern are the same on every run. -/
def isDeterministic (ref : PatternRef) : Bool :=
  match ref.resolve with
  | some p => !p.isRandom
  | none => true

end PatternRef
end LedStudio
