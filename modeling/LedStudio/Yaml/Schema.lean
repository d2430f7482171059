import LedStudio.Number.Mixed
import LedStudio.Text.Base64
import LedStudio.Text.Case
import LedStudio.Text.Search
import LedStudio.Yaml.Moment
import LedStudio.Yaml.Tag

/-!
# What texts mean

A plain text that looks like nothing, a truth value, a number or a moment is tagged as that; every
other text stands for itself. The value of a text is then read by its tag, whether the tag was found
or given. Underscores in numbers do not count, a leading zero makes an integer octal, and numbers
with colons count sixties. A text is a row of code points, and half characters fit into none but
texts that stand for themselves.
-/

namespace LedStudio.Yaml

def isDigitOr_ (c : Char) : Bool := c.isDigit || c = '_'

/-- A row of characters of a class, at least one. -/
def allOf (p : Char → Bool) (s : List Char) : Bool := !s.isEmpty && s.all p

/-! ## Looks -/

/-- Sixty counts at most: one digit, or two of which the first is at most five. -/
def isSixtieth (s : List Char) : Bool :=
  match s with
  | [d] => d.isDigit
  | [t, d] => '0' ≤ t && t ≤ '5' && d.isDigit
  | _ => false

/-- A digit of a base, or an underscore. -/
def isPlaceOf (base : Nat) (c : Char) : Bool := (Text.asciiDigit? base c).isSome || c = '_'

/-- The text looks like an integer without its sign. -/
def looksUnsigned (s : List Char) : Bool :=
  match s with
  | ['0'] => true
  | '0' :: 'b' :: rest => allOf (isPlaceOf 2) rest
  | '0' :: 'x' :: rest => allOf (isPlaceOf 16) rest
  | '0' :: rest => allOf (isPlaceOf 8) rest
  | c :: _ =>
    match Text.splitAt ':' s with
    | first :: places => c.isDigit && first.all isDigitOr_ && places.all isSixtieth
    | [] => false
  | [] => false

def looksInteger (s : List Char) : Bool := looksUnsigned (Numeral.takeSign s).2

/-- An exponent with a sign, or none. -/
def isSignedExponent (s : List Char) : Bool :=
  match s with
  | [] => true
  | e :: sign :: digits =>
    (e = 'e' || e = 'E') && (sign = '+' || sign = '-') && allOf Char.isDigit digits
  | _ => false

/-- A number with a point among or behind its digits. -/
def looksPointed (s : List Char) : Bool :=
  let whole := s.takeWhile isDigitOr_
  match s.head?, s.drop whole.length with
  | some d, '.' :: rest => d.isDigit && isSignedExponent (rest.dropWhile isDigitOr_)
  | _, _ => false

/-- A number with a point before its digits; it has no sign. -/
def looksFraction (s : List Char) : Bool :=
  match s with
  | '.' :: d :: rest => d.isDigit && isSignedExponent (rest.dropWhile isDigitOr_)
  | _ => false

/-- A number whose places count sixties and whose last place has a point. -/
def looksSixties (s : List Char) : Bool :=
  match Text.splitAt ':' s with
  | first :: second :: more =>
    let places := second :: more
    let last := places.getLastD []
    let whole := last.takeWhile Char.isDigit
    match s.head?, last.drop whole.length with
    | some d, '.' :: fraction =>
      d.isDigit && first.all isDigitOr_ && places.dropLast.all isSixtieth && isSixtieth whole
        && fraction.all isDigitOr_
    | _, _ => false
  | _ => false

def looksDecimal (s : List Char) : Bool :=
  let unsigned := (Numeral.takeSign s).2
  [".inf", ".Inf", ".INF"].contains (String.ofList unsigned)
    || [".nan", ".NaN", ".NAN"].contains (String.ofList s)
    || looksPointed unsigned || looksFraction s || looksSixties unsigned

def truthWords : List String :=
  ["yes", "Yes", "YES", "true", "True", "TRUE", "on", "On", "ON",
   "no", "No", "NO", "false", "False", "FALSE", "off", "Off", "OFF"]

def nullWords : List String := ["", "~", "null", "Null", "NULL"]

/-- Marks that stand for nothing. -/
def markWords : List String := ["!", "&", "*"]

/-- The text without a line end behind it, unless it is nothing else. -/
def looked (s : List Char) : List Char :=
  if s.getLast? = some '\n' ∧ 1 < s.length then s.dropLast else s

/-- The tag of a text that has none. -/
def impliedTag (points : List Nat) : Tag :=
  let chars := looked (Text.shownPoints points).toList
  let word := String.ofList chars
  if nullWords.contains word then .null
  else if truthWords.contains word then .bool
  else if word = "<<" then .merge
  else if word = "=" then .default
  else if markWords.contains word then .unknown
  else if looksInteger chars then .int
  else if looksDecimal chars then .float
  else if looksMoment chars then .moment
  else .text

/-! ## Values -/

def withoutUnderscores (points : List Nat) : List Nat := points.filter (· ≠ '_'.toNat)

/-- Splits a sign off; `true` stands for minus. There is none where there is nothing at all. -/
def takeMinus : List Nat → Option (Bool × List Nat)
  | [] => none
  | p :: rest =>
    if p = '-'.toNat then some (true, rest)
    else if p = '+'.toNat then some (false, rest)
    else some (false, p :: rest)

def beginsWith (s : String) (points : List Nat) : Bool := (pointsOf s.toList).isPrefixOf points

/-- The places of a number that counts sixties. -/
def sixtiesPlaces (points : List Nat) : List (List Nat) := Text.splitAt ':'.toNat points

/-- The value of places that count sixties. -/
def sixtiesInt (places : List (List Nat)) : Outcome Int := do
  return (← places.mapM (spelledPoints 10)).foldl (fun n p => n * 60 + p) 0

/-- The integer that a text spells, by the base that it begins with. -/
def integerOf (points : List Nat) : Outcome Int :=
  match takeMinus (withoutUnderscores points) with
  | none => .error .emptyNumber
  | some (negative, digits) =>
    let size : Outcome Int :=
      if digits.isEmpty then .error .emptyNumber
      else if beginsWith "0b" digits then spelledPoints 2 (digits.drop 2)
      else if beginsWith "0x" digits then spelledPoints 16 (digits.drop 2)
      else if beginsWith "0" digits then spelledPoints 8 digits
      else if digits.contains ':'.toNat then sixtiesInt (sixtiesPlaces digits)
      else spelledPoints 10 digits
    size.map fun n => if negative then -n else n

/-- The double that a text spells. -/
def spelledDouble (points : List Nat) : Outcome Double :=
  match Double.spelled? (Text.shownPoints points).toList with
  | some x => .ok x
  | none => .error (.notADecimal (.ofPoints points))

/-- The value of places that count sixties, the last place first: each is multiplied by the double
of its worth. -/
def sixtiesSum : (worth : Int) → (sum : Double) → List Double → Outcome Double
  | _, sum, [] => .ok sum
  | worth, sum, place :: rest =>
    match Double.ofInt worth with
    | .error f => .error f
    | .ok w => sixtiesSum (worth * 60) (sum.add (place.mul w)) rest

/-- The decimal number that a text spells. Only the word for it spells the common "not a number";
another one that comes about is the same as no other. -/
def decimalOf (points : List Nat) : Outcome Value :=
  match takeMinus (Text.lowerPoints (withoutUnderscores points)) with
  | none => .error .emptyNumber
  | some (negative, digits) =>
    if digits = pointsOf ".nan".toList then .ok (.float .nan)
    else
      let size : Outcome Double :=
        if digits = pointsOf ".inf".toList then .ok (.infinite false)
        else if digits.contains ':'.toNat then
          ((sixtiesPlaces digits).mapM spelledDouble).bind fun places =>
            sixtiesSum 1 (.finite 0) places.reverse
        else spelledDouble digits
      size.map fun x =>
        if x = .nan then .loneNan else .float (if negative then x.neg else x)

/-- The truth values by their words. -/
def truths : List (String × Bool) :=
  [("yes", true), ("no", false), ("true", true), ("false", false), ("on", true), ("off", false)]

/-- The truth value that a word names in any case. -/
def truthOf (points : List Nat) : Outcome Bool :=
  let word := Text.lowerPoints points
  match truths.find? fun entry => pointsOf entry.1.toList = word with
  | some (_, b) => .ok b
  | none => .error (.notATruthValue (.ofPoints word))

/-- The value of a text with a tag. -/
def textValue (tag : Tag) (points : List Nat) : Outcome Value :=
  match tag with
  | .null => .ok .null
  | .bool => (truthOf points).map .bool
  | .int => (integerOf points).map .int
  | .float => decimalOf points
  | .moment => momentOf (looked (Text.shownPoints points).toList)
  | .binary =>
    match Text.fromBase64? points with
    | some bytes => .ok (.bytes bytes)
    | none => malformed
  | .text => .ok (.ofPoints points)
  | _ => malformed

end LedStudio.Yaml
