import LedStudio.Number.Numeral
import LedStudio.Text.Half
import LedStudio.Value

/-!
# Faults

Why an operation is refused. A fault has a class, which callers tell apart, and a message.
-/

namespace LedStudio

/-- A field of an answer that is wrong: how, the name of the error, and what stands there. -/
structure BadField where
  field : String
  message : String
  kind : String
  value : Value
  deriving Repr

namespace BadField

/-- The characters at the start of a text that take at most `room` bytes. -/
def takeBytes (room : Nat) : List Char → List Char
  | [] => []
  | c :: rest => if c.utf8Size ≤ room then c :: takeBytes (room - c.utf8Size) rest else []

/-- A text with its middle left out if it takes more than fifty bytes. -/
def clip (s : String) : String :=
  if s.utf8ByteSize ≤ 50 then s
  else
    .ofList (takeBytes 25 s.toList ++ "...".toList ++ (takeBytes 24 s.toList.reverse).reverse)

/-- The page that explains an error. -/
def helpPage (kind : String) : String := "https" ++ "://errors.pydantic.dev/2.14/v/" ++ kind

/-- What is reported of a field. -/
def report (e : BadField) : String :=
  e.field ++ "\n  " ++ e.message ++ " [type=" ++ e.kind ++ ", input_value="
    ++ clip e.value.inspect ++ ", input_type=" ++ e.value.kind.name
    ++ "]\n    For further information visit " ++ helpPage e.kind

/-- What is reported of the fields of an answer. -/
def reportAll (form : String) (fields : List BadField) : String :=
  "\n".intercalate ((toString fields.length ++ " validation error"
    ++ (if fields.length = 1 then "" else "s") ++ " for " ++ form) :: fields.map report)

end BadField

inductive Fault where
  /-- A division by zero. -/
  | divisionByZero
  /-- An integer remainder by zero. -/
  | remainderByZero
  /-- An integer beyond the largest double. -/
  | integerTooLarge
  /-- The quotient of two integers is beyond the largest double. -/
  | quotientTooLarge
  /-- No integer is the part of "not a number". -/
  | nanHasNoInteger
  /-- An infinite number has no integer part. -/
  | infinityHasNoInteger
  /-- The sine of an infinite angle. -/
  | noSine
  /-- A text, or bytes, that do not spell an integer. -/
  | notAnInteger (base : Nat) (spelling : Value)
  /-- A text of more digits than an integer is read from. -/
  | overlongInteger (digits : Nat)
  /-- An integer of more digits than are written. -/
  | unwritableInteger
  /-- A value of a kind that has no integer part. -/
  | noInteger (kind : Kind)
  /-- Two kinds of values that have no order between them. -/
  | notOrdered (sign : String) (left right : Kind)
  /-- A setting that has to be a number. -/
  | notANumber (setting : String) (kind : Kind)
  | negativeLedCount (count : Int)
  | ledCountNotPositive (count : Value)
  /-- A count that is no integer. -/
  | notACount (kind : Kind)
  | negativeFrame (frame : Int)
  /-- No member of a choice has this name. -/
  | noSuchMember (choice : String) (name : Value)
  /-- A value that is not a text where a template needs one. -/
  | replacementNotText (kind : Kind)
  /-- A sketch that still holds tokens. -/
  | unresolvedTokens (tokens : List String)
  /-- A prompt that is not a text. -/
  | noLowerCase (kind : Kind)
  /-- A strip with more LEDs than an index can count. -/
  | countBeyondIndex
  /-- A strip with more LEDs than there is room for. -/
  | outOfMemory
  /-- The clock was started where no event loop runs. -/
  | noEventLoop
  /-- A callback or listener gave up. -/
  | raised (message : String)
  /-- An interface that describes itself has no title. -/
  | noTitle
  /-- An interface that describes itself has no version. -/
  | noVersion
  /-- An answer whose fields have the wrong form. -/
  | unfitAnswer (form : String) (fields : List BadField)
  /-- Code points that are no text, in a field of an answer. -/
  | unfitPoints (points : List Nat)
  /-- Code points that are no text, where they are all of an answer. -/
  | unencodable (points : List Nat)
  /-- The server could not start. -/
  | serverFailed (message : String)
  | fileNotFound (path : String)
  | isADirectory (path : String)
  | notADirectory (path : String)
  /-- A path, or a step of one, with more bytes than a file can be found by. -/
  | pathTooLong (path : String)
  /-- A path with a null character in it. -/
  | nullInPath
  /-- Bytes that are no text. -/
  | undecodable (bytes : List UInt8) (position : Nat) (reason : String)
  /-- A text that is no document. -/
  | malformedDocument
  /-- A document that is nested too deeply. -/
  | nestedTooDeeply
  /-- No character has this number. -/
  | noSuchCharacter (point : Nat)
  /-- A number without a digit. -/
  | emptyNumber
  /-- A text that is no decimal number. -/
  | notADecimal (text : Value)
  /-- A word that is no truth value. -/
  | notATruthValue (word : Value)
  /-- A text that is no moment. -/
  | notAMoment
  /-- A list where a moment has to be spelled. -/
  | momentInPairs
  /-- A day or a moment that there is not. -/
  | notOnCalendar (e : CalendarError)
  | documentNotAMap (name : String) (kind : Kind)
  | sectionNotAMap (name : Value) (kind : Kind)
  /-- A map without this key. -/
  | missingKey (key : Value)
  /-- A value that is no map, where a key is looked up. -/
  | notKeyed (kind : Kind)
  /-- A value that cannot be gone through item by item. -/
  | notIterable (kind : Kind)
  /-- A value that does not name a file. -/
  | notAFileName (kind : Kind)
  /-- Neither the main document nor the factory defaults can be loaded. -/
  | nothingToLoad (main defaults : String) (cause : Fault)
  deriving Repr

namespace Fault

/-- The class of a fault. -/
def label : Fault → String
  | divisionByZero | remainderByZero => "ZeroDivisionError"
  | integerTooLarge | quotientTooLarge | infinityHasNoInteger | countBeyondIndex => "OverflowError"
  | nanHasNoInteger | noSine | notAnInteger .. | overlongInteger _ | unwritableInteger
  | notANumber .. | negativeLedCount _ | ledCountNotPositive _ | negativeFrame _
  | noSuchMember .. | nullInPath => "ValueError"
  | noInteger _ | notOrdered .. | notACount _ | replacementNotText _ | notIterable _
  | notAFileName _ | momentInPairs | notKeyed _ => "TypeError"
  | unresolvedTokens _ => "CodegenError"
  | noLowerCase _ => "AttributeError"
  | outOfMemory => "MemoryError"
  | noEventLoop | raised _ => "RuntimeError"
  | noTitle | noVersion => "AssertionError"
  | unfitAnswer .. => "ValidationError"
  | unfitPoints _ => "PydanticSerializationError"
  | unencodable _ => "UnicodeEncodeError"
  | serverFailed _ | pathTooLong _ => "OSError"
  | fileNotFound _ => "FileNotFoundError"
  | isADirectory _ => "IsADirectoryError"
  | notADirectory _ => "NotADirectoryError"
  | undecodable .. => "UnicodeDecodeError"
  | malformedDocument => "YAMLError"
  | nestedTooDeeply => "RecursionError"
  | noSuchCharacter point => if point < Nat.pow 2 31 then "ValueError" else "OverflowError"
  | emptyNumber => "IndexError"
  | notADecimal _ | notOnCalendar _ => "ValueError"
  | notAMoment => "AttributeError"
  | notATruthValue _ | missingKey _ => "KeyError"
  | documentNotAMap .. | sectionNotAMap .. | nothingToLoad .. => "ConfigError"

/-- The fault says that a value is out of its range or has the wrong form. -/
def isValueFault (f : Fault) : Bool :=
  ["ValueError", "UnicodeDecodeError", "UnicodeEncodeError"].contains f.label

/-- The place of bytes that are no text: a single byte is shown. -/
def bytesText (bytes : List UInt8) (position : Nat) : String :=
  match bytes with
  | [b] => "byte 0x" ++ .ofList (Text.hexDigits 2 b.toNat) ++ " in position " ++ toString position
  | _ => "bytes in position " ++ toString position ++ "-" ++ toString (position + bytes.length - 1)

/-- Where half characters stand in a row of code points; a single one is shown. -/
def halvesText (points : List Nat) : String :=
  let first := (points.takeWhile (!Text.isHalf ·)).length
  match (points.drop first).takeWhile Text.isHalf with
  | [p] =>
    "character '\\u" ++ .ofList (Text.hexDigits 4 p) ++ "' in position " ++ toString first
  | halves =>
    "characters in position " ++ toString first ++ "-" ++ toString (first + halves.length - 1)

/-- Why half characters are not written. -/
def halvesRefused (points : List Nat) : String :=
  "'utf-8' codec can't encode " ++ halvesText points ++ ": surrogates not allowed"

/-- How many bytes of a row are looked at for the message that they spell no integer. -/
def shownBytes : Nat := 200

/-- A spelling that is no integer, as it is shown: the first two hundred characters, the opening
mark included. -/
def shownSpelling : Value → String
  | .bytes b => .ofList ((Text.quotedBytes (b.take shownBytes)).toList.take 200)
  | v => .ofList (v.inspect.toList.take 200)

/-- Why a text is no key of a value that is no map. -/
def keyRefused : Kind → String
  | .text => "string indices must be integers, not 'str'"
  | .bytes => "byte indices must be integers or slices, not str"
  | .list => "list indices must be integers or slices, not str"
  | .tuple => "tuple indices must be integers or slices, not str"
  | kind => "'" ++ kind.fullName ++ "' object is not subscriptable"

/-- What a fault says. -/
def message : Fault → String
  | divisionByZero => "division by zero"
  | remainderByZero => "integer modulo by zero"
  | integerTooLarge => "int too large to convert to float"
  | quotientTooLarge => "integer division result too large for a float"
  | nanHasNoInteger => "cannot convert float NaN to integer"
  | infinityHasNoInteger => "cannot convert float infinity to integer"
  | noSine => "math domain error"
  | notAnInteger base spelling =>
    "invalid literal for int() with base " ++ toString base ++ ": " ++ shownSpelling spelling
  | overlongInteger digits =>
    "Exceeds the limit (" ++ toString Numeral.digitLimit
      ++ " digits) for integer string conversion: value has " ++ toString digits
      ++ " digits; use sys.set_int_max_str_digits() to increase the limit"
  | unwritableInteger =>
    "Exceeds the limit (" ++ toString Numeral.digitLimit
      ++ " digits) for integer string conversion; "
      ++ "use sys.set_int_max_str_digits() to increase the limit"
  | noInteger kind =>
    "int() argument must be a string, a bytes-like object or a real number, not '"
      ++ kind.fullName ++ "'"
  | notOrdered sign left right =>
    "'" ++ sign ++ "' not supported between instances of '" ++ left.fullName ++ "' and '"
      ++ right.fullName ++ "'"
  | notANumber setting kind => setting ++ " must be a number, got " ++ kind.name
  | negativeLedCount count => "led_count must not be negative, got " ++ toString count
  | ledCountNotPositive count => "led_count must be > 0, got " ++ count.display
  | notACount kind => "can't multiply sequence by non-int of type '" ++ kind.fullName ++ "'"
  | negativeFrame frame => "frame must not be negative, got " ++ toString frame
  | noSuchMember choice name => "Invalid " ++ choice ++ ": " ++ name.inspect
  | replacementNotText kind => "replace() argument 2 must be str, not " ++
    (if kind = .null then "None" else kind.name)
  | unresolvedTokens tokens => "Unresolved template tokens: " ++ ", ".intercalate tokens
  | noLowerCase kind => "'" ++ kind.name ++ "' object has no attribute 'lower'"
  | countBeyondIndex => "cannot fit 'int' into an index-sized integer"
  | outOfMemory => ""
  | noEventLoop => "no running event loop"
  | raised message => message
  | noTitle => "A title must be provided for OpenAPI, e.g.: 'My API'"
  | noVersion => "A version must be provided for OpenAPI, e.g.: '2.1.0'"
  | unfitAnswer form fields => BadField.reportAll form fields
  | unfitPoints points =>
    "Error serializing to JSON: UnicodeEncodeError: " ++ halvesRefused points
  | unencodable points => halvesRefused points
  | serverFailed message => message
  | fileNotFound path => "[Errno 2] No such file or directory: " ++ Text.quoted path
  | isADirectory path => "[Errno 21] Is a directory: " ++ Text.quoted path
  | notADirectory path => "[Errno 20] Not a directory: " ++ Text.quoted path
  | pathTooLong path => "[Errno 36] File name too long: " ++ Text.quoted path
  | nullInPath => "embedded null byte"
  | undecodable bytes position reason =>
    "'utf-8' codec can't decode " ++ bytesText bytes position ++ ": " ++ reason
  | malformedDocument => "malformed document"
  | nestedTooDeeply => "maximum recursion depth exceeded"
  | noSuchCharacter point =>
    if point < Nat.pow 2 31 then "chr() arg not in range(0x110000)"
    else "Python int too large to convert to C int"
  | emptyNumber => "string index out of range"
  | notADecimal text => "could not convert string to float: " ++ text.inspect
  | notATruthValue word => word.inspect
  | notAMoment => "'NoneType' object has no attribute 'groupdict'"
  | momentInPairs => "expected string or bytes-like object, got 'list'"
  | notOnCalendar e => e.message
  | documentNotAMap name kind => name ++ " must contain a mapping, got " ++ kind.name
  | sectionNotAMap name kind =>
    "Section '" ++ name.display ++ "' must be a mapping, got " ++ kind.name
  | missingKey key => key.inspect
  | notKeyed kind => keyRefused kind
  | notIterable kind => "'" ++ kind.fullName ++ "' object is not iterable"
  | notAFileName kind =>
    "unsupported operand type(s) for /: 'PosixPath' and '" ++ kind.fullName ++ "'"
  | nothingToLoad main defaults cause =>
    "Cannot load " ++ main ++ " or " ++ defaults ++ ": " ++ cause.message

/-- The fault that this one was raised from. -/
def cause? : Fault → Option Fault
  | nothingToLoad _ _ cause => some cause
  | _ => none

end Fault

/-- The outcome of an operation that can be refused. -/
abbrev Outcome (α : Type) := Except Fault α

end LedStudio
