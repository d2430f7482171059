import LedStudio.Number.Double

/-!
# Random numbers

Random patterns read an endless row of numbers from front to back. A stream is such a row and the
number of entries that have been read.
-/

namespace LedStudio

structure Stream where
  sample : Nat → Double
  drawn : Nat := 0

namespace Stream

/-- The number that is read next. -/
def head (s : Stream) : Double := s.sample s.drawn

/-- The stream after `n` more numbers have been read. -/
def skip (s : Stream) (n : Nat) : Stream := { s with drawn := s.drawn + n }

/-- The stream that repeats a list; zeros if the list is empty. -/
def cycle (values : Array Double) : Stream where
  sample n := values[n % values.size]?.getD (.finite 0)

end Stream
end LedStudio
