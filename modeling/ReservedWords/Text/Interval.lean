/-!
Character classes given as lists of code point intervals. A class is read through `covers`, and
every table of the library is a list of this type in increasing order.
-/

namespace ReservedWords.Text

/-- The code points from `first` to `last`, both included. -/
structure Interval where
  first : Nat
  last : Nat
  deriving DecidableEq, Repr

namespace Interval

/-- A code point lies in an interval when neither end excludes it. -/
def contains (interval : Interval) (code : Nat) : Bool :=
  interval.first ≤ code && code ≤ interval.last

/-- A character belongs to a class when one of its intervals contains it. -/
def covers (table : List Interval) (c : Char) : Bool :=
  table.any (·.contains c.toNat)

end Interval

end ReservedWords.Text
