/-!
# Sets and maps of code points

Unicode properties are kept as short lists of spans and strides.  A `Span` is
an unbroken run of code points; a `Stride` takes every first or every second
one, which is how scripts that alternate capital and small letters are laid
out.
-/

namespace VulkanBindings.Text.CodePoints

/-- The code points from `first` to `last`, both included. -/
structure Span where
  first : Nat
  last : Nat

namespace Span

/-- Whether `point` lies in the span. -/
def holds (span : Span) (point : Nat) : Bool :=
  span.first ≤ point && point ≤ span.last

end Span

/-- The code points `first`, `first + step`, and so on, up to `last`. -/
structure Stride where
  first : Nat
  last : Nat
  step : Nat

namespace Stride

/-- Whether `point` is one of the stride's code points. -/
def holds (stride : Stride) (point : Nat) : Bool :=
  stride.first ≤ point && point ≤ stride.last && (point - stride.first) % stride.step == 0

end Stride

/-- The code points of `points`, each moved by `distance`. -/
structure Shift where
  points : Stride
  distance : Int

namespace Shift

/-- Where the shift sends `point`, if it moves it at all. -/
def image? (shift : Shift) (point : Nat) : Option Nat :=
  if shift.points.holds point then some (point + shift.distance).toNat else none

end Shift

/-- Whether some span of the table holds `point`. -/
def inSpans (table : List Span) (point : Nat) : Bool :=
  table.any (·.holds point)

/-- Whether some stride of the table holds `point`. -/
def inStrides (table : List Stride) (point : Nat) : Bool :=
  table.any (·.holds point)

/-- Where the first shift that moves `point` sends it. -/
def shifted? (table : List Shift) (point : Nat) : Option Nat :=
  table.findSome? (·.image? point)

end VulkanBindings.Text.CodePoints
