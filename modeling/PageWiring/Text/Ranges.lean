/-!
Sets of code points given as ranges, and the two compressed forms that case data takes.
-/
namespace PageWiring.Text

/-- Is `n` in one of the ranges, ends included? -/
def inRanges (ranges : List (Nat × Nat)) (n : Nat) : Bool :=
  ranges.any fun r => r.1 ≤ n && n ≤ r.2

/-- The code points `first, first + step, …, last`. -/
structure Stride where
  first : Nat
  last : Nat
  step : Nat
  deriving DecidableEq, Repr

def Stride.contains (s : Stride) (n : Nat) : Bool :=
  s.first ≤ n && n ≤ s.last && (n - s.first) % s.step == 0

def inStrides (strides : List Stride) (n : Nat) : Bool :=
  strides.any (·.contains n)

/-- Each code point of a stride is moved by the same distance. -/
structure Shift where
  first : Nat
  last : Nat
  step : Nat
  distance : Int
  deriving DecidableEq, Repr

def Shift.contains (s : Shift) (n : Nat) : Bool :=
  s.first ≤ n && n ≤ s.last && (n - s.first) % s.step == 0

/-- The image of `n`, which is `n` itself when no shift covers it. -/
def shifted (shifts : List Shift) (n : Nat) : Nat :=
  match shifts.find? (·.contains n) with
  | some s => (Int.ofNat n + s.distance).toNat
  | none => n

end PageWiring.Text
