/-!
Colours of terminal output.
-/
namespace PageWiring

inductive Colour where
  | red | green | yellow | blue | cyan
  deriving DecidableEq, Repr

def Colour.code : Colour → String
  | .red => "31"
  | .green => "32"
  | .yellow => "33"
  | .blue => "34"
  | .cyan => "36"

structure Style where
  isBold : Bool := false
  isDimmed : Bool := false
  colour : Option Colour := none
  deriving DecidableEq, Repr

namespace Style

def bold : Style := { isBold := true }

def dimmed : Style := { isDimmed := true }

def plain (c : Colour) : Style := { colour := some c }

def strong (c : Colour) : Style := { isBold := true, colour := some c }

def codes (s : Style) : List String :=
  (if s.isBold then ["1"] else []) ++ (if s.isDimmed then ["2"] else []) ++
    (s.colour.map (·.code)).toList

/-- Writes a text in a style, where styles are in use. -/
def paint (s : Style) (inUse : Bool) (text : String) : String :=
  if inUse then "\x1b[" ++ ";".intercalate s.codes ++ "m" ++ text ++ "\x1b[0m" else text

end Style

end PageWiring
