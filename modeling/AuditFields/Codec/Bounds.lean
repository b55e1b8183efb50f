/-
Inclusive bounds on numbers, lengths and counts.
-/
import AuditFields.Text.Digits

namespace AuditFields

/-- Inclusive bounds; either side may be open. -/
structure Bounds where
  min : Option Int
  max : Option Int
  deriving DecidableEq

namespace Bounds

def unbounded : Bounds := ⟨none, none⟩

def atLeast (min : Int) : Bounds := ⟨some min, none⟩

def atMost (max : Int) : Bounds := ⟨none, some max⟩

def between (min max : Int) : Bounds := ⟨some min, some max⟩

/-- Whether a number lies within the bounds. -/
def contains (bounds : Bounds) (n : Int) : Bool :=
  (bounds.min.all fun min => min ≤ n) && (bounds.max.all fun max => n ≤ max)

/-- The bounds in words. -/
def text (bounds : Bounds) (unit : String) : String :=
  match bounds.min, bounds.max with
  | some min, some max =>
      "between " ++ Text.decimalInt min ++ " and " ++ Text.decimalInt max ++ unit
  | some min, none => ">= " ++ Text.decimalInt min ++ unit
  | none, some max => "<= " ++ Text.decimalInt max ++ unit
  | none, none => "any value"

end Bounds

end AuditFields
