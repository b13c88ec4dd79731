/-! Sets of code points as ranges, each given by its first and its last member. -/
namespace PlanQuota

def inRanges (ranges : List (Nat × Nat)) (n : Nat) : Bool :=
  ranges.any fun r => r.1 ≤ n && n ≤ r.2

/-- Ranges with a third number, by which their members lie apart. -/
def inSteps (ranges : List (Nat × Nat × Nat)) (n : Nat) : Bool :=
  ranges.any fun r => r.1 ≤ n && n ≤ r.2.1 && (n - r.1) % r.2.2 = 0

example : inRanges [(2, 4)] 4 = true ∧ inRanges [(2, 4)] 5 = false := by decide
example : inSteps [(2, 6, 2)] 4 = true ∧ inSteps [(2, 6, 2)] 5 = false := by decide

end PlanQuota
