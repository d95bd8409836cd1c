import ContentStore.Operation

/-!
# Quotas

An owner may write only while the total after the write stays within the plan. The total is
taken fresh from the rows, without those that the write replaces, and sums past 64 bits count as
the largest number of 64 bits.
-/

namespace ContentStore

/-- The sum of two integers, kept within 64 bits. -/
def saturatingAdd (a b : Int) : Int :=
  max Text.minInt64 (min Text.maxInt64 (a + b))

namespace Operation

/-- The owner's total once a record of `size` is written in place of those `excluding`. -/
def usageAfterWrite (owner : String) (excluding : List String) (size : Int) : Operation Int := do
  let current ← usage owner excluding
  return saturatingAdd current size

/-- The bytes an owner may keep: those of the plan, or else of the default plan. -/
def quota (owner : String) : Operation Int := do
  let plan ← plan owner
  let e ← surroundings
  return (plan.getD e.defaultPlan).quota

/-- Refuses a write that would take the owner past the quota. -/
def checkQuota (owner : String) (excluding : List String) (size : Int) : Operation Unit := do
  let usage ← usageAfterWrite owner excluding size
  let quota ← quota owner
  if usage > quota then refuse (.overQuota usage quota)

end Operation
end ContentStore
