/-!
# Plans

How many bytes an owner may keep registered.
-/

namespace ContentStore

/-- A named allowance in bytes. -/
structure Plan where
  name : String
  quota : Int
  deriving DecidableEq, Repr

end ContentStore
