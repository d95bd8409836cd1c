import ContentStore.Backend.FileTree
import ContentStore.Backend.Gateway

/-!
# Where the bytes are kept

The records never hold bytes. The backend is asked whether bytes are present at a path: a file
tree of its own, or a gateway in front of one.
-/

namespace ContentStore

/-- A keeper of bytes. -/
inductive Backend where
  | fileTree (root : String) (tree : FileTree)
  | gateway (gateway : Gateway)

namespace Backend

/-- Whether bytes are present at a path. -/
def holds : Backend → String → Except Refusal Bool
  | fileTree root tree, path => tree.holds root path
  | gateway g, path => g.holds path

/-- A short label for readiness reports. -/
def label : Backend → String
  | fileTree root _ => "local:" ++ root
  | gateway g => "http:" ++ g.base

end Backend
end ContentStore
