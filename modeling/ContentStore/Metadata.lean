import ContentStore.Refusal
import ContentStore.Text.Blank
import ContentStore.Text.Integer

/-!
# Metadata

What a caller says about some content. The size comes in two forms, a number and a text, and
`normalizeSize` makes one size of them: a number other than zero counts before the text.
-/

namespace ContentStore

/-- What a caller says about some content; each part may be left out. -/
structure Metadata where
  objectName : Option String
  sizeText : Option String
  sizeNumber : Option Int
  mimeType : Option String
  deriving DecidableEq, Repr

/-- Nothing said. -/
def Metadata.empty : Metadata :=
  ⟨none, none, none, none⟩

/-- New metadata and, perhaps, new content. -/
structure Revision where
  metadata : Metadata
  newHash : Option String
  deriving DecidableEq, Repr

/-- A registration as it arrives. -/
structure Registration where
  hash : String
  metadata : Metadata
  autoLink : Bool
  deriving DecidableEq, Repr

/-- The size that a text gives; blanks around it do not count, and an empty text gives zero. -/
def sizeOfText (text : String) : Except Refusal Int :=
  let trimmed := Text.trim text
  if trimmed = "" then .ok 0
  else
    match Text.readInt64 trimmed with
    | .ok n => .ok n
    | .error _ => .error (.invalid s!"size `{trimmed}` is not an integer")

/-- The size that a number and a text give together, before its sign is looked at. -/
def givenSize (text : Option String) (number : Option Int) : Except Refusal Int :=
  if number.getD 0 ≠ 0 then .ok (number.getD 0)
  else
    match text with
    | none => .ok 0
    | some text => sizeOfText text

/-- The size that a number and a text give together; no size is negative. -/
def normalizeSize (text : Option String) (number : Option Int) : Except Refusal Int :=
  match givenSize text number with
  | .error refusal => .error refusal
  | .ok size =>
    if size < 0 then .error (.invalid s!"size must not be negative, got {size}") else .ok size

namespace Metadata

/-- The size that the metadata gives. -/
def size (m : Metadata) : Except Refusal Int :=
  normalizeSize m.sizeText m.sizeNumber

/-- Whether the metadata speaks of a size at all. -/
def givesSize (m : Metadata) : Bool :=
  m.sizeText.isSome || m.sizeNumber.isSome

end Metadata
end ContentStore
