import ContentStore.Text.Pieces

/-!
# Media types

Whether a content type says JSON: the type is `application`, and `json` is the subtype or what
stands behind its last plus sign. Parameters may follow, and a content type that is not well
formed says nothing.
-/

namespace ContentStore.Http.MediaType

/-- Whether a name may have the character. -/
def isToken (c : Char) : Bool :=
  c.isAlphanum || "!#$%&'*+-.^_\x60|~".toList.contains c

/-- Where reading stands among parameters. -/
inductive Place where
  | beforeName
  | name
  | beforeValue
  | value
  | beforeQuoted
  | quoted
  | afterQuoted
  deriving DecidableEq, Repr

/-- What the next character does. A quote right after an opening one is part of the value. -/
def Place.next? (c : Char) : Place → Option Place
  | beforeName =>
    if c = ' ' then some beforeName else if isToken c then some name else none
  | name =>
    if isToken c then some name else if c = '=' then some beforeValue else none
  | beforeValue =>
    if c = '"' then some beforeQuoted else if isToken c then some value else none
  | value =>
    if isToken c then some value else if c = ';' then some beforeName else none
  | beforeQuoted => if c.toNat < 32 then none else some quoted
  | quoted =>
    if c = '"' then some afterQuoted else if c.toNat < 32 then none else some quoted
  | afterQuoted =>
    if c = ' ' then some afterQuoted else if c = ';' then some beforeName else none

/-- Whether parameters may end here. -/
def Place.isEnd : Place → Bool
  | beforeName | beforeValue | value | afterQuoted => true
  | name | beforeQuoted | quoted => false

/-- Whether characters are parameters. -/
def areParameters (cs : List Char) : Bool :=
  match cs.foldlM (fun place c => Place.next? c place) Place.beforeName with
  | some place => place.isEnd
  | none => false

/-- Whether a subtype is `json` or ends in it, behind or before its last plus sign. -/
def isJsonSubtype (cs : List Char) : Bool :=
  let subtype := cs.map Char.toLower
  match Text.cutAt (· = '+') (subtype.drop 1).reverse with
  | (_, none) => subtype = "json".toList
  | (behind, some before) =>
    behind.reverse = "json".toList || subtype.take 1 ++ before.reverse = "json".toList

/-- Whether a content type says JSON. -/
def isJson (contentType : String) : Bool :=
  let (essence, parameters) := Text.cutAt (· = ';') contentType.toList
  match Text.cutAt (· = '/') essence with
  | (_, none) => false
  | (kind, some subtype) =>
    kind.map Char.toLower = "application".toList && subtype.all isToken &&
      isJsonSubtype subtype && areParameters (parameters.getD [])

end ContentStore.Http.MediaType
