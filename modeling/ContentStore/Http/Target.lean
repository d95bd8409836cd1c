import ContentStore.Text.Pieces

/-!
# Targets of requests

What a request is for: a path from the root and, behind a question mark, a query. What follows a
number sign is dropped. Only some characters of ASCII may stand unencoded; every other character
may. A whole URL is a target too, of which scheme and host do not count; a host by itself has no
path, and an asterisk is one of its own.
-/

namespace ContentStore.Http

/-- A path and, perhaps, a query, both as they were written. -/
structure Target where
  path : String
  query : Option String
  deriving DecidableEq, Repr

/-! ### Hosts -/

/-- What was read of a host: the colons and percent signs that could still spoil it, and whether
a bracket is open (`some true`) or was closed. -/
structure HostPart where
  colons : Nat
  hasPercent : Bool
  bracket : Option Bool
  deriving DecidableEq, Repr

namespace HostPart

/-- The colons after which a host is given up. -/
def maxColons : Nat := 8

/-- One more character of a host. An at sign and a closing bracket clear what stands before. -/
def next? (h : HostPart) (c : Char) : Option HostPart :=
  if c = ':' then
    if h.colons < maxColons then some { h with colons := h.colons + 1 } else none
  else if c = '%' then some { h with hasPercent := true }
  else if c = '@' then some ⟨0, false, h.bracket⟩
  else if c = '[' then
    if h.hasPercent || h.bracket.isSome then none else some { h with bracket := some true }
  else if c = ']' then if h.bracket = some true then some ⟨0, false, some false⟩ else none
  else if c.isAlphanum || "!$&'()*+,-.;=_~".toList.contains c then some h
  else none

/-- Whether a host may end here. -/
def isEnd (h : HostPart) : Bool :=
  h.colons ≤ 1 && !h.hasPercent && h.bracket ≠ some true

end HostPart

/-- Whether characters are a host, perhaps with a user before it and a port behind it. -/
def isHost (cs : List Char) : Bool :=
  match cs.foldlM HostPart.next? ⟨0, false, none⟩ with
  | some h => h.isEnd && cs ≠ [] && cs.getLast? ≠ some '@'
  | none => false

/-! ### Targets -/

namespace Target

/-- Whether a path may have the character. -/
def allowedInPath (c : Char) : Bool :=
  let n := c.toNat
  0x21 ≤ n && !(['#', '<', '>', '?', '\x60'].contains c)

/-- Whether a query may have the character. -/
def allowedInQuery (c : Char) : Bool :=
  let n := c.toNat
  0x21 ≤ n && n ≠ 0x7F && !(['"', '#', '<', '>'].contains c)

/-- Reads a path and a query; `root` is the path if there is none. -/
def ofPath? (root : String) (cs : List Char) : Option Target :=
  let (visible, _) := Text.cutAt (· = '#') cs
  let (path, query) := Text.cutAt (· = '?') visible
  if path.all allowedInPath ∧ (query.getD []).all allowedInQuery then
    some ⟨if path = [] then root else String.ofList path, query.map String.ofList⟩
  else none

/-- Whether a scheme may have the character. -/
def isSchemeChar (c : Char) : Bool :=
  c.isAlphanum || c = '+' || c = '-' || c = '.' || c = '~'

/-- The characters that a scheme may have. -/
def maxSchemeLength : Nat := 64

/-- What stands behind the scheme of a URL. -/
def afterScheme? (cs : List Char) : Option (List Char) :=
  let scheme := cs.takeWhile isSchemeChar
  match cs.dropWhile isSchemeChar with
  | ':' :: '/' :: '/' :: rest => if scheme.length ≤ maxSchemeLength then some rest else none
  | _ => none

/-- Whether the character ends the host of a URL. -/
def endsHost (c : Char) : Bool :=
  c = '/' || c = '?' || c = '#'

/-- Reads a URL, or a host by itself. -/
def ofUrl? (cs : List Char) : Option Target :=
  match afterScheme? cs with
  | none => if isHost cs then some ⟨"", none⟩ else none
  | some rest =>
    if isHost (rest.takeWhile fun c => !endsHost c) then
      ofPath? "/" (rest.dropWhile fun c => !endsHost c)
    else none

/-- The bytes that a target may have. -/
def maxBytes : Nat := 65534

/-- Reads a target. -/
def parse? (s : String) : Option Target :=
  let cs := s.toList
  if s.utf8ByteSize > maxBytes then none
  else if cs = ['*'] then some ⟨"*", none⟩
  else if cs.head? = some '/' then ofPath? "" cs
  else ofUrl? cs

/-- The segments of the path, between its slashes. -/
def segments (t : Target) : List String :=
  (Text.pieces (· = '/') (t.path.toList.drop 1)).map String.ofList

end Target
end ContentStore.Http
