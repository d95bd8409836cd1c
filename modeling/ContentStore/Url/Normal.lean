import ContentStore.Text.Pieces
import ContentStore.Url.Percent

/-!
# The target of a URL

What is asked of a server for a URL: the path and the query after normalisation. Tabs and line
ends vanish, a backslash counts as a slash, single and double points are resolved, characters
outside the plain ones are percent-encoded, and the fragment is not sent.
-/

namespace ContentStore.Url

/-- Whether a path encodes the character. -/
def encodedInPath (c : Char) : Bool :=
  c.toNat ≤ 0x20 || 0x7F ≤ c.toNat || ['"', '#', '<', '>', '?', '\x60', '\x7b', '\x7d'].contains c

/-- Whether a query encodes the character. -/
def encodedInQuery (c : Char) : Bool :=
  c.toNat ≤ 0x20 || 0x7F ≤ c.toNat || ['"', '#', '<', '>', '\''].contains c

/-- Whether a segment is a single point, perhaps encoded. -/
def isPoint (segment : List Char) : Bool :=
  let s := segment.map Char.toLower
  s = ['.'] || s = "%2e".toList

/-- Whether a segment is a double point, perhaps encoded. -/
def isDoublePoint (segment : List Char) : Bool :=
  let s := segment.map Char.toLower
  s = "..".toList || s = ".%2e".toList || s = "%2e.".toList || s = "%2e%2e".toList

/-- The segments left after points are resolved; `done` holds those before, last one first. -/
def resolvePoints (done : List (List Char)) : List (List Char) → List (List Char)
  | [] => done.reverse
  | [last] =>
    if isDoublePoint last then ([] :: done.tail).reverse
    else if isPoint last then ([] :: done).reverse
    else (last :: done).reverse
  | segment :: rest =>
    if isDoublePoint segment then resolvePoints done.tail rest
    else if isPoint segment then resolvePoints done rest
    else resolvePoints (segment :: done) rest

/-- The path of a request. `path` is empty or starts with a slash or a backslash. -/
def requestPath (path : List Char) : List Char :=
  let segments := Text.pieces (fun c => c = '/' || c = '\\') (path.drop 1)
  (resolvePoints [] segments).flatMap fun s => '/' :: percentEncode encodedInPath s

/-- Path and query of a request for what stands after the host of a URL. -/
def requestTarget (rest : List Char) : List Char :=
  let (visible, _) := Text.cutAt (· = '#') rest
  let (path, query?) := Text.cutAt (· = '?') visible
  requestPath path ++
    match query? with
    | none => []
    | some query => '?' :: percentEncode encodedInQuery query

/-- The URL without what reading it drops: blanks and controls at the end, tabs and line ends
anywhere. -/
def cleaned (url : List Char) : List Char :=
  (url.reverse.dropWhile (·.toNat ≤ 0x20)).reverse.filter
    fun c => c ≠ '\t' && c ≠ '\n' && c ≠ '\x0d'

/-- The target of a URL on the given site (scheme, host and port), if the URL leads there. -/
def targetOn? (site url : String) : Option String :=
  let cs := cleaned url.toList
  if site.toList.isPrefixOf cs then
    let rest := cs.drop site.length
    match rest with
    | [] => some (String.ofList (requestTarget rest))
    | c :: _ =>
      if c = '/' ∨ c = '\\' ∨ c = '?' ∨ c = '#' then some (String.ofList (requestTarget rest))
      else none
  else none

end ContentStore.Url
