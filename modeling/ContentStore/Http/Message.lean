import ContentStore.Http.Router

/-!
# Messages on a stream

A request as it stands on a stream of text: a line with method and target, lines with headers, an
empty line, and as many bytes of body as a header says. A response is written in the same way.
-/

namespace ContentStore.Http

/-- A line without the end of the line. -/
def bareLine (line : String) : String :=
  Text.dropAtEnd '\x0d' (Text.dropAtEnd '\n' line)

/-- The words of a line, between blanks. -/
def words (line : String) : List String :=
  ((Text.pieces (· = ' ') line.toList).filter (· ≠ [])).map String.ofList

/-- Method and target of a first line. -/
def requestLine? (line : String) : Option (String × Target) :=
  match words line with
  | method :: uri :: _ => (Target.parse? uri).map fun target => (method, target)
  | _ => none

/-- Name and value of a header line. -/
def headerLine? (line : String) : Option (String × String) :=
  match Text.cutAt (· = ':') line.toList with
  | (_, none) => none
  | (name, some value) => some (String.ofList name, String.ofList (Text.trimChars value))

/-- The bytes of body that the headers announce. -/
def Headers.bodyLength (headers : Headers) : Nat :=
  ((headers.first? "content-length").bind readCount).getD 0

/-- A response as text. -/
def Response.text (r : Response) (withBody : Bool) : String :=
  let body := ((r.json?.filter fun _ => withBody).map Json.text).getD ""
  let phrase := Gateway.reason r.status
  let kind := (r.contentType?.map fun t => "content-type: " ++ t ++ "\x0d\n").getD ""
  s!"HTTP/1.1 {r.status} {phrase}\x0d\n" ++ kind ++
    s!"content-length: {body.utf8ByteSize}\x0d\n\x0d\n" ++ body

end ContentStore.Http
