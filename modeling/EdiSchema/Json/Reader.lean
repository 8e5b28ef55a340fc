import EdiSchema.Json.Token

/-!
# Reading JSON

The reader puts the tokens of a text together over a stack of arrays and objects that are still
open. Values may be nested 127 deep, strings must be whole and numbers must have a value.

A reader of records looks only at some members of an object. Values at places that nobody reads
are merely skimmed: they have to be well-formed, but their depth, strings and numbers are free,
and they come out as `null`.
-/

namespace EdiSchema.Json

/-- One step from a value to a value inside it. -/
inductive Step where
  | item
  | member (key : String)
  deriving DecidableEq

/-- An array or object that is still open, its parts in reverse, and for an object the key of
the value being read. -/
inductive Frame where
  | array (items : List Json)
  | object (members : List (String × Json)) (key : String)

/-- The step that leads from an open value to the value being read in it. -/
def Frame.step : Frame → Step
  | .array _ => .item
  | .object _ key => .member key

/-- What may stand next: a value, a value or the end of the array just opened, a key, a key or
the end of the object just opened, a colon, a comma or the end of what is open, or nothing. -/
inductive Expect where
  | value
  | itemOrClose
  | key
  | keyOrClose
  | colon
  | commaOrClose
  | finished (value : Json)

/-- A JSON text as far as it has been read: the open values, innermost first, and what may stand
next. -/
structure Reading where
  opened : List Frame
  expect : Expect

/-- The number of values that may be open at once. -/
def depthLimit : Nat := 127

namespace Reading

/-- Whether the value that stands next is skimmed, given which places are read. -/
def skims (isRead : List Step → Bool) (r : Reading) : Bool :=
  !isRead (r.opened.reverse.map Frame.step)

/-- A complete value at the place being read. -/
def push (r : Reading) (value : Json) : Reading :=
  match r.opened with
  | [] => ⟨[], .finished value⟩
  | .array items :: rest => ⟨.array (value :: items) :: rest, .commaOrClose⟩
  | .object members key :: rest => ⟨.object ((key, value) :: members) key :: rest, .commaOrClose⟩

/-- A scalar at a place where a value may stand. -/
def pushScalar (isRead : List Step → Bool) (r : Reading) (value : Option Json) : Option Reading :=
  if r.skims isRead then some (r.push .null)
  else value.map r.push

/-- An array or object that opens at a place where a value may stand. -/
def enter (isRead : List Step → Bool) (r : Reading) (frame : Frame) (expect : Expect) :
    Option Reading :=
  if r.opened.length < depthLimit || r.skims isRead then some ⟨frame :: r.opened, expect⟩ else none

/-- The innermost open value is complete. -/
def leave (isRead : List Step → Bool) (r : Reading) (value : Json) : Reading :=
  let outer : Reading := ⟨r.opened.tail, .value⟩
  outer.push (if outer.skims isRead then .null else value)

/-- A token where a value may stand. -/
def readValue (isRead : List Step → Bool) (r : Reading) : Token → Option Reading
  | .word value => r.pushScalar isRead (some value)
  | .number value => r.pushScalar isRead (value.map .number)
  | .text value => r.pushScalar isRead (value.map .text)
  | .openArray => r.enter isRead (.array []) .itemOrClose
  | .openObject => r.enter isRead (.object [] "") .keyOrClose
  | _ => none

/-- A token where the key of a member may stand. -/
def readKey (isRead : List Step → Bool) (r : Reading) (token : Token) : Option Reading :=
  match r.opened, token with
  | .object members _ :: rest, .text key =>
    let skimmed := !isRead (rest.reverse.map Frame.step)
    match key, skimmed with
    | some key, _ => some ⟨.object members key :: rest, .colon⟩
    | none, true => some ⟨.object members "" :: rest, .colon⟩
    | none, false => none
  | _, _ => none

/-- A token that closes the innermost open value. -/
def readClose (isRead : List Step → Bool) (r : Reading) (token : Token) : Option Reading :=
  match r.opened, token with
  | .array items :: _, .closeArray => some (r.leave isRead (.array items.reverse))
  | .object members _ :: _, .closeObject => some (r.leave isRead (.object members.reverse))
  | _, _ => none

/-- One token of a JSON text. -/
def read (isRead : List Step → Bool) (r : Reading) (token : Token) : Option Reading :=
  match r.expect, token with
  | .value, token => r.readValue isRead token
  | .itemOrClose, .closeArray => r.readClose isRead .closeArray
  | .itemOrClose, token => r.readValue isRead token
  | .key, token => r.readKey isRead token
  | .keyOrClose, .closeObject => r.readClose isRead .closeObject
  | .keyOrClose, token => r.readKey isRead token
  | .colon, .colon => some ⟨r.opened, .value⟩
  | .colon, _ => none
  | .commaOrClose, .comma =>
    match r.opened with
    | .array _ :: _ => some ⟨r.opened, .value⟩
    | .object _ _ :: _ => some ⟨r.opened, .key⟩
    | [] => none
  | .commaOrClose, token => r.readClose isRead token
  | .finished _, _ => none

/-- The value of a text that has been read to its end. -/
def result? (r : Reading) : Option Json :=
  match r.expect with
  | .finished value => some value
  | _ => none

end Reading

/-- The value of a list of tokens, of which only the places given are read. -/
def ofTokens? (isRead : List Step → Bool) (tokens : List Token) : Option Json :=
  (tokens.foldlM (Reading.read isRead) ⟨[], .value⟩).bind Reading.result?

/-- The value of a text, of which only the places given are read. -/
def skim? (isRead : List Step → Bool) (text : String) : Option Json :=
  (tokens? text.toList).bind (ofTokens? isRead)

/-- The value of a text that is valid throughout. -/
def parse? (text : String) : Option Json :=
  skim? (fun _ => true) text

end EdiSchema.Json
