import ClusterMdns.Json
import ClusterMdns.Json.Token

/-!
Reading a JSON value off its tokens. The reader takes one token at a time and keeps the arrays and
objects that are still open on a stack.
-/

namespace ClusterMdns.Json

/-- An array or object that is still open. What it holds so far is in reverse. -/
inductive Open where
  | array (items : List Json)
  /-- An object, with the key of the member being read. A garbled key is missing. -/
  | object (members : List (Option String × Json)) (key : Option String)

/-- What the reader takes next. -/
inductive Awaiting where
  | value
  | valueOrEnd
  | keyOrEnd
  | key (members : List (Option String × Json))
  | colon
  /-- A comma, or the end of the innermost open value. -/
  | commaOrEnd
  /-- Nothing more: the value is complete. -/
  | nothing (value : Json)

/-- A reader: what is open, innermost first, and what is taken next. -/
structure Reader where
  stack : List Open
  awaiting : Awaiting

namespace Reader

def start : Reader := ⟨[], .value⟩

/-- An object with members; one with a garbled key is garbled. -/
def objectOf (members : List (Option String × Json)) : Json :=
  match members.mapM fun member => member.1.map fun key => (key, member.2) with
  | some members => .object members
  | none => .garbled

/-- The reader after a complete value. -/
def place (stack : List Open) (value : Json) : Reader :=
  match stack with
  | [] => ⟨[], .nothing value⟩
  | .array items :: outer => ⟨.array (value :: items) :: outer, .commaOrEnd⟩
  | .object members key :: outer => ⟨.object ((key, value) :: members) key :: outer, .commaOrEnd⟩

/-- The reader after a token where a value may begin. -/
def takeValue? (stack : List Open) : Token → Option Reader
  | .null => some (place stack .null)
  | .bool value => some (place stack (.bool value))
  | .integer value => some (place stack (.integer value))
  | .decimal mantissa exponent => some (place stack (.decimal mantissa exponent))
  | .string (some text) => some (place stack (.string text))
  | .string none => some (place stack .garbled)
  | .openArray => some ⟨.array [] :: stack, .valueOrEnd⟩
  | .openObject => some ⟨.object [] none :: stack, .keyOrEnd⟩
  | _ => none

/-- The reader after one more token. -/
def take? (reader : Reader) (token : Token) : Option Reader :=
  match reader.awaiting, token, reader.stack with
  | .value, token, stack => takeValue? stack token
  | .valueOrEnd, .closeArray, .array items :: outer => some (place outer (.array items.reverse))
  | .valueOrEnd, token, stack => takeValue? stack token
  | .keyOrEnd, .closeObject, .object members _ :: outer =>
    some (place outer (objectOf members.reverse))
  | .keyOrEnd, .string key, .object members _ :: outer =>
    some ⟨.object members key :: outer, .colon⟩
  | .key members, .string key, .object _ _ :: outer => some ⟨.object members key :: outer, .colon⟩
  | .colon, .colon, stack => some ⟨stack, .value⟩
  | .commaOrEnd, .comma, .array items :: outer => some ⟨.array items :: outer, .value⟩
  | .commaOrEnd, .comma, .object members key :: outer =>
    some ⟨.object members key :: outer, .key members⟩
  | .commaOrEnd, .closeArray, .array items :: outer => some (place outer (.array items.reverse))
  | .commaOrEnd, .closeObject, .object members _ :: outer =>
    some (place outer (objectOf members.reverse))
  | _, _, _ => none

def value? (reader : Reader) : Option Json :=
  match reader.awaiting with
  | .nothing value => some value
  | _ => none

end Reader

/-- The value that tokens write. -/
def ofTokens? (tokens : List Token) : Option Json := do
  (← tokens.foldlM Reader.take? Reader.start).value?

/-- The value that a text writes, garbled parts included; nothing if it is not strict JSON. -/
def readGarbled? (text : String) : Option Json := do
  ofTokens? (← tokens? text.toList)

/-- How deep arrays and objects may nest where all of them are read. -/
def depthLimit : Nat := 127

/-- Whether arrays and objects nest no deeper than a limit, given how many are open. -/
def nestsWithin (limit : Nat) : Nat → List Token → Bool
  | _, [] => true
  | depth, .openArray :: rest | depth, .openObject :: rest =>
    decide (depth < limit) && nestsWithin limit (depth + 1) rest
  | depth, .closeArray :: rest | depth, .closeObject :: rest => nestsWithin limit (depth - 1) rest
  | depth, _ :: rest => nestsWithin limit depth rest

/-- The value that a text writes; nothing if it is not strict JSON, nests too deep or holds a token
that nothing can be made of. -/
def read? (text : String) : Option Json := do
  let tokens ← tokens? text.toList
  if tokens.all Token.isIntact && nestsWithin depthLimit 0 tokens then ofTokens? tokens else none

end ClusterMdns.Json
