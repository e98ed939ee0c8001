import RegisterGateway.Json.Token
import RegisterGateway.Text.Numeral

/-!
# JSON values

A value is put together token by token: `State` says what may come next and which arrays
and objects are still open, `step` takes one token, and `read?` goes on until a value is
complete and nothing is open. `Value.tokens` is the way back, and `Value.write` spells the
tokens out.
-/

namespace RegisterGateway.Json

/-- A JSON value. Texts and names without content are those whose spelling denotes no
Unicode text; `decimal` stands for every number that is not written as an integer. -/
inductive Value where
  | null
  | bool (value : Bool)
  | integer (value : Int)
  | decimal
  | text (content : Option String)
  | array (elements : List Value)
  | object (members : List (Option String × Value))
  deriving Repr

def Value.string (content : String) : Value :=
  .text (some content)

/-- A natural number. -/
def Value.nat (value : Nat) : Value :=
  .integer value

/-- An object of named members. -/
def Value.record (members : List (String × Value)) : Value :=
  .object (members.map fun member => (some member.1, member.2))

/-- An array or object that is still open, with what it holds so far in reverse. -/
inductive Open where
  | array (reversed : List Value)
  | object (reversed : List (Option String × Value)) (name : Option String)

/-- What may come next, inside which open arrays and objects. -/
inductive State where
  | wantsValue (stack : List Open)
  | wantsElementOrClose (stack : List Open)
  | wantsNameOrClose (stack : List Open)
  | wantsName (reversed : List (Option String × Value)) (stack : List Open)
  | wantsColon (reversed : List (Option String × Value)) (name : Option String)
      (stack : List Open)
  | complete (value : Value) (stack : List Open)

/-- A token that begins a value. -/
def State.start (stack : List Open) : Token → Option State
  | .null => some (.complete .null stack)
  | .bool value => some (.complete (.bool value) stack)
  | .integer value => some (.complete (.integer value) stack)
  | .decimal => some (.complete .decimal stack)
  | .text content => some (.complete (.text content) stack)
  | .openArray => some (.wantsElementOrClose stack)
  | .openObject => some (.wantsNameOrClose stack)
  | _ => none

def State.step (state : State) (token : Token) : Option State :=
  match state with
  | .wantsValue stack => start stack token
  | .wantsElementOrClose stack =>
      if token = .closeArray then some (.complete (.array []) stack)
      else start (.array [] :: stack) token
  | .wantsNameOrClose stack =>
      match token with
      | .closeObject => some (.complete (.object []) stack)
      | .text name => some (.wantsColon [] name stack)
      | _ => none
  | .wantsName reversed stack =>
      match token with
      | .text name => some (.wantsColon reversed name stack)
      | _ => none
  | .wantsColon reversed name stack =>
      if token = .colon then some (.wantsValue (.object reversed name :: stack)) else none
  | .complete value (.array reversed :: stack) =>
      match token with
      | .comma => some (.wantsValue (.array (value :: reversed) :: stack))
      | .closeArray => some (.complete (.array (value :: reversed).reverse) stack)
      | _ => none
  | .complete value (.object reversed name :: stack) =>
      match token with
      | .comma => some (.wantsName ((name, value) :: reversed) stack)
      | .closeObject => some (.complete (.object ((name, value) :: reversed).reverse) stack)
      | _ => none
  | .complete _ [] => none

/-- Reads tokens from some bytes until a value is complete and nothing is open any more, and
leaves the bytes after it. -/
def State.read? (state : State) (bytes : List UInt8) : Option (Value × List UInt8) :=
  match state, bytes with
  | .complete value [], bytes => some (value, bytes)
  | _, [] => none
  | state, byte :: rest =>
    if isBlankByte byte then state.read? rest
    else match found : token? byte rest with
      | none => none
      | some (token, after) =>
        have : after.length < rest.length + 1 := Nat.lt_succ_of_le (length_of_token? found)
        match state.step token with
        | none => none
        | some next => next.read? after
termination_by bytes.length

/-- Takes a value off the front of some bytes. -/
def Value.read? (bytes : List UInt8) : Option (Value × List UInt8) :=
  (State.wantsValue []).read? bytes

/-- The value that the bytes of a text denote; only white space may follow it. -/
def Value.ofBytes? (bytes : List UInt8) : Option Value :=
  match Value.read? bytes with
  | some (value, rest) => if rest.all isBlankByte then some value else none
  | none => none

mutual

def Value.tokens : Value → List Token
  | .null => [.null]
  | .bool value => [.bool value]
  | .integer value => [.integer value]
  | .decimal => [.decimal]
  | .text content => [.text content]
  | .array [] => [.openArray, .closeArray]
  | .array (first :: rest) =>
      .openArray :: first.tokens ++ Value.elementTokens rest ++ [.closeArray]
  | .object [] => [.openObject, .closeObject]
  | .object ((name, first) :: rest) =>
      .openObject :: .text name :: .colon :: first.tokens ++ Value.memberTokens rest ++
        [.closeObject]

/-- The tokens of the elements after the first one. -/
def Value.elementTokens : List Value → List Token
  | [] => []
  | value :: rest => .comma :: value.tokens ++ Value.elementTokens rest

/-- The tokens of the members after the first one. -/
def Value.memberTokens : List (Option String × Value) → List Token
  | [] => []
  | (name, value) :: rest =>
      .comma :: .text name :: .colon :: value.tokens ++ Value.memberTokens rest

end

/-- The character of a hexadecimal digit. -/
def hexByte (value : Nat) : UInt8 :=
  if value < 10 then UInt8.ofNat (48 + value) else UInt8.ofNat (87 + value)

/-- How a byte of a text stands between the quotes. -/
def writeByte (byte : UInt8) : List UInt8 :=
  if byte == 0x22 then bytesOf "\\\""
  else if byte == 0x5C then bytesOf "\\\\"
  else if byte == 0x08 then bytesOf "\\b"
  else if byte == 0x0C then bytesOf "\\f"
  else if byte == 0x0A then bytesOf "\\n"
  else if byte == 0x0D then bytesOf "\\r"
  else if byte == 0x09 then bytesOf "\\t"
  else if byte < 0x20 then
    bytesOf "\\u00" ++ [hexByte (byte.toNat / 16), hexByte (byte.toNat % 16)]
  else [byte]

/-- The spelling of a token. What has no content is spelled by a lone surrogate, and a number
that is no integer by a fraction. -/
def Token.write : Token → List UInt8
  | .openArray => bytesOf "["
  | .closeArray => bytesOf "]"
  | .openObject => bytesOf "\x7b"
  | .closeObject => bytesOf "\x7d"
  | .comma => bytesOf ","
  | .colon => bytesOf ":"
  | .null => bytesOf "null"
  | .bool true => bytesOf "true"
  | .bool false => bytesOf "false"
  | .integer (.ofNat value) => bytesOf (Text.decimal value)
  | .integer (.negSucc value) => bytesOf "-" ++ bytesOf (Text.decimal (value + 1))
  | .decimal => bytesOf "0.0"
  | .text (some content) => bytesOf "\"" ++ (bytesOf content).flatMap writeByte ++ bytesOf "\""
  | .text none => bytesOf "\"\\ud800\""

/-- The bytes of a value without white space. -/
def Value.write (value : Value) : List UInt8 :=
  value.tokens.flatMap Token.write

end RegisterGateway.Json
