/-!
# Requests and responses

What the HTTP interface sees of a request, and what it answers. Header names are compared
without regard to case, and of several headers of one name the first one counts.
-/

namespace RegisterGateway.Rest

/-- The path of a request and the query behind its question mark. -/
structure Target where
  path : String
  query : String
  deriving DecidableEq, Repr

namespace Target

def isSchemeCharacter (character : Char) : Bool :=
  character.isAlphanum || "+-.~".toList.contains character

/-- What follows the scheme and the authority of a text that has both. -/
def afterAuthority? (text : List Char) : Option (List Char) :=
  match text.dropWhile isSchemeCharacter with
  | ':' :: '/' :: '/' :: rest =>
      some (rest.dropWhile (fun character => character != '/' && character != '?'))
  | _ => none

/-- Splits a path from the query behind it. -/
def ofChars (text : List Char) : Target :=
  ⟨String.ofList (text.takeWhile (· ≠ '?')), String.ofList ((text.dropWhile (· ≠ '?')).drop 1)⟩

/-- Splits a target as it is written. A fragment does not count, nor do a scheme and an
authority in front of a path, which is then the root if it is not written. -/
def ofText (text : String) : Target :=
  let sent := text.toList.takeWhile (· ≠ '#')
  match afterAuthority? sent with
  | none => ofChars sent
  | some rest =>
    let target := ofChars rest
    if target.path.isEmpty then { target with path := "/" } else target

end Target

/-- A request. -/
structure Request where
  method : String
  target : Target
  headers : List (String × String) := []
  body : List UInt8 := []
  deriving DecidableEq, Repr

/-- The first header of a name, given in small letters. -/
def Request.header? (request : Request) (name : String) : Option String :=
  (request.headers.find? (fun header =>
    String.ofList (header.1.toList.map Char.toLower) = name)).map Prod.snd

/-- Whether a header value can be read as text: visible ASCII, spaces and tabs. -/
def isVisible (value : String) : Bool :=
  value.toList.all (fun character =>
    character == '\t' || (0x20 ≤ character.toNat && character.toNat < 0x7F))

/-- The first header of a name, if its value can be read as text. -/
def Request.textHeader? (request : Request) (name : String) : Option String :=
  (request.header? name).filter isVisible

/-- A response: its status, whether its body is declared as JSON, the methods that it tells to
be allowed, and its body. -/
structure Response where
  status : Nat
  isJson : Bool
  allow : Option String := none
  body : List UInt8 := []
  deriving DecidableEq, Repr

namespace Response

/-- A response with neither body nor content type. -/
def empty (status : Nat) : Response :=
  ⟨status, false, none, []⟩

/-- The response without its body, as it answers a request for the headers alone. -/
def withoutBody (response : Response) : Response :=
  { response with body := [] }

end Response

end RegisterGateway.Rest
