/-!
# Media types

Whether a content type says that a body is JSON: `application/json`, or an `application`
type whose name ends in `+json`. Parameters may follow directly behind a semicolon, and must
be well formed.
-/

namespace RegisterGateway.Rest

/-- Whether a character may stand in a name. -/
def isTokenCharacter (character : Char) : Bool :=
  character.isAlphanum || "!#$%&'*+-.^_`|~".toList.contains character

/-- Whether a character may stand between quotes. -/
def isQuotedCharacter (character : Char) : Bool :=
  0x1F < character.toNat && character.toNat ≠ 0x7F

/-- What is expected in the parameters of a media type. -/
inductive ParameterState where
  | nameStart
  | name
  | valueStart
  | value
  | quotedStart
  | quoted
  | afterQuoted
  deriving DecidableEq

def ParameterState.step (state : ParameterState) (character : Char) : Option ParameterState :=
  match state with
  | .nameStart =>
      if character = ' ' then some .nameStart
      else if isTokenCharacter character then some .name else none
  | .name =>
      if isTokenCharacter character then some .name
      else if character = '=' then some .valueStart else none
  | .valueStart =>
      if character = '"' then some .quotedStart
      else if isTokenCharacter character then some .value else none
  | .value =>
      if isTokenCharacter character then some .value
      else if character = ';' then some .nameStart else none
  | .quotedStart => if isQuotedCharacter character then some .quoted else none
  | .quoted =>
      if character = '"' then some .afterQuoted
      else if isQuotedCharacter character then some .quoted else none
  | .afterQuoted =>
      if character = ';' then some .nameStart
      else if character = ' ' then some .afterQuoted else none

/-- Whether the parameters may end. -/
def ParameterState.isFinal : ParameterState → Bool
  | .nameStart | .valueStart | .value | .afterQuoted => true
  | .name | .quotedStart | .quoted => false

/-- Whether parameters are well formed. -/
def areParameters (text : List Char) : Bool :=
  (text.foldlM ParameterState.step .nameStart).any (·.isFinal)

/-- The parts of a type name around its last plus sign, the first character aside. -/
def splitSuffix (name : List Char) : List Char × Option (List Char) :=
  let suffix := (name.reverse.takeWhile (· ≠ '+')).reverse
  if suffix.length + 1 < name.length then (name.take (name.length - suffix.length - 1), some suffix)
  else (name, none)

def isJsonType (contentType : String) : Bool :=
  let text := contentType.toList.map Char.toLower
  let kind := text.takeWhile isTokenCharacter
  match text.drop kind.length with
  | '/' :: rest =>
    let name := rest.takeWhile isTokenCharacter
    let wellFormed := match rest.drop name.length with
      | [] => true
      | separator :: parameters =>
        !name.isEmpty && separator == ';' && areParameters parameters
    let (subtype, suffix) := splitSuffix name
    wellFormed && String.ofList kind = "application" &&
      (String.ofList subtype = "json" || suffix.map String.ofList = some "json")
  | _ => false

end RegisterGateway.Rest
