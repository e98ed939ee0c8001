import RegisterGateway.Document.Scalar
import RegisterGateway.Document.Tag

/-!
# Tokens of a document

Indentation and the brackets of flow collections become tokens of their own. A mapping key
may be introduced by nothing but the colon after it, so every token that could turn out to
be one is remembered as a candidate; when its colon comes, the key token is put in front of
it. A candidate is good for the rest of its line and for 1024 bytes, and one that stands
where only a key can stand must find its colon.

A document that cannot be split into tokens up to its end yields the tokens before the fault,
except those from the first open candidate on: what they mean was still open.
-/

namespace RegisterGateway.Document

/-- A token of a document. -/
inductive Token where
  | version (major minor : Nat)
  | tagHandle (handle : String) (denoted : List UInt8)
  | documentStart
  | documentEnd
  | blockSequence
  | blockMapping
  | blockEnd
  | openSequence
  | closeSequence
  | openMapping
  | closeMapping
  | entry
  | separator
  | key
  | value
  | alias (name : String)
  | anchor (name : String)
  | tag (handle : String) (suffix : List UInt8)
  | scalar (style : Style) (text : String)
  | streamEnd
  deriving DecidableEq, Repr

/-! ## Directives and names -/

/-- A number of at most nine digits at the front of a text. -/
def versionNumber? (text : List Char) : Option (Nat × List Char) :=
  let digits := text.takeWhile Char.isDigit
  if digits.isEmpty || 9 < digits.length then none
  else
    let value := digits.foldl (fun value digit => 10 * value + (digit.toNat - 48)) 0
    some (value, text.drop digits.length)

/-- Reads the line of a directive, after its percent sign. -/
def directive? (line : List Char) : Option Token := do
  let name := line.takeWhile isNameCharacter
  let rest := line.drop name.length
  if name.isEmpty || !startsSeparated rest then none
  let rest := rest.dropWhile isSpacing
  match String.ofList name with
  | "YAML" =>
    let (major, rest) ← versionNumber? rest
    match rest with
    | '.' :: rest =>
      let (minor, rest) ← versionNumber? rest
      if isLineRemnant rest then pure (.version major minor) else none
    | _ => none
  | "TAG" =>
    let handle ← match namedHandle? rest, rest with
      | some handle, _ => some handle
      | none, '!' :: after => if after.head?.any isNameCharacter then none else some ['!']
      | none, _ => none
    let rest := rest.drop handle.length
    if !rest.head?.any isSpacing then none
    let rest := rest.dropWhile isSpacing
    let written := rest.takeWhile (isTagCharacter true)
    let denoted ← tagBytes? written
    let rest := rest.drop written.length
    if written.isEmpty || !startsSeparated rest || !isLineRemnant rest then none
    pure (.tagHandle (String.ofList handle) denoted)
  | _ => none

/-- Reads the name of an anchor or an alias, after its sign. -/
def anchorName? (text : List Char) : Option (List Char) :=
  let name := text.takeWhile isNameCharacter
  let rest := text.drop name.length
  if name.isEmpty then none
  else if startsSeparated rest || rest.head?.any "?:,]\x7d%@`".toList.contains then some name
  else none

/-! ## The scanner -/

/-- A token that may turn out to be a key: its number and position, and whether it must. -/
structure Candidate where
  number : Nat
  position : Position
  required : Bool
  deriving DecidableEq, Repr

/-- What is known when some characters have been split into tokens. Tokens are in reverse and
counted; `indent` is the indentation of the current block collection, `outer` are those of
the collections around it; `outerCandidates` has an entry for every open flow collection.
`isCut` says that more characters were to come than can be read. -/
structure Scanner where
  isCut : Bool := false
  position : Position := {}
  reversed : List Token := []
  count : Nat := 0
  indent : Int := -1
  outer : List Int := []
  candidate : Option Candidate := none
  outerCandidates : List (Option Candidate) := []
  keyAllowed : Bool := true

namespace Scanner

/-- Whether a flow collection is open. -/
def inFlow (scanner : Scanner) : Bool :=
  !scanner.outerCandidates.isEmpty

def emit (scanner : Scanner) (token : Token) : Scanner :=
  { scanner with reversed := token :: scanner.reversed, count := scanner.count + 1 }

def emitAt (scanner : Scanner) (number : Nat) (token : Token) : Scanner :=
  { scanner with
    reversed := scanner.reversed.insertIdx (scanner.count - number) token
    count := scanner.count + 1 }

/-- What a candidate is worth at a later position: nothing on another line or too far away,
which a required one may not be. -/
def refresh? (position : Position) : Option Candidate → Option (Option Candidate)
  | none => some none
  | some candidate =>
    if candidate.position.line < position.line ∨
        candidate.position.offset + 1024 < position.offset then
      if candidate.required then none else some none
    else some (some candidate)

/-- Drops the candidates that are worth nothing any more. -/
def refreshed? (scanner : Scanner) : Option Scanner := do
  let candidate ← refresh? scanner.position scanner.candidate
  let outerCandidates ← scanner.outerCandidates.mapM (refresh? scanner.position)
  pure { scanner with candidate, outerCandidates }

/-- Gives up the current candidate, which may not be a required one. -/
def withoutCandidate? (scanner : Scanner) : Option Scanner :=
  if scanner.candidate.any (·.required) then none else some { scanner with candidate := none }

/-- Makes the next token a candidate, where keys are allowed. -/
def nominate? (scanner : Scanner) : Option Scanner :=
  if scanner.keyAllowed then do
    let scanner ← scanner.withoutCandidate?
    let required := !scanner.inFlow && scanner.indent == scanner.position.column
    pure { scanner with candidate := some ⟨scanner.count, scanner.position, required⟩ }
  else some scanner

/-- Closes the block collections that are indented more than a column. -/
def unindent (column : Int) (scanner : Scanner) : Scanner :=
  if scanner.inFlow then scanner
  else
    let levels := scanner.indent :: scanner.outer
    let closed := levels.takeWhile (fun level => column < level)
    let left := levels.drop closed.length
    { scanner with
      reversed := List.replicate closed.length .blockEnd ++ scanner.reversed
      count := scanner.count + closed.length
      indent := left.headD (-1)
      outer := left.tail }

/-- Opens a block collection at a column if it is indented more than the current one; the
opening token goes in front of the token with a number, or last. -/
def indentAt (scanner : Scanner) (column : Nat) (number : Option Nat) (token : Token) : Scanner :=
  if scanner.inFlow ∨ column ≤ scanner.indent then scanner
  else
    let deeper := { scanner with indent := column, outer := scanner.indent :: scanner.outer }
    match number with
    | some number => deeper.emitAt number token
    | none => deeper.emit token

/-- Emits a token of some ASCII characters on the current line. -/
def emitSkipping (scanner : Scanner) (token : Token) (length : Nat) : Scanner :=
  { scanner.emit token with position := scanner.position.skip length }

/-- Whether keys are allowed after what comes next. -/
def allowKeys (scanner : Scanner) (allowed : Bool) : Scanner :=
  { scanner with keyAllowed := allowed }

/-- A directive, which takes up its line. -/
def readDirective? (scanner : Scanner) (text : List Char) : Option Scanner := do
  let scanner ← (scanner.unindent (-1)).withoutCandidate?
  let line := text.takeWhile (fun character => !isBreak character)
  let token ← directive? line.tail
  let passed := { scanner.emit token with position := scanner.position.passAll line }
  pure (passed.allowKeys false)

def readMarker? (scanner : Scanner) (token : Token) : Option Scanner := do
  let scanner ← (scanner.unindent (-1)).withoutCandidate?
  pure ((scanner.emitSkipping token 3).allowKeys false)

/-- The start of a flow collection. -/
def readOpening? (scanner : Scanner) (token : Token) : Option Scanner := do
  let scanner ← scanner.nominate?
  let opened := { scanner with
    candidate := none
    outerCandidates := scanner.candidate :: scanner.outerCandidates }
  pure ((opened.emitSkipping token 1).allowKeys true)

/-- The end of a flow collection. -/
def readClosing? (scanner : Scanner) (token : Token) : Option Scanner := do
  let scanner ← scanner.withoutCandidate?
  let closed := match scanner.outerCandidates with
    | candidate :: outer => { scanner with candidate, outerCandidates := outer }
    | [] => scanner
  pure ((closed.emitSkipping token 1).allowKeys false)

/-- A comma between the entries of a flow collection. -/
def readSeparator? (scanner : Scanner) : Option Scanner := do
  let scanner ← scanner.withoutCandidate?
  pure ((scanner.emitSkipping .separator 1).allowKeys true)

/-- The dash of a block sequence. -/
def readEntry? (scanner : Scanner) : Option Scanner := do
  if !scanner.inFlow && !scanner.keyAllowed then none
  let scanner := scanner.indentAt scanner.position.column none .blockSequence
  let scanner ← scanner.withoutCandidate?
  pure ((scanner.emitSkipping .entry 1).allowKeys true)

/-- The question mark of a key. -/
def readKey? (scanner : Scanner) : Option Scanner := do
  if !scanner.inFlow && !scanner.keyAllowed then none
  let scanner := scanner.indentAt scanner.position.column none .blockMapping
  let scanner ← scanner.withoutCandidate?
  pure ((scanner.emitSkipping .key 1).allowKeys !scanner.inFlow)

/-- The colon of a value; it makes the current candidate a key. -/
def readValue? (scanner : Scanner) : Option Scanner :=
  match scanner.candidate with
  | some candidate =>
    let keyed := (scanner.emitAt candidate.number .key).indentAt candidate.position.column
      (some candidate.number) .blockMapping
    some (({ keyed with candidate := none }.emitSkipping .value 1).allowKeys false)
  | none =>
    if !scanner.inFlow && !scanner.keyAllowed then none
    else
      let scanner := scanner.indentAt scanner.position.column none .blockMapping
      some ((scanner.emitSkipping .value 1).allowKeys !scanner.inFlow)

def readAnchor? (scanner : Scanner) (token : String → Token) (text : List Char) :
    Option Scanner := do
  let scanner ← scanner.nominate?
  let name ← anchorName? text.tail
  pure ((scanner.emitSkipping (token (String.ofList name)) (name.length + 1)).allowKeys false)

def readTag? (scanner : Scanner) (text : List Char) : Option Scanner := do
  let scanner ← scanner.nominate?
  let tag ← tag? scanner.inFlow text
  pure ((scanner.emitSkipping (.tag tag.handle tag.suffix) tag.length).allowKeys false)

def emitScalar (scanner : Scanner) (style : Style) (scalar : ScalarRead) : Scanner :=
  { scanner.emit (.scalar style (String.ofList scalar.text)) with position := scalar.after }

/-- A scalar between quotes. -/
def readQuoted? (scanner : Scanner) (quote : Char) (rest : List Char) : Option Scanner := do
  let scanner ← scanner.nominate?
  let start := scanner.position.skip 1
  let scalar ← if quote = '"' then doubleQuoted? none .none [] start rest
    else singleQuoted? .none [] start rest
  pure ((scanner.emitScalar .quoted scalar).allowKeys false)

/-- A plain scalar; if a line has ended after it, a key may follow. -/
def readPlain? (scanner : Scanner) (text : List Char) : Option Scanner := do
  let scanner ← scanner.nominate?
  let scalar ← plain? scanner.inFlow (scanner.indent + 1) .none [] scanner.position text
  pure ((scanner.emitScalar .plain scalar.toScalarRead).allowKeys scalar.endsLine)

def readBlock? (scanner : Scanner) (folds : Bool) (rest : List Char) : Option Scanner := do
  let scanner ← scanner.withoutCandidate?
  let line := rest.takeWhile (fun character => !isBreak character)
  let header ← blockHeader? line
  let remnant := line.dropWhile (fun character => !isSpacing character && character != '#')
  if !isLineRemnant remnant then none
  let lineEnd := rest.drop line.length
  let afterLine := (scanner.position.skip 1).passAll line
  let start := lineEnd.head?.elim afterLine afterLine.pass
  let around := scanner.indent.toNat
  let state : BlockState := { indent := header.increment.map (around + ·) }
  let scalar ← blockLines? folds header.chomping (max (scanner.indent + 1).toNat 1) false state
    start lineEnd.tail
  pure ((scanner.emitScalar (if folds then .folded else .literal) scalar).allowKeys true)

/-- Whether a plain scalar may start with a character that the given text follows. -/
def startsPlain (inFlow : Bool) (character : Char) (rest : List Char) : Bool :=
  if "-?:,[]\x7b\x7d#&*!|>'\"%@`".toList.contains character then
    (character == '-' && !rest.head?.any isSpacing) ||
      (!inFlow && (character == '?' || character == ':') && !startsSeparated rest)
  else !isSeparator character

def readToken? (scanner : Scanner) (character : Char) (rest : List Char) : Option Scanner :=
  let text := character :: rest
  let separated := scanner.inFlow || startsSeparated rest
  if scanner.position.column = 0 ∧ character = '%' then scanner.readDirective? text
  else if scanner.position.column = 0 ∧ startsMarker text then
    scanner.readMarker? (if character = '-' then .documentStart else .documentEnd)
  else match character with
    | '[' => scanner.readOpening? .openSequence
    | '\x7b' => scanner.readOpening? .openMapping
    | ']' => scanner.readClosing? .closeSequence
    | '\x7d' => scanner.readClosing? .closeMapping
    | ',' => scanner.readSeparator?
    | '*' => scanner.readAnchor? .alias text
    | '&' => scanner.readAnchor? .anchor text
    | '!' => scanner.readTag? text
    | '\'' | '"' => scanner.readQuoted? character rest
    | _ =>
      if character = '-' ∧ startsSeparated rest then scanner.readEntry?
      else if character = '?' ∧ separated then scanner.readKey?
      else if character = ':' ∧ separated then scanner.readValue?
      else if (character = '|' ∨ character = '>') ∧ !scanner.inFlow then
        scanner.readBlock? (character = '>') rest
      else if startsPlain scanner.inFlow character rest then scanner.readPlain? text
      else none

/-- The tokens whose meaning is settled: those before the first candidate. -/
def settled (scanner : Scanner) : List Token :=
  let numbers := (scanner.candidate :: scanner.outerCandidates).filterMap
    (fun candidate => candidate.map (·.number))
  let known := numbers.foldl min scanner.count
  (scanner.reversed.drop (scanner.count - known)).reverse

/-- The end of the text. -/
def finish (scanner : Scanner) : List Token :=
  let ended := if scanner.position.column = 0 then scanner.position
    else { scanner.position with line := scanner.position.line + 1, column := 0 }
  let closed := do
    let refreshed ← { scanner with position := ended }.refreshed?
    (refreshed.unindent (-1)).withoutCandidate?
  match closed with
  | some closed => (closed.emit .streamEnd).reversed.reverse
  | none => scanner.settled

/-- Splits the rest of a text into tokens, past spaces, comments, the ends of lines, and a byte
order mark at the front of a line, which takes up a column. A token that leaves a candidate
without its colon is not yielded, nor is what comes with it; nor is one that reaches the end
of a text that is cut off. -/
def tokens (scanner : Scanner) : List Char → List Token
  | [] => if scanner.isCut then scanner.settled else scanner.finish
  | character :: rest =>
    if (character = '\ufeff' ∧ scanner.position.column = 0) ∨ character = ' ' ∨
        (character = '\t' ∧ (scanner.inFlow ∨ !scanner.keyAllowed)) then
      { scanner with position := scanner.position.pass character }.tokens rest
    else if character = '#' then
      let comment := rest.takeWhile (fun character => !isBreak character)
      { scanner with position := (scanner.position.skip 1).passAll comment }.tokens
        (rest.drop comment.length)
    else if isBreak character then
      { scanner with
        position := scanner.position.pass character
        keyAllowed := scanner.keyAllowed || !scanner.inFlow }.tokens rest
    else
      let read := do
        let refreshed ← scanner.refreshed?
        (refreshed.unindent scanner.position.column).readToken? character rest
      match read with
      | none => scanner.settled
      | some next =>
        let left := rest.drop (next.position.index - (scanner.position.index + 1))
        match next.refreshed? with
        | none => scanner.settled
        | some refreshed =>
          if scanner.isCut ∧ left.isEmpty then scanner.settled else refreshed.tokens left
termination_by text => text.length

end Scanner

def tokensOf (source : Source) : List Token :=
  Scanner.tokens { isCut := source.isCut } source.characters

end RegisterGateway.Document
