import RegisterGateway.Document.Source
import RegisterGateway.Text.Hexadecimal

/-!
# Scalars

The text of a scalar as it stands in a document: plain, between quotes, or as an indented
block. Line breaks are folded: one break becomes a space, and of several the first one is
dropped. `Gap` is white space that has been passed and whose meaning depends on whether the
scalar goes on after it.
-/

namespace RegisterGateway.Document

/-- How a scalar is written. -/
inductive Style where
  | plain
  | quoted
  | literal
  | folded
  deriving DecidableEq, Repr

/-- White space inside a scalar, in reverse: spacing on one line, or a first line break, which
an escape may have taken away, and the breaks after it. -/
inductive Gap where
  | spacing (reversed : List Char)
  | breaks (first : Option Char) (reversed : List Char)
  deriving Repr

namespace Gap

def none : Gap := .spacing []

def isPresent : Gap → Bool
  | .spacing reversed => !reversed.isEmpty
  | .breaks .. => true

/-- Whether a line has ended. -/
def hasBreak : Gap → Bool
  | .spacing _ => false
  | .breaks .. => true

/-- One more space or tab; after a line break it does not count. -/
def addSpacing (gap : Gap) (character : Char) : Gap :=
  match gap with
  | .spacing reversed => .spacing (character :: reversed)
  | .breaks first reversed => .breaks first reversed

/-- One more line break. -/
def addBreak (gap : Gap) (character : Char) : Gap :=
  match gap with
  | .spacing _ => .breaks (some character) []
  | .breaks first reversed => .breaks first (character :: reversed)

/-- What white space in the middle of a scalar comes to, in reverse. -/
def folded : Gap → List Char
  | .spacing reversed => reversed
  | .breaks (some '\n') [] => [' ']
  | .breaks (some '\n') reversed => reversed
  | .breaks first reversed => reversed ++ first.toList

end Gap

/-! ## Between quotes -/

def escapeCharacter? (letter : Char) : Option Char :=
  [('0', '\x00'), ('a', '\x07'), ('b', '\x08'), ('t', '\t'), ('\t', '\t'), ('n', '\n'),
    ('v', '\x0b'), ('f', '\x0c'), ('r', '\r'), ('e', '\x1b'), (' ', ' '), ('"', '"'),
    ('/', '/'), ('\\', '\\'), ('N', '\u0085'), ('_', '\u00a0'), ('L', '\u2028'),
    ('P', '\u2029')].lookup letter

/-- How many hexadecimal digits follow an escape letter. -/
def escapeDigits? (letter : Char) : Option Nat :=
  [('x', 2), ('u', 4), ('U', 8)].lookup letter

/-- The character of a code, if there is one. -/
def characterOf? (code : Nat) : Option Char :=
  if code < 0xD800 ∨ (0xDFFF < code ∧ code ≤ 0x10FFFF) then some (Char.ofNat code) else none

/-- A scalar that has been read: its text and the position after it. -/
structure ScalarRead where
  text : List Char
  after : Position

/-- Reads a scalar between single quotes, after the first one: a quote inside is written
twice. -/
def singleQuoted? (gap : Gap) (reversed : List Char) (position : Position) :
    List Char → Option ScalarRead
  | [] => none
  | character :: rest =>
    if isSpacing character then
      singleQuoted? (gap.addSpacing character) reversed (position.pass character) rest
    else if isBreak character then
      singleQuoted? (gap.addBreak character) reversed (position.pass character) rest
    else if position.column = 0 ∧ startsMarker (character :: rest) then none
    else
      let text := gap.folded ++ reversed
      if character = '\'' then
        match rest with
        | '\'' :: rest => singleQuoted? .none ('\'' :: text) (position.skip 2) rest
        | _ => some ⟨text.reverse, position.skip 1⟩
      else singleQuoted? .none (character :: text) (position.pass character) rest

/-- Reads a scalar between double quotes, after the first one. `pending` counts the digits of
an escape that are still to come and holds the value of those that have. -/
def doubleQuoted? (pending : Option (Nat × Nat)) (gap : Gap) (reversed : List Char)
    (position : Position) : List Char → Option ScalarRead
  | [] => none
  | character :: rest =>
    match pending with
    | some (missing, value) =>
      match Text.hexValue? character with
      | none => none
      | some digit =>
        let value := 16 * value + digit
        if 1 < missing then
          doubleQuoted? (some (missing - 1, value)) gap reversed (position.skip 1) rest
        else match characterOf? value with
          | none => none
          | some escaped => doubleQuoted? none gap (escaped :: reversed) (position.skip 1) rest
    | none =>
      if isSpacing character then
        doubleQuoted? none (gap.addSpacing character) reversed (position.pass character) rest
      else if isBreak character then
        doubleQuoted? none (gap.addBreak character) reversed (position.pass character) rest
      else if position.column = 0 ∧ startsMarker (character :: rest) then none
      else
        let text := gap.folded ++ reversed
        if character = '"' then some ⟨text.reverse, position.skip 1⟩
        else if character = '\\' then
          match rest with
          | [] => none
          | letter :: rest =>
            if isBreak letter then
              doubleQuoted? none (.breaks none []) text ((position.skip 1).pass letter) rest
            else match escapeCharacter? letter, escapeDigits? letter with
              | some escaped, _ =>
                  doubleQuoted? none .none (escaped :: text) (position.skip 2) rest
              | none, some digits =>
                  doubleQuoted? (some (digits, 0)) .none text (position.skip 2) rest
              | none, none => none
        else doubleQuoted? none .none (character :: text) (position.pass character) rest

/-! ## Plain scalars -/

/-- A plain scalar that has been read, the position of what follows it, and whether a line
has ended before that. -/
structure PlainRead extends ScalarRead where
  endsLine : Bool

/-- Whether a character separates the parts of a flow collection. -/
def isFlowIndicator (character : Char) : Bool :=
  [',', '[', ']', '\x7b', '\x7d'].contains character

/-- The plain scalar that has been read when a position is reached. -/
def plainEnd (gap : Gap) (reversed : List Char) (position : Position) : PlainRead :=
  ⟨⟨reversed.reverse, position⟩, gap.hasBreak⟩

/-- Reads a plain scalar. It ends at a colon that stands alone, at a comment, at a marker, in
a flow collection at an indicator, and elsewhere at a line that is indented less than
`indent`. A tab may not indent. -/
def plain? (inFlow : Bool) (indent : Int) (gap : Gap) (reversed : List Char)
    (position : Position) : List Char → Option PlainRead
  | [] => some (plainEnd gap reversed position)
  | character :: rest =>
    if isSpacing character then
      if gap.hasBreak ∧ position.column < indent ∧ character = '\t' then none
      else plain? inFlow indent (gap.addSpacing character) reversed (position.pass character) rest
    else if isBreak character then
      plain? inFlow indent (gap.addBreak character) reversed (position.pass character) rest
    else if gap.isPresent ∧ !inFlow ∧ position.column < indent then
      some (plainEnd gap reversed position)
    else if position.column = 0 ∧ startsMarker (character :: rest) then
      some (plainEnd gap reversed position)
    else if gap.isPresent ∧ character = '#' then some (plainEnd gap reversed position)
    else if inFlow ∧ character = ':' ∧
        rest.head?.any (fun next => isFlowIndicator next || next == '?') then none
    else if (character = ':' ∧ startsSeparated rest) ∨ (inFlow ∧ isFlowIndicator character) then
      some (plainEnd gap reversed position)
    else plain? inFlow indent .none (character :: (gap.folded ++ reversed))
      (position.pass character) rest

/-! ## Block scalars -/

/-- What becomes of the line breaks at the end of a block scalar. -/
inductive Chomping where
  | strip
  | clip
  | keep
  deriving DecidableEq, Repr

/-- The header of a block scalar: chomping, and the indentation if it is written. -/
structure BlockHeader where
  chomping : Chomping := .clip
  increment : Option Nat := none

/-- The chomping that a sign asks for. -/
def chomping? (character : Char) : Option Chomping :=
  [('+', Chomping.keep), ('-', Chomping.strip)].lookup character

/-- The indentation that a digit asks for; zero is none. -/
def increment? (character : Char) : Option Nat :=
  if '1' ≤ character ∧ character ≤ '9' then some (character.toNat - 48) else none

/-- Reads the rest of the line on which a block scalar starts: a sign and a digit in either
order, and a comment. -/
def blockHeader? (line : List Char) : Option BlockHeader :=
  match line.takeWhile (fun character => !isSpacing character && character != '#') with
  | [] => some {}
  | [first] =>
    match chomping? first, increment? first with
    | some chomping, _ => some { chomping }
    | none, some increment => some { increment := some increment }
    | none, none => none
  | [first, second] =>
    match chomping? first, increment? second, increment? first, chomping? second with
    | some chomping, some increment, _, _ => some ⟨chomping, some increment⟩
    | _, _, some increment, some chomping => some ⟨chomping, some increment⟩
    | _, _, _, _ => none
  | _ => none

/-- Whether only white space and a comment are left of a line. -/
def isLineRemnant (line : List Char) : Bool :=
  match line.dropWhile isSpacing with
  | [] => true
  | character :: _ => character == '#'

/-- A block scalar that is being read: its indentation (none yet if it is still unknown), the
widest indentation of its leading empty lines, its text so far in reverse, the break that
ended the last line, the empty lines after that in reverse, and whether the last line
started with white space. -/
structure BlockState where
  indent : Option Nat
  widest : Nat := 0
  reversed : List Char := []
  lastBreak : Option Char := none
  emptyLines : List Char := []
  startedBlank : Bool := false

/-- The text before a new line of a block scalar: where a folded scalar goes on from one plain
line to the next, the break between them counts as white space. -/
def BlockState.joined (state : BlockState) (folds : Bool) (character : Char) : List Char :=
  if folds ∧ state.lastBreak = some '\n' ∧ !state.startedBlank ∧ !isSpacing character then
    (if state.emptyLines.isEmpty then [' '] else state.emptyLines) ++ state.reversed
  else state.emptyLines ++ state.lastBreak.toList ++ state.reversed

def BlockState.text (state : BlockState) (chomping : Chomping) : List Char :=
  let lines := match chomping with
    | .strip => state.reversed
    | .clip => state.lastBreak.toList ++ state.reversed
    | .keep => state.emptyLines ++ state.lastBreak.toList ++ state.reversed
  lines.reverse

/-- Reads the lines of a block scalar. Its indentation, if it is not known, is that of the
first line that is not empty, but at least `least`. -/
def blockLines? (folds : Bool) (chomping : Chomping) (least : Nat) (inLine : Bool)
    (state : BlockState) (position : Position) : List Char → Option ScalarRead
  | [] => some ⟨state.text chomping, position⟩
  | character :: rest =>
    let next := position.pass character
    if inLine then
      if isBreak character then
        blockLines? folds chomping least false { state with lastBreak := some character } next rest
      else
        blockLines? folds chomping least true
          { state with reversed := character :: state.reversed } next rest
    else
      let inMargin := state.indent.all (fun indent => position.column < indent)
      if inMargin ∧ character = ' ' then
        blockLines? folds chomping least false state next rest
      else if inMargin ∧ character = '\t' then none
      else
        let widest := max state.widest position.column
        if isBreak character then
          blockLines? folds chomping least false
            { state with widest, emptyLines := character :: state.emptyLines } next rest
        else
          let indent := state.indent.getD (max widest least)
          if position.column = indent then
            blockLines? folds chomping least true
              { indent := some indent
                reversed := character :: state.joined folds character
                startedBlank := isSpacing character } next rest
          else some ⟨state.text chomping, position⟩

end RegisterGateway.Document
