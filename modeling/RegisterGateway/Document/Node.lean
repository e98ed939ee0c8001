import RegisterGateway.Document.Token

/-!
# Nodes of a document

A document is a tree of scalars, sequences and mappings. It is put together token by token:
`Open` is a collection that waits for the node being read, `Expect` says what may come next,
and `Builder.accept` takes one token. Where a document is broken, what has been read up to
there is kept, and a `fault` stands in the place of the node that could not be read.

An alias stands for the node with its anchor. Anchors have numbers, and the number of a new
one is how many names there are, so that it is given again where an anchor has repeated a
name; of the nodes of a number the one that starts last counts. The table of anchored nodes
goes with the tree, so that an alias may even stand for a node that is around it, or for one
after it.
-/

namespace RegisterGateway.Document

/-- A node of a document. -/
inductive Node where
  | scalar (tag : Option Tag) (style : Style) (text : String)
  | sequence (tag : Option Tag) (items : List Node)
  | mapping (tag : Option Tag) (entries : List (Node × Node))
  | alias (target : Nat)
  | fault
  deriving Repr

/-- Whether a token opens a document: a directive or a start mark. -/
def Token.opensDocument : Token → Bool
  | .version .. | .tagHandle .. | .documentStart => true
  | _ => false

/-- An anchor: how many anchors come before it in the document, and its number. -/
structure Anchor where
  rank : Nat
  number : Nat
  deriving DecidableEq, Repr

/-- What stands in front of a node: its anchor and its tag. -/
structure Properties where
  anchor : Option Anchor := none
  tag : Option Tag := none
  deriving Repr

namespace Properties

/-- Whether there are none. -/
def isEmpty (properties : Properties) : Bool :=
  properties.anchor.isNone && properties.tag.isNone

end Properties

/-- A collection around the node that is being read. Items and entries are in reverse. -/
inductive Open where
  | blockItem (properties : Properties) (items : List Node)
  | indentlessItem (properties : Properties) (items : List Node)
  | blockKey (properties : Properties) (entries : List (Node × Node))
  | blockValue (properties : Properties) (entries : List (Node × Node)) (key : Node)
  | flowItem (properties : Properties) (items : List Node)
  | pairKey (properties : Properties) (items : List Node)
  | pairValue (properties : Properties) (items : List Node) (key : Node)
  | flowKey (properties : Properties) (entries : List (Node × Node))
  | flowLoneKey (properties : Properties) (entries : List (Node × Node))
  | flowValue (properties : Properties) (entries : List (Node × Node)) (key : Node)

/-- What may come next. -/
inductive Expect where
  | node (properties : Properties)
  | blockEntry (properties : Properties) (items : List Node)
  | indentlessEntry (properties : Properties) (items : List Node)
  | blockKeyMark (properties : Properties) (entries : List (Node × Node))
  | blockValueMark (properties : Properties) (entries : List (Node × Node)) (key : Node)
  | flowItem (isFirst : Bool) (properties : Properties) (items : List Node)
  | flowItemAfterComma (properties : Properties) (items : List Node)
  | pairValueMark (properties : Properties) (items : List Node) (key : Node)
  | flowKey (isFirst : Bool) (properties : Properties) (entries : List (Node × Node))
  | flowKeyAfterComma (properties : Properties) (entries : List (Node × Node))
  | flowValueMark (properties : Properties) (entries : List (Node × Node)) (key : Node)
  | documentEnd (root : Node)

/-- A scalar that is not there. -/
def Node.absent (properties : Properties) : Node :=
  .scalar properties.tag .plain ""

/-- A mapping of one entry in a flow sequence. -/
def Node.pair (key value : Node) : Node :=
  .mapping none [(key, value)]

namespace Open

def allowsAbsentBefore : Open → Token → Bool
  | .blockItem .., token => [.entry, .blockEnd].contains token
  | .indentlessItem .., token => [.entry, .key, .value, .blockEnd].contains token
  | .blockKey .., token | .blockValue .., token => [.key, .value, .blockEnd].contains token
  | .flowItem .., _ | .flowLoneKey .., _ => false
  | .pairKey .., token => [.value, .separator, .closeSequence].contains token
  | .pairValue .., token => [.separator, .closeSequence].contains token
  | .flowKey .., token => [.value, .separator, .closeMapping].contains token
  | .flowValue .., token => [.separator, .closeMapping].contains token

/-- Whether a block collection may stand as the node. -/
def allowsBlock : Open → Bool
  | .blockItem .. | .indentlessItem .. | .blockKey .. | .blockValue .. => true
  | _ => false

/-- Whether a block sequence may stand as the node without being indented. -/
def allowsIndentless : Open → Bool
  | .blockKey .. | .blockValue .. => true
  | _ => false

/-- What is expected when the node has been read. -/
def afterNode (node : Node) : Open → Expect
  | .blockItem properties items => .blockEntry properties (node :: items)
  | .indentlessItem properties items => .indentlessEntry properties (node :: items)
  | .blockKey properties entries => .blockValueMark properties entries node
  | .blockValue properties entries key => .blockKeyMark properties ((key, node) :: entries)
  | .flowItem properties items => .flowItem false properties (node :: items)
  | .pairKey properties items => .pairValueMark properties items node
  | .pairValue properties items key => .flowItem false properties (.pair key node :: items)
  | .flowKey properties entries => .flowValueMark properties entries node
  | .flowLoneKey properties entries =>
      .flowKey false properties ((node, .absent {}) :: entries)
  | .flowValue properties entries key => .flowKey false properties ((key, node) :: entries)

/-- The collection as far as it has been read, if a node is its last. -/
def plug (node : Node) : Open → Properties × Node
  | .blockItem properties items | .indentlessItem properties items
  | .flowItem properties items =>
      (properties, .sequence properties.tag (node :: items).reverse)
  | .blockKey properties entries | .flowKey properties entries
  | .flowLoneKey properties entries =>
      (properties, .mapping properties.tag ((node, .fault) :: entries).reverse)
  | .blockValue properties entries key | .flowValue properties entries key =>
      (properties, .mapping properties.tag ((key, node) :: entries).reverse)
  | .pairKey properties items =>
      (properties, .sequence properties.tag (.pair node .fault :: items).reverse)
  | .pairValue properties items key =>
      (properties, .sequence properties.tag (.pair key node :: items).reverse)

end Open

/-- The collection that is expected to go on, as far as it has been read. -/
def Expect.broken : Expect → Properties × Node
  | .node _ => ({}, .fault)
  | .blockEntry properties items | .indentlessEntry properties items
  | .flowItem _ properties items | .flowItemAfterComma properties items =>
      (properties, .sequence properties.tag (.fault :: items).reverse)
  | .blockKeyMark properties entries | .flowKey _ properties entries
  | .flowKeyAfterComma properties entries =>
      (properties, .mapping properties.tag ((.fault, .fault) :: entries).reverse)
  | .blockValueMark properties entries key | .flowValueMark properties entries key =>
      (properties, .mapping properties.tag ((key, .fault) :: entries).reverse)
  | .pairValueMark properties items key =>
      (properties, .sequence properties.tag (.pair key .fault :: items).reverse)
  | .documentEnd root => ({}, root)

/-- How far an expectation is from taking a token. -/
def Expect.distance : Expect → Nat
  | .blockValueMark .. | .flowValueMark .. | .pairValueMark .. => 1
  | _ => 0

/-- What is known when some tokens of a document have been taken: what may come next and what
is open, the meanings of tag handles, the names of anchors with their numbers, how many
anchors there have been, and the anchored nodes, the last one that has started in front. -/
structure Builder where
  expect : Expect
  stack : List Open := []
  handles : List (String × List UInt8) := []
  names : List (String × Nat) := []
  anchorCount : Nat := 0
  anchored : List (Anchor × Node) := []

namespace Builder

/-- Records a node under its anchor, behind those that started after it. -/
def anchor (properties : Properties) (node : Node) (builder : Builder) : Builder :=
  match properties.anchor with
  | some anchor =>
    let later := builder.anchored.takeWhile (fun entry => anchor.rank < entry.1.rank)
    let earlier := builder.anchored.drop later.length
    { builder with anchored := later ++ (anchor, node) :: earlier }
  | none => builder

/-- A node has been read. -/
def complete (node : Node) (builder : Builder) : Builder :=
  match builder.stack with
  | around :: stack => { builder with expect := around.afterNode node, stack }
  | [] => { builder with expect := .documentEnd node }

def close (properties : Properties) (node : Node) (builder : Builder) : Builder :=
  complete node (anchor properties node builder)

/-- A collection waits for a node. -/
def wait (around : Open) (builder : Builder) : Builder :=
  { builder with expect := .node {}, stack := around :: builder.stack }

/-- The next anchor, of a name. -/
def nextAnchor (name : String) (builder : Builder) : Anchor × Builder :=
  let anchor : Anchor := ⟨builder.anchorCount, builder.names.length⟩
  let others := builder.names.filter (fun entry => entry.1 ≠ name)
  (anchor, { builder with
    names := (name, anchor.number) :: others
    anchorCount := builder.anchorCount + 1 })

/-- The tag that a handle and a suffix come to; the handle must be known. -/
def resolveTag? (handle : String) (suffix : List UInt8) (builder : Builder) : Option Tag :=
  if handle.isEmpty then some ⟨suffix⟩
  else (builder.handles.lookup handle).map (fun denoted => ⟨denoted ++ suffix⟩)

/-- A token where a node is expected. Nothing is yielded if it is none of a node. The mark
alone is no tag of a scalar that is there. -/
def takeNode (properties : Properties) (token : Token) (builder : Builder) : Option Builder :=
  let allowsBlock := builder.stack.head?.all Open.allowsBlock
  let allowsIndentless := builder.stack.head?.any Open.allowsIndentless
  match token with
  | .alias name =>
    if properties.isEmpty then (builder.names.lookup name).map (fun target =>
      builder.complete (.alias target))
    else none
  | .anchor name =>
    if properties.anchor.isNone then
      let (anchor, builder) := builder.nextAnchor name
      some { builder with expect := .node { properties with anchor := some anchor } }
    else none
  | .tag handle suffix =>
    if properties.tag.isNone then
      (builder.resolveTag? handle suffix).map (fun tag =>
        { builder with expect := .node { properties with tag := some tag } })
    else none
  | .scalar style text =>
    let tag := properties.tag.filter (· ≠ Tag.mark)
    some (builder.close properties (.scalar tag style text))
  | .openSequence => some { builder with expect := .flowItem true properties [] }
  | .openMapping => some { builder with expect := .flowKey true properties [] }
  | .blockSequence =>
    if allowsBlock then some { builder with expect := .blockEntry properties [] } else none
  | .blockMapping =>
    if allowsBlock then some { builder with expect := .blockKeyMark properties [] } else none
  | .entry =>
    if allowsIndentless then some (builder.wait (.indentlessItem properties [])) else none
  | _ => none

def continuesNode (properties : Properties) (token : Token) (builder : Builder) : Bool :=
  let allowsBlock := builder.stack.head?.all Open.allowsBlock
  let allowsIndentless := builder.stack.head?.any Open.allowsIndentless
  match token with
  | .anchor _ => properties.anchor.isNone
  | .tag .. => properties.tag.isNone
  | .scalar .. | .openSequence | .openMapping => true
  | .blockSequence | .blockMapping => allowsBlock
  | .entry => allowsIndentless
  | _ => false

def absentBefore (properties : Properties) (token : Token) (builder : Builder) : Bool :=
  if properties.isEmpty then
    match builder.stack with
    | around :: _ => around.allowsAbsentBefore token
    | [] => token.opensDocument || [.documentEnd, .streamEnd].contains token
  else !builder.continuesNode properties token

theorem distance_afterNode (node : Node) (around : Open) :
    (around.afterNode node).distance ≤ 1 := by
  cases around <;> simp [Open.afterNode, Expect.distance]

@[simp] theorem stack_anchor (properties : Properties) (node : Node) (builder : Builder) :
    (builder.anchor properties node).stack = builder.stack := by
  unfold anchor
  split <;> rfl

/-- Closing a node inside a collection leads on: a collection less is open. -/
theorem measure_close (properties : Properties) (node : Node) (builder : Builder)
    (around : Open) (stack : List Open) (inside : builder.stack = around :: stack) :
    2 * (builder.close properties node).stack.length +
        (builder.close properties node).expect.distance < 2 * builder.stack.length := by
  have := distance_afterNode node around
  simp only [close, complete, stack_anchor, inside, List.length_cons]
  omega

/-- Makes the moves that take no token, until the given token can be taken: what is not there
counts as absent, and a sequence that is not indented ends where another token comes. -/
def settle (token : Token) (builder : Builder) : Builder :=
  match _expecting : builder.expect with
  | .node properties =>
    if builder.absentBefore properties token then
      match _inside : builder.stack with
      | [] => builder.close properties (.absent properties)
      | .pairKey .. :: _ =>
        if properties.isEmpty then builder
        else (builder.close properties (.absent properties)).settle token
      | _ :: _ => (builder.close properties (.absent properties)).settle token
    else builder
  | .indentlessEntry properties items =>
    if token = .entry then builder
    else
      let node := Node.sequence properties.tag items.reverse
      match _inside : builder.stack with
      | [] => builder.close properties node
      | _ :: _ => (builder.close properties node).settle token
  | .blockValueMark properties entries key =>
    if token = .value then builder
    else { builder with
      expect := .blockKeyMark properties ((key, .absent {}) :: entries) }.settle token
  | .flowValueMark properties entries key =>
    if token = .value then builder
    else { builder with
      expect := .flowKey false properties ((key, .absent {}) :: entries) }.settle token
  | .pairValueMark properties items key =>
    if token = .value then builder
    else { builder with
      expect := .flowItem false properties (.pair key (.absent {}) :: items) }.settle token
  | _ => builder
termination_by 2 * builder.stack.length + builder.expect.distance
decreasing_by
  · exact Nat.lt_of_lt_of_le (measure_close _ _ builder _ _ _inside) (Nat.le_add_right _ _)
  · exact Nat.lt_of_lt_of_le (measure_close _ _ builder _ _ _inside) (Nat.le_add_right _ _)
  · exact Nat.lt_of_lt_of_le (measure_close _ _ builder _ _ _inside) (Nat.le_add_right _ _)
  all_goals simp [_expecting, Expect.distance]

def startItem (properties : Properties) (items : List Node) (token : Token)
    (builder : Builder) : Option Builder :=
  match token with
  | .closeSequence => some (builder.close properties (.sequence properties.tag items.reverse))
  | .key => some (builder.wait (.pairKey properties items))
  | _ => (builder.wait (.flowItem properties items)).takeNode {} token

def startEntry (properties : Properties) (entries : List (Node × Node)) (token : Token)
    (builder : Builder) : Option Builder :=
  match token with
  | .closeMapping => some (builder.close properties (.mapping properties.tag entries.reverse))
  | .key => some (builder.wait (.flowKey properties entries))
  | _ => (builder.wait (.flowLoneKey properties entries)).takeNode {} token

/-- Takes a token; nothing is yielded if it may not stand here. The mark after the key sign of
an entry without a key is taken for the key. -/
def accept (token : Token) (builder : Builder) : Option Builder :=
  match builder.expect, token with
  | .node properties, token =>
      if builder.absentBefore properties token then
        some (builder.close properties (.absent properties))
      else builder.takeNode properties token
  | .blockEntry properties items, .entry => some (builder.wait (.blockItem properties items))
  | .blockEntry properties items, .blockEnd =>
      some (builder.close properties (.sequence properties.tag items.reverse))
  | .indentlessEntry properties items, .entry =>
      some (builder.wait (.indentlessItem properties items))
  | .blockKeyMark properties entries, .key => some (builder.wait (.blockKey properties entries))
  | .blockKeyMark properties entries, .blockEnd =>
      some (builder.close properties (.mapping properties.tag entries.reverse))
  | .blockValueMark properties entries key, .value =>
      some (builder.wait (.blockValue properties entries key))
  | .flowItem true properties items, token => builder.startItem properties items token
  | .flowItem false properties items, .separator =>
      some { builder with expect := .flowItemAfterComma properties items }
  | .flowItem false properties items, .closeSequence =>
      some (builder.close properties (.sequence properties.tag items.reverse))
  | .flowItemAfterComma properties items, token => builder.startItem properties items token
  | .pairValueMark properties items key, .value =>
      some (builder.wait (.pairValue properties items key))
  | .flowKey true properties entries, token => builder.startEntry properties entries token
  | .flowKey false properties entries, .separator =>
      some { builder with expect := .flowKeyAfterComma properties entries }
  | .flowKey false properties entries, .closeMapping =>
      some (builder.close properties (.mapping properties.tag entries.reverse))
  | .flowKeyAfterComma properties entries, token => builder.startEntry properties entries token
  | .flowValueMark properties entries key, .value =>
      some (builder.wait (.flowValue properties entries key))
  | _, _ => none

end Builder

/-- A document: its tree, the anchored nodes by their numbers, the one that counts for a number
in front, and whether nothing follows the tree. -/
structure Tree where
  root : Node
  anchored : List (Nat × Node)
  endsClean : Bool
  deriving Repr

namespace Tree

def nodesByNumber (builder : Builder) : List (Nat × Node) :=
  builder.anchored.map (fun entry => (entry.1.number, entry.2))

/-- The document as far as it has been read. -/
def abandoned (builder : Builder) : Tree :=
  let start := builder.expect.broken
  let (root, last) := builder.stack.foldl (fun (inner, known) around =>
    let whole := around.plug inner
    (whole.2, known.anchor whole.1 whole.2)) (start.2, builder.anchor start.1 start.2)
  ⟨root, nodesByNumber last, false⟩

/-- Whether nothing but end marks comes before the end of the stream. -/
def isStreamEnd (tokens : List Token) : Bool :=
  (tokens.dropWhile (· == .documentEnd)).head? == some .streamEnd

/-- Reads the tree of a document. -/
def ofContent (builder : Builder) : List Token → Tree
  | [] => abandoned builder
  | token :: rest =>
    let settled := builder.settle token
    match settled.expect with
    | .documentEnd root => ⟨root, nodesByNumber settled, isStreamEnd (token :: rest)⟩
    | _ =>
      match settled.accept token with
      | some next => ofContent next rest
      | none => abandoned settled

/-- The handles that every document knows. -/
def standardHandles : List (String × List UInt8) :=
  [("!", Tag.mark.bytes), ("!!", (Tag.ofText "tag:yaml.org,2002:").bytes)]

def broken : Tree := ⟨.fault, [], false⟩

/-- Reads the directives in front of a document, and the document after its start mark. One
version, which must be 1.1 or 1.2, and one meaning for every handle may be given. -/
def ofDirectives (hasVersion : Bool) (handles : List (String × List UInt8)) :
    List Token → Tree
  | .version major minor :: rest =>
      if !hasVersion && major == 1 && (minor == 1 || minor == 2) then
        ofDirectives true handles rest
      else broken
  | .tagHandle handle denoted :: rest =>
      if (handles.lookup handle).isSome then broken
      else ofDirectives hasVersion ((handle, denoted) :: handles) rest
  | .documentStart :: rest =>
      ofContent { expect := .node {}, handles := handles ++ standardHandles } rest
  | _ => broken

/-- The first document of a stream, if it has one. -/
def ofTokens? : List Token → Option Tree
  | .streamEnd :: _ => none
  | .documentEnd :: _ => some broken
  | tokens =>
      if tokens.head?.any Token.opensDocument then some (ofDirectives false [] tokens)
      else some (ofContent { expect := .node {}, handles := standardHandles } tokens)

/-- The first document of a text, if it has one. -/
def ofText? (text : String) : Option Tree :=
  ofTokens? (tokensOf (.ofText text))

end Tree

end RegisterGateway.Document
