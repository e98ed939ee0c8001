import RegisterGateway.Access.PolicyForm
import RegisterGateway.Document.Decode

/-!
# Port policies in documents

A policy that is a document of its own has typed fields, except for the selectors, which
are read by their looks first. A policy among the settings of a port is read by its looks
altogether.
-/

namespace RegisterGateway

open Document (Decoding Node Tree malformed orMalformed)

/-- Reads an access mode: its word, or its word as a tag on nothing. -/
def AccessMode.ofNode (tree : Tree) (node : Node) : Decoding AccessMode := do
  match ← tree.follow node with
  | .scalar tag style text =>
    match tag.bind Document.Tag.ownName? with
    | none => orMalformed (ofWord? text)
    | some word =>
      if style = .plain ∧ (text.isEmpty ∨ Document.isNullWord text) then orMalformed (ofWord? word)
      else malformed
  | _ => malformed

def FunctionCodeAcl.codesOfNode (tree : Tree) (node : Node) : Decoding (List UInt8) :=
  Tree.list (fun tree node => UInt8.ofNat <$> Tree.natural 256 tree node) tree node

def FunctionCodeAcl.ofNode (tree : Tree) (node : Node) : Decoding (Option FunctionCodeAcl) :=
  Tree.optional (fun tree node =>
    Draft.complete <$> Tree.foldFields (Draft.read (codesOfNode tree) Tree.ignore) {} tree node)
    tree node

def FieldReader.ofNodes (tree : Tree) : FieldReader Decoding Node where
  datum := tree.captured (Tree.maxDepth - 1)
  access := AccessMode.ofNode tree
  functionCodes := FunctionCodeAcl.ofNode tree
  ignore := Tree.ignore

/-- Reads a policy that is a document of its own. -/
def PortPolicy.ofNode (tree : Tree) (node : Node) : Decoding PortPolicy := do
  let draft ← Tree.foldFields (Draft.read (.ofNodes tree)) {} tree node
  draft.complete

end RegisterGateway
