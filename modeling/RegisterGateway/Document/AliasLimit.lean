import RegisterGateway.Document.DecodeError
import RegisterGateway.Document.Node

/-!
# The limit on aliases

Aliases let a short document stand for a very long one. Decoding may therefore follow them
only so often: a hundred times for every event of the document, where a scalar or an alias
is one event, and a collection is one where it starts and another where it ends. `Decoding`
counts down how often aliases may still be followed.
-/

namespace RegisterGateway.Document

mutual

/-- Whether nothing of a node is missing. -/
def Node.isWhole : Node → Bool
  | .scalar .. | .alias _ => true
  | .fault => false
  | .sequence _ items => areWhole items
  | .mapping _ entries => entriesAreWhole entries

/-- Whether nothing of some nodes is missing. -/
def areWhole : List Node → Bool
  | [] => true
  | node :: rest => node.isWhole && areWhole rest

/-- Whether nothing of some entries is missing. -/
def entriesAreWhole : List (Node × Node) → Bool
  | [] => true
  | (key, value) :: rest => key.isWhole && value.isWhole && entriesAreWhole rest

end

mutual

/-- How many events a node comes to; a collection that is broken off has no end. -/
def Node.events : Node → Nat
  | .scalar .. | .alias _ => 1
  | .fault => 0
  | .sequence _ items => itemEvents items + if areWhole items then 2 else 1
  | .mapping _ entries => entryEvents entries + if entriesAreWhole entries then 2 else 1

def itemEvents : List Node → Nat
  | [] => 0
  | node :: rest => node.events + itemEvents rest

def entryEvents : List (Node × Node) → Nat
  | [] => 0
  | (key, value) :: rest => key.events + value.events + entryEvents rest

end

/-- Decoding, by how often aliases may still be followed. -/
abbrev Decoding := StateT Nat (Except DecodeError)

namespace Tree

/-- How often the aliases of a document may be followed. -/
def aliasLimit (tree : Tree) : Nat :=
  100 * tree.root.events

/-- The node that is meant by a node: for an alias the one that it stands for. -/
def follow (tree : Tree) (node : Node) : Decoding Node := do
  match node with
  | .alias target =>
    match ← get with
    | 0 => throw .malformed
    | left + 1 =>
      set left
      pure ((tree.anchored.lookup target).getD .fault)
  | node => pure node

end Tree

end RegisterGateway.Document
