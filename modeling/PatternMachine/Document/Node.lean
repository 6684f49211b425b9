import PatternMachine.Document.Scalar

/-!
# Nodes of a document

A document is a tree of scalars, sequences and mappings. An alias stands for
the node its anchor names; an anchored node that contains its own alias is cut
off there.
-/

namespace PatternMachine
namespace Document

/-- A node with the line it starts on. `missing` is the document without any
content. Tags are in their short form. -/
inductive Node
  | missing
  | scalar (line : Nat) (tag value : String)
  | sequence (line : Nat) (tag : String) (items : List Node)
  | mapping (line : Nat) (tag : String) (entries : List (Node × Node))
  | reference (line : Nat) (name : String) (target : Node)
  | selfReference (line : Nat) (name : String)
  deriving Inhabited

namespace Node

/-- A plain scalar without a tag. -/
def plain (line : Nat) (value : String) : Node :=
  .scalar line (Scalar.ofPlain true value).tag value

/-- The line a node starts on. -/
def line : Node -> Nat
  | missing => 0
  | scalar line _ _ => line
  | sequence line _ _ => line
  | mapping line _ _ => line
  | reference line _ _ => line
  | selfReference line _ => line

/-- The text of a node: the value of a scalar, the name an alias refers to, and
nothing for a collection. -/
def value : Node -> String
  | scalar _ _ value => value
  | reference _ name _ => name
  | selfReference _ name => name
  | _ => ""

/-- The tag of a node. An alias has the tag of the node it stands for. -/
def tag : Node -> String
  | missing => nullTag
  | scalar _ tag _ => tag
  | sequence _ tag _ => tag
  | mapping _ tag _ => tag
  | reference _ _ target => target.tag
  | selfReference _ _ => ""

/-- Whether two nodes are of one form: both scalars, both sequences, and so on. -/
def sameForm : Node -> Node -> Bool
  | missing, missing => true
  | scalar _ _ _, scalar _ _ _ => true
  | sequence _ _ _, sequence _ _ _ => true
  | mapping _ _ _, mapping _ _ _ => true
  | reference _ _ _, reference _ _ _ => true
  | reference _ _ _, selfReference _ _ => true
  | selfReference _ _, reference _ _ _ => true
  | selfReference _ _, selfReference _ _ => true
  | _, _ => false

/-- The node that is read where this one stands: behind an alias, the node the
alias stands for. -/
def resolved : Node -> Node
  | reference _ _ target => target.resolved
  | node => node

/-- Whether there is no node at all. -/
def isMissing : Node -> Bool
  | missing => true
  | _ => false

/-- Whether a node is the key that merges another mapping into its own. -/
def isMerge : Node -> Bool
  | scalar _ tag value => value == "<<" && tag == mergeTag
  | _ => false

end Node
end Document
end PatternMachine
