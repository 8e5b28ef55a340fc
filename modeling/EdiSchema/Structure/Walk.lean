import EdiSchema.Structure.Basic

/-!
# Walking a message

Entries are visited depth first, a group before its children, each with the number of groups
around it. Counting entries and finding a group agree with that order.
-/

namespace EdiSchema

namespace Node

mutual
/-- An entry and its descendants with their depths, given the depth of the entry. -/
def walk (depth : Nat) : Node → List (Node × Nat)
  | .segment s => [(.segment s, depth)]
  | .group g children => (.group g children, depth) :: walkAll (depth + 1) children

/-- The entries of a list and their descendants with their depths. -/
def walkAll (depth : Nat) : List Node → List (Node × Nat)
  | [] => []
  | node :: rest => walk depth node ++ walkAll depth rest
end

mutual
/-- The number of entries in a tree. -/
def count : Node → Nat
  | .segment _ => 1
  | .group _ children => 1 + countAll children

/-- The number of entries in a list of trees. -/
def countAll : List Node → Nat
  | [] => 0
  | node :: rest => count node + countAll rest
end

mutual
/-- The first group with a code in a tree, with its children. -/
def findGroup? (code : String) : Node → Option (Group × List Node)
  | .segment _ => none
  | .group g children =>
    if g.code = code then some (g, children) else findGroupIn? code children

/-- The first group with a code in a list of trees. -/
def findGroupIn? (code : String) : List Node → Option (Group × List Node)
  | [] => none
  | node :: rest => (findGroup? code node).or (findGroupIn? code rest)
end

end Node

namespace Message

/-- The entries of a message with their depths, depth first. -/
def walk (message : Message) : List (Node × Nat) :=
  Node.walkAll 0 message.nodes

/-- The number of segments and groups in a message. -/
def count (message : Message) : Nat :=
  Node.countAll message.nodes

/-- The first group of a message with a code, with its children. -/
def findGroup? (message : Message) (code : String) : Option (Group × List Node) :=
  Node.findGroupIn? code message.nodes

end Message

end EdiSchema
