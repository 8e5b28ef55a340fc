import EdiSchema.Text.Count

/-!
# Violations

A listing whose groups cannot form a tree is refused. The violation names a group at fault and
the reason.
-/

namespace EdiSchema

/-- Why a group does not fit into the tree of a message. -/
inductive ViolationReason where
  | underItself
  | underTwo (first second : String)
  /-- Two entries of a listing, given by their indices, are of the group. -/
  | listedAt (first second : Nat)
  | listedTwice
  /-- The group is to be attached although it has been before. -/
  | attachedTwice
  /-- The group is to be attached although no entry is of it. -/
  | notListed
  | unreachable
  deriving DecidableEq

/-- The wording of a reason. -/
def ViolationReason.message : ViolationReason → String
  | .underItself => "group is nested under itself"
  | .underTwo first second => "nested under both " ++ first ++ " and " ++ second
  | .listedAt first second =>
    "listed twice (entries " ++ Text.decimal first ++ " and " ++ Text.decimal second ++ ")"
  | .listedTwice => "listed twice"
  | .attachedTwice => "attached more than once"
  | .notListed => "no listing entry"
  | .unreachable => "unreachable from the top level"

/-- A group that does not fit into the tree of a message. -/
structure Violation where
  group : String
  reason : ViolationReason
  deriving DecidableEq

/-- The wording of a violation. -/
def Violation.message (violation : Violation) : String :=
  "Assembly invariant violated for group " ++ violation.group ++ ": " ++ violation.reason.message

end EdiSchema
