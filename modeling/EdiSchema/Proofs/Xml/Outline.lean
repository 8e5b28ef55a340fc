import Mathlib.Data.Nat.Notation
import EdiSchema.Xml.Node

/-!
# Outlines of documents

A document is outlined by its groups and segments in the order in which they start, each with the
number of groups around it. Groups are the elements without a format of their own and segments
those at which errors are reported; both are told by an attribute.
-/

namespace EdiSchema.Xml

/-- The name of an element. -/
def name : Xml → String
  | .element name _ _ => name
  | .leaf name _ _ => name
  | .empty name _ => name
  | .comment _ => ""

/-- The nodes inside an element. -/
def content : Xml → List Xml
  | .element _ _ content => content
  | .leaf _ _ _ => []
  | .empty _ _ => []
  | .comment _ => []

/-- A group or a segment of a document. -/
structure Heading where
  depth : ℕ
  name : String
  isGroup : Bool
  content : List Xml

mutual
/-- The groups and segments in a node, depth first, given the number of groups around it. -/
def headings (depth : ℕ) : Xml → List Heading
  | .element name attributes content =>
    if ("format", "none") ∈ attributes then
      ⟨depth, name, true, content⟩ :: allHeadings (depth + 1) content
    else if ("errorLevel", "true") ∈ attributes then [⟨depth, name, false, content⟩]
    else []
  | .empty name attributes =>
    if ("format", "none") ∈ attributes then [⟨depth, name, true, []⟩] else []
  | .leaf _ _ _ => []
  | .comment _ => []

/-- The groups and segments in some nodes. -/
def allHeadings (depth : ℕ) : List Xml → List Heading
  | [] => []
  | node :: rest => headings depth node ++ allHeadings depth rest
end

/-- A group or segment of a document with the upper bound shown for it. -/
structure Bound where
  depth : ℕ
  name : String
  max : String
  deriving DecidableEq

/-- The upper bound that attributes show, which is one if they give none. -/
def shownMax (attributes : List (String × String)) : String :=
  (attributes.lookup "max").getD "1"

mutual
/-- The groups and segments in a node with their bounds, depth first, given the number of groups
around it. -/
def bounds (depth : ℕ) : Xml → List Bound
  | .element name attributes content =>
    if ("format", "none") ∈ attributes then
      ⟨depth, name, shownMax attributes⟩ :: allBounds (depth + 1) content
    else if ("errorLevel", "true") ∈ attributes then [⟨depth, name, shownMax attributes⟩]
    else []
  | .empty name attributes =>
    if ("format", "none") ∈ attributes then [⟨depth, name, shownMax attributes⟩] else []
  | .leaf _ _ _ => []
  | .comment _ => []

/-- The groups and segments in some nodes with their bounds. -/
def allBounds (depth : ℕ) : List Xml → List Bound
  | [] => []
  | node :: rest => bounds depth node ++ allBounds depth rest
end

/-- Whether a name is spelled like that of a field. -/
def IsFieldName (name : String) : Prop :=
  name.toList.head? = some 'E'

instance (name : String) : Decidable (IsFieldName name) :=
  inferInstanceAs (Decidable (name.toList.head? = some 'E'))

mutual
/-- The names in a node that are spelled like those of fields, of elements without content. -/
def fieldNames : Xml → List String
  | .element _ _ content => allFieldNames content
  | .empty name _ => if IsFieldName name then [name] else []
  | .leaf _ _ _ => []
  | .comment _ => []

/-- The names in some nodes that are spelled like those of fields. -/
def allFieldNames : List Xml → List String
  | [] => []
  | node :: rest => fieldNames node ++ allFieldNames rest
end

theorem allFieldNames_eq_flatMap (nodes : List Xml) :
    allFieldNames nodes = nodes.flatMap fieldNames := by
  induction nodes with
  | nil => rfl
  | cons node rest ih => rw [allFieldNames, ih, List.flatMap_cons]

/-- A name after an `E` is spelled like that of a field. -/
theorem isFieldName_append (code : String) : IsFieldName ("E" ++ code) := by
  simp [IsFieldName]

end EdiSchema.Xml
