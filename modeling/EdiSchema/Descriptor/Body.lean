import EdiSchema.Descriptor.Dialect
import EdiSchema.Descriptor.Options
import EdiSchema.Structure.Basic
import EdiSchema.Text.Count
import EdiSchema.Xml.Node

/-!
# Bodies of delimited messages

The body describes a message as XML of the same shape: a group, segment or composite is an element
named by its code, and a data element by its code after an `E`. Each says by which text its part of
a message ends.
-/

namespace EdiSchema.Body

/-- The attribute of an item that has to be present. -/
def minAttribute (requirement : Requirement) : List (String × String) :=
  if requirement.isMandatory then [("min", "1")] else []

/-- The attribute of an upper bound, unless it is one. -/
def maxAttribute (bound : MaxOccurs) : List (String × String) :=
  if bound.isOne then [] else [("max", bound.descriptorText)]

/-- The attribute of a maximal length, if it is known. -/
def sizeAttribute (length : UInt32) : List (String × String) :=
  if length = 0 then [] else [("maxSize", Text.decimal length.toNat)]

/-- A data element that ends by a text. -/
def element (ending : String) (e : Element) : Xml :=
  .empty ("E" ++ e.code)
    ([("end", ending)] ++ sizeAttribute e.maxLength ++ minAttribute e.requirement)

/-- A composite. -/
def composite (separators : Separators) (c : Composite) : Xml :=
  let attributes := [("end", separators.element)] ++ minAttribute c.requirement
  if c.components.isEmpty then .empty c.code attributes
  else .element c.code attributes (c.components.map (element separators.component))

/-- A data item. -/
def item (separators : Separators) : Item → Xml
  | .composite c => composite separators c
  | .simple e => element separators.element e

/-- The attributes of a segment. -/
def segmentAttributes (separators : Separators) (s : Segment) : List (String × String) :=
  [("end", separators.segment), ("lastEnd", "true"), ("emptyEnd", "false"), ("errorLevel", "true"),
    ("requirement", s.requirement.lowerName)] ++ minAttribute s.requirement ++
    maxAttribute s.maxOccurs

/-- The tag that a segment starts with. -/
def tagField (separators : Separators) (tag : String) : Xml :=
  .leaf "TAG" [("end", separators.element), ("key", "true"), ("min", "1")] tag

/-- A segment. -/
def segment (separators : Separators) (s : Segment) : Xml :=
  .element s.tag (segmentAttributes separators s)
    (tagField separators s.tag :: s.items.map (item separators))

/-- The bound shown for a group. -/
def groupMax (options : DescriptorOptions) (g : Group) : String :=
  g.maxOccurs.elim options.groupMax MaxOccurs.descriptorText

/-- A group with its children. -/
def group (options : DescriptorOptions) (g : Group) (children : List Xml) : Xml :=
  let attributes := [("format", "none"), ("max", groupMax options g)]
  if children.isEmpty then .empty g.code attributes else .element g.code attributes children

mutual
/-- An entry of a message. -/
def node (separators : Separators) (options : DescriptorOptions) : Node → Xml
  | .segment s => segment separators s
  | .group g children => group options g (nodes separators options children)

/-- The entries of a list. -/
def nodes (separators : Separators) (options : DescriptorOptions) : List Node → List Xml
  | [] => []
  | n :: rest => node separators options n :: nodes separators options rest
end

/-- The name of a message in the comment of its body. -/
def title (message : Message) : String :=
  message.standard ++ "-" ++ message.revision ++ "-" ++ message.document

/-- The body of a message. -/
def ofMessage (separators : Separators) (options : DescriptorOptions) (message : Message) : Xml :=
  .element "MESSAGE" [("format", "none"), ("max", "n"), ("requirement", "mandatory")]
    (.comment (title message) :: nodes separators options message.nodes)

end EdiSchema.Body
