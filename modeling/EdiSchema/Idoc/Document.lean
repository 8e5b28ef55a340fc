import EdiSchema.Descriptor.Body
import EdiSchema.Idoc.Block

/-!
# Documents of records

The descriptor of a message of fixed width: a control record, then an element for each group and
each segment. Every segment starts with the fields that its records have in common.
-/

namespace EdiSchema.Idoc

/-- The fields of the control record after the name of its table, and their lengths. -/
def controlFields : List (String × UInt32) := [
  ("MANDT", 3), ("DOCNUM", 16), ("DOCREL", 4), ("STATUS", 2), ("DIRECT", 1), ("OUTMOD", 1),
  ("EXPRSS", 1), ("TEST", 1), ("IDOCTYP", 30), ("CIMTYP", 30), ("MESTYP", 30), ("MESCOD", 3),
  ("MESFCT", 3), ("STD", 1), ("STDVRS", 6), ("STDMES", 6), ("SNDPOR", 10), ("SNDPRT", 2),
  ("SNDPFC", 2), ("SNDPRN", 10), ("SNDSAD", 21), ("SNDLAD", 70), ("RCVPOR", 10), ("RCVPRT", 2),
  ("RCVPFC", 2), ("RCVPRN", 10), ("RCVSAD", 21), ("RCVLAD", 70), ("CREDAT", 8), ("CRETIM", 6),
  ("REFINT", 14), ("REFGRP", 14), ("REFMES", 14), ("ARCKEY", 70), ("SERIAL", 20)]

/-- The name of the table that holds control records. -/
def controlTable : String := "EDI_DC40_U"

/-- The fields that follow the name of a segment in its records, and their lengths. -/
def adminFields : List (String × UInt32) :=
  [("MANDT", 3), ("DOCNUM", 16), ("SEGNUM", defaultLength), ("PSGNUM", defaultLength),
    ("HLEVEL", defaultLength)]

/-- The length of the name of a segment. -/
def nameLength : UInt32 := 30

/-- The attributes of a field. -/
def fixed (length : UInt32) : List (String × String) :=
  [("format", "fixed"), ("length", Text.decimal length.toNat)]

/-- A field with a value that tells the kind of its record. -/
def keyField (name : String) (length : UInt32) (value : String) : Xml :=
  .leaf name (fixed length ++ [("key", "true"), ("min", "1")]) value

/-- A field without a description. -/
def plainField (field : String × UInt32) : Xml :=
  .empty field.1 (fixed field.2)

/-- The control record. -/
def controlRecord : Xml :=
  .element "EDI_DC40" [("min", "1"), ("errorLevel", "true")]
    (keyField "TABNAM" 10 controlTable :: controlFields.map plainField)

/-- A field of a segment. -/
def fieldXml (field : Field) : Xml :=
  .empty field.name (fixed field.length ++
    if field.description = "" then [] else [("description", field.description)])

/-- A segment with its fields. -/
def segmentXml (segment typeName : String) (bound : MaxOccurs) (fields : List Field) : Xml :=
  .element typeName (Body.maxAttribute bound ++ [("errorLevel", "true")])
    (keyField "SEGNAM" nameLength segment :: (adminFields.map plainField ++ fields.map fieldXml))

/-- A group with its blocks. -/
def groupXml (group : String) (bound : MaxOccurs) (content : List Xml) : Xml :=
  .element (groupElement group) ([("format", "none")] ++ Body.maxAttribute bound) content

mutual
/-- A block as XML. -/
def Block.toXml : Block → Xml
  | .segment tag typeName bound fields => segmentXml tag typeName bound fields
  | .group name bound blocks => groupXml name bound (Block.allToXml blocks)

/-- Blocks as XML. -/
def Block.allToXml : List Block → List Xml
  | [] => []
  | block :: rest => block.toXml :: Block.allToXml rest
end

/-- The document of some blocks, with the name that its comment gives. -/
def documentOf (title : String) (blocks : List Block) : Xml :=
  .element "ixDOC" [("format", "variable"), ("end", "\\r\\n or \\n")] [
    .comment title,
    .element Dialect.idoc.wrapperName [("format", "none"), ("max", "n")]
      (controlRecord :: Block.allToXml blocks)]

end EdiSchema.Idoc
