import EdiSchema.Descriptor.Dialect

/-!
# Names of descriptors

The names of the files and references of a descriptor, derived from the message it describes.
-/

namespace EdiSchema.Naming

/-- The name of a message without its last character, which tells its version. -/
def reference (document : String) : String :=
  String.ofList document.toList.dropLast

/-- The file name of a descriptor. -/
def fileName (dialect : Dialect) (standard revision document : String) : String :=
  match dialect with
  | .idoc => "DN__IDoc-Fixed-" ++ document ++ "-" ++ reference document ++ ".xml"
  | _ => "DN__" ++ standard ++ "-" ++ revision ++ "-" ++ document ++ ".xml"

/-- The path of the body of a message below the root of fragments. -/
def bodyPath (dialect : Dialect) (revision document : String) : String :=
  match dialect with
  | .idoc => dialect.folder ++ "/" ++ Text.upper document ++ ".xml"
  | _ => dialect.folder ++ "/" ++ Text.upper revision ++ "/" ++ Text.upper document ++ ".xml"

/-- The name under which an interchange refers to the body of a message. -/
def bodyEntity (dialect : Dialect) (document : String) : String :=
  (dialect.interchange?.elim "" Interchange.lead) ++ document

end EdiSchema.Naming
