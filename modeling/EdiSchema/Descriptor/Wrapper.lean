import EdiSchema.Descriptor.Naming
import EdiSchema.Descriptor.Options
import EdiSchema.Xml.Node

/-!
# Wrappers of delimited messages

The descriptor of a delimited message holds no body. It declares the fragments of an interchange
and the body as entities, each with the path of its file, and refers to them in order.
-/

namespace EdiSchema.Wrapper

/-- A fragment that a wrapper declares. -/
structure Entity where
  name : String
  path : String
  deriving DecidableEq

/-- A path without the slashes at its end. -/
def trimSlashes (path : String) : String :=
  String.ofList (path.toList.reverse.dropWhile (· == '/')).reverse

/-- The entity of a fragment of the interchange. -/
def fragment (root : String) (dialect : Dialect) (name : String) : Entity :=
  ⟨name, root ++ "/" ++ dialect.folder ++ "/" ++ name ++ ".xml"⟩

/-- The entity of the body of a message. -/
def body (root : String) (dialect : Dialect) (revision document : String) : Entity :=
  ⟨Naming.bodyEntity dialect document, root ++ "/" ++ Naming.bodyPath dialect revision document⟩

/-- The entities of an interchange in the order in which they are referred to. -/
def entities (dialect : Dialect) (interchange : Interchange) (root revision document : String) :
    List Entity :=
  interchange.header.map (fragment root dialect) ++ [body root dialect revision document] ++
    interchange.trailer.map (fragment root dialect)

/-- The line that declares an entity. -/
def declare (entity : Entity) : String :=
  "    <!ENTITY " ++ entity.name ++ " SYSTEM \"" ++ entity.path ++ "\">"

/-- The line that refers to an entity. -/
def refer (entity : Entity) : String :=
  "        &" ++ entity.name ++ ";"

/-- The line that opens the descriptor and names the separators. -/
def opening (separators : Separators) : String :=
  "<ixDOC format=\"variable\" segChar=\"" ++ separators.segment ++ "\" elChar=\"" ++
    separators.element ++ "\" compChar=\"" ++ separators.component ++
    "\" emptyEnd=\"true\" lastEnd=\"false\">"

/-- The lines of a wrapper with some entities. -/
def lines (dialect : Dialect) (separators : Separators) (entities : List Entity) : List String :=
  [Xml.declaration, "<!DOCTYPE doc ["] ++ entities.map declare ++ ["]>", opening separators,
    "    <" ++ dialect.wrapperName ++ " format=\"none\" max=\"n\">"] ++ entities.map refer ++
    ["    </" ++ dialect.wrapperName ++ ">", "</ixDOC>"]

/-- The wrapper of a message. -/
def text (dialect : Dialect) (interchange : Interchange) (options : DescriptorOptions)
    (revision document : String) : String :=
  String.ofList ((lines dialect interchange.separators
    (entities dialect interchange (trimSlashes options.fragmentRoot) revision document)).flatMap
    fun line => line.toList ++ ['\n'])

end EdiSchema.Wrapper
