/-!
# Document types

A page may say in front which rules it is written by. Pages that say nothing, or name rules of old,
are odd: they are laid out, and to some degree read, as they used to be.
-/

namespace EdiSchema.Html

/-- Whether a character is blank in a page. -/
def isSpace (c : Char) : Bool :=
  c == ' ' || c == '\t' || c == '\n' || c == '\r' || c == '\x0c'

/-- Starts of public identifiers by which a page is odd, in lower case. -/
def oddPublicStarts : List String := [
  "-//advasoft ltd//dtd html 3.0 aswedit + extensions//",
  "-//as//dtd html 3.0 aswedit + extensions//",
  "-//ietf//dtd html 2.0 level 1//",
  "-//ietf//dtd html 2.0 level 2//",
  "-//ietf//dtd html 2.0 strict level 1//",
  "-//ietf//dtd html 2.0 strict level 2//",
  "-//ietf//dtd html 2.0 strict//",
  "-//ietf//dtd html 2.0//",
  "-//ietf//dtd html 2.1e//",
  "-//ietf//dtd html 3.0//",
  "-//ietf//dtd html 3.2 final//",
  "-//ietf//dtd html 3.2//",
  "-//ietf//dtd html 3//",
  "-//ietf//dtd html level 0//",
  "-//ietf//dtd html level 1//",
  "-//ietf//dtd html level 2//",
  "-//ietf//dtd html level 3//",
  "-//ietf//dtd html strict level 0//",
  "-//ietf//dtd html strict level 1//",
  "-//ietf//dtd html strict level 2//",
  "-//ietf//dtd html strict level 3//",
  "-//ietf//dtd html strict//",
  "-//ietf//dtd html//",
  "-//metrius//dtd metrius presentational//",
  "-//microsoft//dtd internet explorer 2.0 html strict//",
  "-//microsoft//dtd internet explorer 2.0 html//",
  "-//microsoft//dtd internet explorer 2.0 tables//",
  "-//microsoft//dtd internet explorer 3.0 html strict//",
  "-//microsoft//dtd internet explorer 3.0 html//",
  "-//microsoft//dtd internet explorer 3.0 tables//",
  "-//netscape comm. corp.//dtd html//",
  "-//netscape comm. corp.//dtd strict html//",
  "-//o'reilly and associates//dtd html 2.0//",
  "-//o'reilly and associates//dtd html extended 1.0//",
  "-//o'reilly and associates//dtd html extended relaxed 1.0//",
  "-//softquad software//dtd hotmetal pro 6.0::19990601::extensions to html 4.0//",
  "-//softquad//dtd hotmetal pro 4.0::19971010::extensions to html 4.0//",
  "-//spyglass//dtd html 2.0 extended//",
  "-//sq//dtd html 2.0 hotmetal + extensions//",
  "-//sun microsystems corp.//dtd hotjava html//",
  "-//sun microsystems corp.//dtd hotjava strict html//",
  "-//w3c//dtd html 3 1995-03-24//",
  "-//w3c//dtd html 3.2 draft//",
  "-//w3c//dtd html 3.2 final//",
  "-//w3c//dtd html 3.2//",
  "-//w3c//dtd html 3.2s draft//",
  "-//w3c//dtd html 4.0 frameset//",
  "-//w3c//dtd html 4.0 transitional//",
  "-//w3c//dtd html experimental 19960712//",
  "-//w3c//dtd html experimental 970421//",
  "-//w3c//dtd w3 html//",
  "-//w3o//dtd w3 html 3.0//",
  "-//webtechs//dtd mozilla html 2.0//",
  "-//webtechs//dtd mozilla html//"]

/-- Public identifiers by which a page is odd. -/
def oddPublicIds : List String :=
  ["-//w3o//dtd w3 html strict 3.0//en//", "-/w3c/dtd html 4.0 transitional/en", "html"]

/-- The system identifier by which a page is odd. -/
def oddSystemId : String :=
  "http://www.ibm.com/data/dtd/v11/ibmxhtml1-transitional.dtd"

/-- Starts of public identifiers by which a page is odd if it has no system identifier. -/
def loosePublicStarts : List String :=
  ["-//w3c//dtd html 4.01 frameset//", "-//w3c//dtd html 4.01 transitional//"]

/-- Whether the identifiers of a document type, in lower case, make a page odd. -/
def areOddIds (publicId systemId : Option (List Char)) : Bool :=
  let startsPublic (starts : List String) : Bool :=
    publicId.any fun id => starts.any fun start => start.toList.isPrefixOf id
  publicId.any (fun id => oddPublicIds.any fun odd => odd.toList == id) ||
    systemId == some oddSystemId.toList || startsPublic oddPublicStarts ||
    (systemId.isNone && startsPublic loosePublicStarts)

/-- An identifier in quotes in front, and the characters behind it. -/
def cutId? : List Char → Option (List Char × List Char)
  | [] => none
  | quote :: cs =>
    if quote = '"' ∨ quote = '\'' then
      match cs.span (· != quote) with
      | (id, _ :: rest) => some (id, rest)
      | (_, []) => none
    else none

/-- Whether identifiers make a page odd, given what follows the keyword of a public one; one that is
not finished always does. -/
def isOddPublic (cs : List Char) : Bool :=
  match cutId? (cs.dropWhile isSpace) with
  | none => true
  | some (publicId, rest) =>
    match rest.dropWhile isSpace with
    | [] => areOddIds (some publicId) none
    | rest =>
      match cutId? rest with
      | none => true
      | some (systemId, _) => areOddIds (some publicId) (some systemId)

/-- Whether an identifier makes a page odd, given what follows the keyword of a system one. -/
def isOddSystem (cs : List Char) : Bool :=
  match cutId? (cs.dropWhile isSpace) with
  | none => true
  | some (systemId, _) => areOddIds none (some systemId)

/-- Whether a document type, given what follows its keyword, is odd. -/
def isOddDoctype (cs : List Char) : Bool :=
  let (name, rest) := ((cs.map Char.toLower).dropWhile isSpace).span fun c => !isSpace c
  let rest := rest.dropWhile isSpace
  let keyword := rest.take 6
  if name != "html".toList then true
  else if rest.isEmpty then false
  else if keyword = "public".toList then isOddPublic (rest.drop 6)
  else if keyword = "system".toList then isOddSystem (rest.drop 6)
  else true

end EdiSchema.Html
