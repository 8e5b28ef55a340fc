import EdiSchema.Assembly
import EdiSchema.Listing.Resolution
import EdiSchema.Text.Case

/-!
# Extraction

The structure of a message is extracted from the pages of a source: the listing is read, its
segments get their items, and the markers are assembled. A document named like a service segment
is that one segment, and needs no listing.
-/

namespace EdiSchema

/-- Which message of which revision of a standard's directory is asked for. -/
structure Request where
  standard : String
  revision : String
  document : String
  deriving DecidableEq

/-- A message with what was left out on the way. -/
structure Extraction where
  message : Message
  skips : List Skip

/-- Why a message cannot be extracted. -/
inductive ExtractionFault where
  | source (fault : SourceFault)
  | violation (violation : Violation)
  deriving DecidableEq

/-- The wording of a fault. -/
def ExtractionFault.message : ExtractionFault → String
  | .source e => e.message
  | .violation e => e.message

namespace Extraction

/-- The documents that are a single segment. -/
def serviceTags : List String := ["UNH", "UNT", "BGM", "DTM"]

/-- Whether a document is a single segment. -/
def isService (document : String) : Bool :=
  serviceTags.any fun tag => Text.sameIgnoringCase tag document

/-- The message of a request with its nodes. -/
def messageOf (request : Request) (nodes : List Node) : Message :=
  ⟨request.standard, request.revision, request.document, nodes⟩

/-- The segment of a document that is a single one. -/
def serviceSegment (tag : String) (items : List Item) : Segment where
  minOccurs := Requirement.mandatory.minOccurs
  maxOccurs := .bounded 1
  position := Position.listing 0
  tag := tag
  name := tag
  description := "Service segment " ++ tag
  requirement := .mandatory
  items := items

/-- Extracts a document that is a single segment. -/
def ofService (source : Source) (tabWidth : Nat) (request : Request) : Extraction :=
  let tag := Text.upper request.document
  let detail := source.detailOf tabWidth request.revision tag
  ⟨messageOf request [.segment (serviceSegment tag detail.items)], detail.skips⟩

/-- The resolved listing of a document. -/
def resolution (source : Source) (tabWidth : Nat) (request : Request) :
    Except ExtractionFault Resolution := do
  let markup ← (source.listing request.revision request.document).mapError .source
  let listing ← (Listing.ofPage markup).mapError .violation
  return listing.resolve source tabWidth request.revision

/-- Extracts a document that has a listing. -/
def ofListing (source : Source) (tabWidth : Nat) (request : Request) :
    Except ExtractionFault Extraction := do
  let resolved ← resolution source tabWidth request
  let message ← ((messageOf request []).assemble resolved.markers resolved.hierarchy).mapError
    .violation
  return ⟨message, resolved.skips⟩

/-- Extracts the message of a request. -/
def run (source : Source) (tabWidth : Nat) (request : Request) :
    Except ExtractionFault Extraction :=
  if isService request.document then .ok (ofService source tabWidth request)
  else ofListing source tabWidth request

/-- The tags that an extraction asks the source for, in order. -/
def asked (source : Source) (tabWidth : Nat) (request : Request) : List String :=
  if isService request.document then [Text.upper request.document]
  else match resolution source tabWidth request with
    | .ok resolved => resolved.asked
    | .error _ => []

end Extraction

end EdiSchema
