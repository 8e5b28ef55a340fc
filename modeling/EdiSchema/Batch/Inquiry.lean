import EdiSchema.Compilation

/-!
# Inquiries

A compilation cut at its questions. An inquiry either has its result, or asks the source for one
page and goes on with the answer; which page is asked for next may depend on the answers so far.

Between two questions a compilation shares nothing with others, so a batch is described by the
order in which the questions of its requests reach the source.
-/

namespace EdiSchema

/-- A question for a page. -/
inductive Question where
  | listing (revision document : String)
  | detail (revision tag : String)
  deriving DecidableEq

/-- What a source answers to a question. -/
abbrev Answer := Except SourceFault String

namespace Question

/-- The tag whose detail page is asked for. -/
def tag? : Question → Option String
  | .listing _ _ => none
  | .detail _ tag => some tag

/-- The number of detail pages that a question asks for. -/
def details (question : Question) : Nat :=
  if question.tag?.isSome then 1 else 0

end Question

/-- The answer of a source to a question. -/
def Source.answer (source : Source) : Question → Answer
  | .listing revision document => source.listing revision document
  | .detail revision tag => source.detail revision tag

/-- Work that stops wherever it needs a page. -/
inductive Inquiry (α : Type) where
  | done (result : α)
  | ask (question : Question) (next : Answer → Inquiry α)

namespace Inquiry

variable {α β : Type}

/-- Goes on with the result of an inquiry. -/
def bind : Inquiry α → (α → Inquiry β) → Inquiry β
  | .done result, further => further result
  | .ask question next, further => .ask question fun answer => (next answer).bind further

instance : Monad Inquiry where
  pure := .done
  bind := bind

/-- The inquiry that asks one question. -/
def question (question : Question) : Inquiry Answer :=
  .ask question .done

/-- The result of an inquiry with a source that nobody else asks. -/
def result (source : Source) : Inquiry α → α
  | .done result => result
  | .ask question next => (next (source.answer question)).result source

/-- The questions of an inquiry to a source that nobody else asks. -/
def questions (source : Source) : Inquiry α → List Question
  | .done _ => []
  | .ask question next => question :: (next (source.answer question)).questions source

end Inquiry

/-- The detail on the page that a source answers with, empty if it cannot supply the page. -/
def Detail.ofAnswer (tabWidth : Nat) (tag : String) : Answer → Detail
  | .ok markup => Detail.ofText tabWidth tag (Detail.textOfPage markup)
  | .error _ => {}

/-- Asks for the detail of a segment. -/
def Detail.inquiry (tabWidth : Nat) (revision tag : String) : Inquiry Detail :=
  Detail.ofAnswer tabWidth tag <$> Inquiry.question (.detail revision tag)

namespace Listing

/-- Asks for the details of some tags, one after the other. -/
def detailsInquiry (tabWidth : Nat) (revision : String) :
    List String → Inquiry (List (String × Detail))
  | [] => return []
  | tag :: rest => do
    let detail ← Detail.inquiry tabWidth revision tag
    let others ← detailsInquiry tabWidth revision rest
    return (tag, detail) :: others

/-- Asks for the detail pages of a listing, each once, and gives its segments their items. -/
def resolutionInquiry (listing : Listing) (tabWidth : Nat) (revision : String) :
    Inquiry Resolution := do
  let details ← detailsInquiry tabWidth revision listing.tags
  return {
    markers := listing.markers.map (resolveMarker details)
    hierarchy := listing.hierarchy
    skips := listing.skips ++ details.flatMap fun entry => entry.2.skips
    asked := listing.tags }

end Listing

namespace Extraction

/-- Asks for the page of a document that is a single segment. -/
def serviceInquiry (tabWidth : Nat) (request : Request) : Inquiry Extraction := do
  let tag := Text.upper request.document
  let detail ← Detail.inquiry tabWidth request.revision tag
  return ⟨messageOf request [.segment (serviceSegment tag detail.items)], detail.skips⟩

/-- The listing on the page that a source answers with. -/
def listingOfAnswer : Answer → Except ExtractionFault Listing
  | .error fault => .error (.source fault)
  | .ok markup => (Listing.ofPage markup).mapError .violation

/-- The message of a resolved listing. -/
def ofResolution (request : Request) (resolved : Resolution) :
    Except ExtractionFault Extraction := do
  let message ← ((messageOf request []).assemble resolved.markers resolved.hierarchy).mapError
    .violation
  return ⟨message, resolved.skips⟩

/-- Asks for the listing of a document and then for the pages of its segments. -/
def listingInquiry (tabWidth : Nat) (request : Request) :
    Inquiry (Except ExtractionFault Extraction) := do
  let answer ← Inquiry.question (.listing request.revision request.document)
  match listingOfAnswer answer with
  | .error fault => return .error fault
  | .ok listing =>
    let resolved ← listing.resolutionInquiry tabWidth request.revision
    return ofResolution request resolved

/-- Asks for the pages of a request. -/
def inquiry (tabWidth : Nat) (request : Request) : Inquiry (Except ExtractionFault Extraction) :=
  if isService request.document then .ok <$> serviceInquiry tabWidth request
  else listingInquiry tabWidth request

end Extraction

namespace Compilation

/-- The compilation of a request whose message has been extracted for a dialect. -/
def ofExtraction (settings : Settings) (dialect : Dialect)
    (extraction : Except ExtractionFault Extraction) : Except CompilationFault Compilation := do
  let extraction ← extraction.mapError .extraction
  let descriptor ←
    (Descriptor.ofMessage dialect settings.descriptorOptions extraction.message).mapError .descriptor
  return ⟨extraction.message, descriptor, extraction.skips.length⟩

/-- Compiles a request with the pages that it asks for; nothing is asked for a standard that names
no dialect. -/
def inquiry (settings : Settings) (request : Request) :
    Inquiry (Except CompilationFault Compilation) :=
  match Dialect.ofName request.standard with
  | .error name => .done (.error (.dialect name))
  | .ok dialect => ofExtraction settings dialect <$> Extraction.inquiry settings.tabWidth request

end Compilation

end EdiSchema
