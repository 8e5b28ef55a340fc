import Mathlib.Algebra.GroupWithZero.Nat
import EdiSchema.Batch.Inquiry

/-!
# Inquiries alone with a source

An inquiry that has a source for itself comes to the result that the compilation has, and asks for
the detail pages that the compilation asks for, in the same order. So a batch may be described by
inquiries, however their questions are mixed with those of others.
-/

namespace EdiSchema

namespace Inquiry

variable {α β : Type} (source : Source)

/-- What is known already is the result. -/
@[simp] theorem result_pure (value : α) : (pure value : Inquiry α).result source = value :=
  rfl

/-- What is known already needs no question. -/
@[simp] theorem questions_pure (value : α) : (pure value : Inquiry α).questions source = [] :=
  rfl

/-- The result of a question is the answer of the source. -/
@[simp] theorem result_question (asked : Question) :
    (question asked).result source = source.answer asked :=
  rfl

/-- A question asks itself and nothing else. -/
@[simp] theorem questions_question (asked : Question) :
    (question asked).questions source = [asked] :=
  rfl

/-- Going on with an inquiry goes on with its result. -/
@[simp] theorem result_bind (inquiry : Inquiry α) (further : α → Inquiry β) :
    (inquiry >>= further).result source = (further (inquiry.result source)).result source := by
  change (inquiry.bind further).result source = _
  induction inquiry with
  | done value => rfl
  | ask asked next ih => exact ih (source.answer asked)

/-- Going on with an inquiry asks its questions first. -/
@[simp] theorem questions_bind (inquiry : Inquiry α) (further : α → Inquiry β) :
    (inquiry >>= further).questions source =
      inquiry.questions source ++ (further (inquiry.result source)).questions source := by
  change (inquiry.bind further).questions source = _
  induction inquiry with
  | done value => rfl
  | ask asked next ih => exact congrArg (asked :: ·) (ih (source.answer asked))

/-- Changing the result of an inquiry changes only that. -/
@[simp] theorem result_map (f : α → β) (inquiry : Inquiry α) :
    (f <$> inquiry).result source = f (inquiry.result source) :=
  result_bind source inquiry (pure ∘ f)

/-- Changing the result of an inquiry leaves its questions. -/
@[simp] theorem questions_map (f : α → β) (inquiry : Inquiry α) :
    (f <$> inquiry).questions source = inquiry.questions source :=
  (questions_bind source inquiry (pure ∘ f)).trans (List.append_nil _)

end Inquiry

/-- The detail pages asked for are counted one for each tag. -/
theorem Question.sum_map_details (questions : List Question) :
    (questions.map details).sum = (questions.filterMap tag?).length := by
  induction questions with
  | nil => rfl
  | cons question rest ih =>
    rw [List.map_cons, List.sum_cons, ih, List.filterMap_cons, details]
    cases question.tag? with
    | none => simp
    | some tag => simp [Nat.add_comm]

variable (source : Source) (tabWidth : Nat)

/-- The detail that is inquired for is the one that the source has. -/
@[simp] theorem Detail.result_inquiry (revision tag : String) :
    (Detail.inquiry tabWidth revision tag).result source =
      source.detailOf tabWidth revision tag := by
  rw [Detail.inquiry, Inquiry.result_map, Inquiry.result_question, Source.detailOf, Source.answer]
  cases source.detail revision tag <;> rfl

/-- For a detail, one page is asked for. -/
@[simp] theorem Detail.questions_inquiry (revision tag : String) :
    (Detail.inquiry tabWidth revision tag).questions source = [.detail revision tag] := by
  rw [Detail.inquiry, Inquiry.questions_map, Inquiry.questions_question]

namespace Listing

/-- The details of some tags are those that the source has. -/
theorem result_detailsInquiry (revision : String) (tags : List String) :
    (detailsInquiry tabWidth revision tags).result source =
      tags.map fun tag => (tag, source.detailOf tabWidth revision tag) := by
  induction tags with
  | nil => rfl
  | cons tag rest ih => simp [detailsInquiry, ih]

/-- The details of some tags are asked for one after the other. -/
theorem questions_detailsInquiry (revision : String) (tags : List String) :
    (detailsInquiry tabWidth revision tags).questions source = tags.map (.detail revision) := by
  induction tags with
  | nil => rfl
  | cons tag rest ih => simp [detailsInquiry, ih]

/-- A listing is resolved with the details that the source has. -/
@[simp] theorem result_resolutionInquiry (listing : Listing) (revision : String) :
    (listing.resolutionInquiry tabWidth revision).result source =
      listing.resolve source tabWidth revision := by
  rw [resolutionInquiry, Inquiry.result_bind, result_detailsInquiry]
  rfl

/-- To resolve a listing, the page of each of its tags is asked for in order. -/
@[simp] theorem questions_resolutionInquiry (listing : Listing) (revision : String) :
    (listing.resolutionInquiry tabWidth revision).questions source =
      listing.tags.map (.detail revision) := by
  rw [resolutionInquiry, Inquiry.questions_bind, questions_detailsInquiry, Inquiry.questions_pure,
    List.append_nil]

end Listing

namespace Extraction

/-- A listing is resolved if the source has a page for it and that can be read. -/
theorem resolution_eq (request : Request) :
    resolution source tabWidth request =
      (listingOfAnswer (source.listing request.revision request.document)).map
        fun listing => listing.resolve source tabWidth request.revision := by
  rw [resolution]
  cases source.listing request.revision request.document with
  | error fault => rfl
  | ok markup =>
    rw [listingOfAnswer]
    change ((Listing.ofPage markup).mapError ExtractionFault.violation >>= _) = _
    cases Listing.ofPage markup <;> rfl

/-- An inquiry extracts what an extraction does. -/
@[simp] theorem result_inquiry (request : Request) :
    (inquiry tabWidth request).result source = run source tabWidth request := by
  rw [inquiry, run]
  split
  · simp [serviceInquiry, ofService]
  · rw [listingInquiry, Inquiry.result_bind, Inquiry.result_question, Source.answer, ofListing,
      resolution_eq]
    cases listingOfAnswer (source.listing request.revision request.document) with
    | error fault => rfl
    | ok listing =>
      simp only [Inquiry.result_bind, Inquiry.result_pure, Listing.result_resolutionInquiry]
      rfl

/-- An inquiry asks for the detail pages that an extraction asks for. -/
theorem filterMap_questions_inquiry (request : Request) :
    ((inquiry tabWidth request).questions source).filterMap Question.tag? =
      asked source tabWidth request := by
  rw [inquiry, asked]
  split
  · simp [serviceInquiry, Question.tag?]
  · rw [listingInquiry, Inquiry.questions_bind, Inquiry.questions_question, Inquiry.result_question,
      Source.answer, resolution_eq]
    cases listingOfAnswer (source.listing request.revision request.document) with
    | error fault => rfl
    | ok listing =>
      have htags : (listing.tags.map (Question.detail request.revision)).filterMap Question.tag? =
          listing.tags := by
        rw [List.filterMap_map]
        exact List.filterMap_some
      simp only [Inquiry.questions_bind, Inquiry.questions_pure, List.append_nil,
        Listing.questions_resolutionInquiry]
      exact htags

end Extraction

namespace Compilation

variable (settings : Settings) (request : Request)

/-- An inquiry comes to the result of the compilation. -/
theorem result_inquiry :
    (inquiry settings request).result source = run settings source request := by
  rw [inquiry, run]
  cases Dialect.ofName request.standard with
  | error name => rfl
  | ok dialect =>
    simp only [Inquiry.result_map, Extraction.result_inquiry]
    rfl

/-- An inquiry asks for as many detail pages as the compilation. -/
theorem sum_details_inquiry :
    (((inquiry settings request).questions source).map Question.details).sum =
      (asked settings source request).length := by
  rw [Question.sum_map_details, inquiry, asked]
  cases Dialect.ofName request.standard with
  | error name => rfl
  | ok dialect =>
    simp only [Inquiry.questions_map]
    rw [Extraction.filterMap_questions_inquiry]

end Compilation

end EdiSchema
