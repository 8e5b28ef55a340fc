import EdiSchema.Extraction
import EdiSchema.Proofs.Assembly.Placement
import EdiSchema.Proofs.Detail.Canonical
import EdiSchema.Proofs.Listing.Entry
import EdiSchema.Proofs.Steps
import EdiSchema.Proofs.Text.Case

/-!
# Extracted messages are canonical

Every entry of an extracted message can be saved and loaded as what it is. The stages of an
extraction each contribute one part of this: the listing admits only tags of three capital letters,
detail texts give canonical items, and assembly makes nodes of markers without changing either.
Lower bounds are those that the requirements imply.

A document that is a single segment has one of the tags of service segments, whatever the case of
its name is.
-/

namespace EdiSchema

open Steps

/-- Whether an entry is canonical does not depend on its children. -/
theorem Node.canonical_bare (node : Node) : node.bare.Canonical ↔ node.Canonical := by
  cases node <;> exact Iff.rfl

/-- The entries of an assembled tree are canonical if the nodes of the markers are. -/
theorem Assembly.canonical_of_assemble {markers : List ResolvedMarker} {hierarchy : Hierarchy}
    {nodes : List Node} (hassemble : assemble markers hierarchy = .ok nodes)
    (hmarkers : ∀ marker ∈ markers, (nodeOf marker).Canonical) :
    ∀ entry ∈ Node.walkAll 0 nodes, entry.1.Canonical := by
  intro entry hentry
  have hbare : entry.1.bare ∈ markers.map nodeOf :=
    (map_bare_walkAll_assemble hassemble).mem_iff.1 (List.mem_map_of_mem hentry)
  obtain ⟨marker, hmarker, hnode⟩ := List.mem_map.1 hbare
  rw [← Node.canonical_bare, ← hnode]
  exact hmarkers marker hmarker

namespace Listing

/-- Three capital letters are no group code. -/
theorem not_isCode_of_isSegmentTag {tag : String} (htag : isSegmentTag tag.toList = true) :
    ¬ Group.IsCode tag := by
  rintro ⟨digits, hdigits, hall, hcode⟩
  obtain ⟨digit, rest, rfl⟩ := List.exists_cons_of_ne_nil hdigits
  have hdigit := (Text.isDigit_iff_toNat digit).1 (hall digit List.mem_cons_self)
  simp only [isSegmentTag, hcode, Bool.and_eq_true, List.all_eq_true] at htag
  have hupper := (Text.isUpper_iff_toNat digit).1 (htag.2 digit (by simp))
  omega

/-- The tag of an entry that is a segment is three capital letters. -/
theorem isSegmentTag_of_ofPlace {index : ℕ} {place : Html.Place} {s : SegmentMarker}
    (hentry : Entry.ofPlace index place = .segment s) : isSegmentTag s.tag.toList = true := by
  unfold Entry.ofPlace at hentry
  dsimp only at hentry
  split at hentry
  · simp at hentry
  · split at hentry
    · simp [skipped] at hentry
    · split at hentry
      · simp [skipped] at hentry
      · next htag =>
        obtain rfl := Entry.segment.inj hentry
        simpa using htag

/-- The segments of a listing have tags of three capital letters. -/
theorem isSegmentTag_of_mem_markers {markup : String} {listing : Listing}
    (hlisting : ofPage markup = .ok listing) {s : SegmentMarker}
    (hs : .segment s ∈ listing.markers) : isSegmentTag s.tag.toList = true := by
  obtain ⟨place, -, hentry⟩ := exists_place_of_mem_markers hlisting hs
  exact isSegmentTag_of_ofPlace (Entry.eq_segment_of_marker? hentry)

end Listing

/-- The items of a segment are canonical, whatever its page says. -/
theorem Source.detailOf_canonical (source : Source) (tabWidth : ℕ) (revision tag : String) :
    ∀ item ∈ (source.detailOf tabWidth revision tag).items, item.Canonical := by
  unfold detailOf
  split
  · exact Detail.ofText_canonical _ _ _
  · simp

namespace Extraction

/-- Segments have canonical items if their details do. -/
theorem canonical_of_lookup {details : List (String × Detail)}
    (hdetails : ∀ entry ∈ details, ∀ item ∈ entry.2.items, item.Canonical) (tag : String) :
    ∀ item ∈ ((details.lookup tag).getD {}).items, item.Canonical := by
  cases hlookup : details.lookup tag with
  | none => simp
  | some detail =>
    obtain ⟨front, back, rfl, -⟩ := List.lookup_eq_some_iff.1 hlookup
    exact hdetails (tag, detail) (by simp)

/-- The markers of a resolved listing have canonical nodes. -/
theorem nodeOf_canonical_of_resolution {source : Source} {tabWidth : ℕ} {request : Request}
    {resolved : Resolution} (hresolved : resolution source tabWidth request = .ok resolved) :
    ∀ marker ∈ resolved.markers, (Assembly.nodeOf marker).Canonical := by
  simp only [resolution, bind_eq_ok_iff, mapError_eq_ok_iff, pure_eq_ok_iff] at hresolved
  obtain ⟨markup, -, listing, hlisting, rfl⟩ := hresolved
  intro marker hmarker
  obtain ⟨unresolved, hunresolved, rfl⟩ := List.mem_map.1 hmarker
  cases unresolved with
  | group g => exact UInt32.le_refl _
  | segment s =>
    have htag := Listing.isSegmentTag_of_mem_markers hlisting hunresolved
    refine ⟨Listing.not_isCode_of_isSegmentTag htag, UInt32.le_refl _, ?_⟩
    refine canonical_of_lookup (fun entry hentry => ?_) s.tag
    obtain ⟨tag, -, rfl⟩ := List.mem_map.1 hentry
    exact source.detailOf_canonical tabWidth request.revision tag

/-- A document that is a single segment has a service tag as its upper case. -/
theorem upper_mem_serviceTags {document : String} (hservice : isService document = true) :
    Text.upper document ∈ serviceTags := by
  obtain ⟨tag, htag, hsame⟩ := List.any_eq_true.1 hservice
  have hcapitals : ∀ tag ∈ serviceTags, tag.toList.all Char.isUpper = true := by
    decide
  rwa [Text.upper_of_sameIgnoringCase (List.all_eq_true.1 (hcapitals tag htag)) hsame]

/-- A service segment is canonical. -/
theorem serviceSegment_canonical {tag : String} (htag : tag ∈ serviceTags) {items : List Item}
    (hitems : ∀ item ∈ items, item.Canonical) : (serviceSegment tag items).Canonical := by
  have hcapitals : ∀ tag ∈ serviceTags, Listing.isSegmentTag tag.toList = true := by
    decide
  exact ⟨Listing.not_isCode_of_isSegmentTag (hcapitals tag htag), UInt32.le_refl _, hitems⟩

/-- A successful extraction is that of a service segment, or assembles a resolved listing. -/
theorem run_eq_ok_iff {source : Source} {tabWidth : ℕ} {request : Request}
    {extraction : Extraction} :
    run source tabWidth request = .ok extraction ↔
      (isService request.document = true ∧ extraction = ofService source tabWidth request) ∨
      (isService request.document = false ∧ ∃ resolved nodes,
        resolution source tabWidth request = .ok resolved ∧
        Assembly.assemble resolved.markers resolved.hierarchy = .ok nodes ∧
        extraction = ⟨messageOf request nodes, resolved.skips⟩) := by
  unfold run
  cases hservice : isService request.document with
  | true => simp [eq_comm]
  | false =>
    simp only [Bool.false_eq_true, if_false, false_and, false_or, true_and, ofListing,
      bind_eq_ok_iff, mapError_eq_ok_iff, pure_eq_ok_iff, Assembly.message_assemble_eq,
      map_eq_ok_iff]
    constructor
    · rintro ⟨resolved, hresolved, message, ⟨nodes, hnodes, rfl⟩, rfl⟩
      exact ⟨resolved, nodes, hresolved, hnodes, rfl⟩
    · rintro ⟨resolved, nodes, hresolved, hnodes, rfl⟩
      exact ⟨resolved, hresolved, _, ⟨nodes, hnodes, rfl⟩, rfl⟩

/-- An extracted message is the one that was asked for. -/
theorem message_eq_messageOf {source : Source} {tabWidth : ℕ} {request : Request}
    {extraction : Extraction} (hrun : run source tabWidth request = .ok extraction) :
    extraction.message = messageOf request extraction.message.nodes := by
  rcases run_eq_ok_iff.1 hrun with ⟨-, rfl⟩ | ⟨-, resolved, nodes, -, -, rfl⟩
  · rfl
  · rfl

/-- The entries of an extracted message are canonical. -/
theorem run_canonical {source : Source} {tabWidth : ℕ} {request : Request}
    {extraction : Extraction} (hrun : run source tabWidth request = .ok extraction) :
    ∀ entry ∈ extraction.message.walk, entry.1.Canonical := by
  rcases run_eq_ok_iff.1 hrun with ⟨hservice, rfl⟩ | ⟨-, resolved, nodes, hresolved, hnodes, rfl⟩
  · intro entry hentry
    obtain rfl := List.mem_singleton.1 hentry
    exact serviceSegment_canonical (upper_mem_serviceTags hservice)
      (source.detailOf_canonical tabWidth request.revision _)
  · exact Assembly.canonical_of_assemble hnodes (nodeOf_canonical_of_resolution hresolved)

end Extraction

end EdiSchema
