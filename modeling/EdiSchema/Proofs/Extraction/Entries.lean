import Mathlib
import EdiSchema.Proofs.Attribute.Position
import EdiSchema.Proofs.Extraction.Canonical
import EdiSchema.Proofs.Listing.Entry

/-!
# The entries of an extracted message

Extraction loses no entry of a directory page and uses none twice. Each stage keeps the numbers of
the entries: the listing gives every entry a marker or a skip, resolving leaves both as they are,
and assembly makes one node of each marker. The position of a node is that of its entry, so siblings
in the order of their entries have increasing positions.
-/

namespace EdiSchema.Extraction

open Steps

/-- The positions of the segments and groups of an extracted message, depth first. -/
def positions (extraction : Extraction) : List String :=
  extraction.message.walk.map fun entry => entry.1.position

/-- The numbers of the entries that were left out. -/
def droppedEntries (extraction : Extraction) : List ℕ :=
  (extraction.skips.filter fun skip => Listing.IsEntrySkip skip).map Skip.index

/-- Whether a box names an entry of a message: a group by the code in its title, a segment by the
text of its links. -/
def NamedBy (place : Html.Place) : Node → Prop
  | .group g _ => Listing.groupCode? (Listing.titleOf place) = some g.code
  | .segment s => Listing.groupCode? (Listing.titleOf place) = none ∧
      s.tag = String.ofList (Listing.tagOf place)

/-- What an extraction says about the boxes of a page. -/
structure AccountsFor (places : List Html.Place) (extraction : Extraction) : Prop where
  /-- Every box has one node, or one skip and no node. -/
  once : ∀ index < places.length,
    extraction.positions.count (Position.listing index) +
      extraction.droppedEntries.count index = 1
  /-- Every node is of a box, and is named by it. -/
  named : ∀ entry ∈ extraction.message.walk, ∃ index place, places[index]? = some place ∧
    entry.1.position = Position.listing index ∧ NamedBy place entry.1
  /-- Every skip of an entry is of a box. -/
  dropped : ∀ index ∈ extraction.droppedEntries, index < places.length
  total : extraction.message.count + extraction.droppedEntries.length = places.length
  /-- Siblings stand in the order of their positions, read as numbers. -/
  ordered : ∀ family ∈ extraction.message.families,
    (family.2.map fun node => Position.number node.position).Pairwise (· < ·)

section

variable {markers : List ResolvedMarker} {hierarchy : Hierarchy} {nodes : List Node}

/-- The positions in an assembled tree are those of the markers. -/
theorem map_position_walkAll_perm (hnodes : Assembly.assemble markers hierarchy = .ok nodes) :
    ((Node.walkAll 0 nodes).map fun entry => entry.1.position).Perm
      ((markers.map ResolvedMarker.index).map Position.listing) := by
  have hbare := (Assembly.map_bare_walkAll_assemble hnodes).map Node.position
  simpa only [List.map_map, Function.comp_def, Node.position_bare, Assembly.position_nodeOf]
    using hbare

/-- Siblings in a tree of markers with different indices have increasing positions. -/
theorem pairwise_number_of_mem_families
    (hnodes : Assembly.assemble markers hierarchy = .ok nodes)
    (hindices : (markers.map ResolvedMarker.index).Nodup) {family : Option String × List Node}
    (hfamily : family ∈ (none, nodes) :: Node.familiesAll nodes) :
    (family.2.map fun node => Position.number node.position).Pairwise (· < ·) := by
  obtain ⟨own, harranged⟩ := (Assembly.families_assemble hnodes).1 family hfamily
  have hnumbers : (family.2.map fun node => Position.number node.position) =
      (own.map ResolvedMarker.index).map fun index => (index + 1) * Position.step := by
    have hpositions := congrArg (List.map Position.number) harranged.positions
    simpa only [List.map_map, Function.comp_def, Position.number_listing] using hpositions
  have hdistinct : (own.map ResolvedMarker.index).Nodup := by
    rw [(harranged.members.map ResolvedMarker.index).nodup_iff]
    exact hindices.sublist (List.filter_sublist.map ResolvedMarker.index)
  have hstrict : (own.map ResolvedMarker.index).Pairwise (· < ·) := by
    have hordered := List.pairwise_map.2 harranged.ordered
    exact (hordered.and hdistinct).imp fun h => Nat.lt_of_le_of_ne h.1 h.2
  rw [hnumbers, List.pairwise_map]
  apply hstrict.imp
  intro first second hlt
  rw [Position.step]
  omega

end

/-- An extraction that is not of a service segment assembles the markers of a listing on the page
of its document. -/
theorem exists_listing_of_run {source : Source} {tabWidth : ℕ} {request : Request}
    {extraction : Extraction} (hservice : isService request.document = false)
    (hrun : run source tabWidth request = .ok extraction) :
    ∃ markup listing nodes, source.listing request.revision request.document = .ok markup ∧
      Listing.ofPage markup = .ok listing ∧
      Assembly.assemble (listing.resolve source tabWidth request.revision).markers
        (listing.resolve source tabWidth request.revision).hierarchy = .ok nodes ∧
      extraction = ⟨messageOf request nodes,
        (listing.resolve source tabWidth request.revision).skips⟩ := by
  rcases run_eq_ok_iff.1 hrun with ⟨htrue, -⟩ | ⟨-, resolved, nodes, hresolved, hnodes, hextraction⟩
  · simp [hservice] at htrue
  · simp only [resolution, bind_eq_ok_iff, mapError_eq_ok_iff, pure_eq_ok_iff] at hresolved
    obtain ⟨markup, hmarkup, listing, hlisting, rfl⟩ := hresolved
    exact ⟨markup, listing, nodes, hmarkup, hlisting, hnodes, hextraction⟩

/-- Whether a box names an entry does not depend on the entry's children. -/
theorem namedBy_bare (place : Html.Place) (node : Node) :
    NamedBy place node.bare ↔ NamedBy place node := by
  cases node <;> exact Iff.rfl

/-- The node of a marker in a listing is named by the box that the marker is of. -/
theorem exists_place_of_mem_resolve {page : Html.Node} {listing : Listing}
    (hlisting : Listing.ofPageTree page = .ok listing) {source : Source} {tabWidth : ℕ}
    {revision : String} {marker : ResolvedMarker}
    (hmarker : marker ∈ (listing.resolve source tabWidth revision).markers) :
    ∃ place, (Listing.entryPlaces page)[marker.index]? = some place ∧
      NamedBy place (Assembly.nodeOf marker) := by
  obtain ⟨unresolved, hunresolved, rfl⟩ := List.mem_map.1 hmarker
  obtain ⟨place, hplace, hentry⟩ := Listing.exists_place_of_mem_markers hlisting hunresolved
  cases unresolved with
  | segment s =>
    have hsegment := Listing.Entry.eq_segment_of_marker? hentry
    exact ⟨place, hplace, (Listing.Entry.named_ofPlace _ place).2 s hsegment⟩
  | group g =>
    obtain ⟨parent, hgroup⟩ := Listing.Entry.exists_eq_group_of_marker? hentry
    exact ⟨place, hplace, (Listing.Entry.named_ofPlace _ place).1 g parent hgroup⟩

/-- Every box of the page of a document is accounted for once by what is extracted from it: as the
one node at its position, which it names, or as the one skip with its number. -/
theorem run_accountsFor {source : Source} {tabWidth : ℕ} {request : Request}
    {extraction : Extraction} (hservice : isService request.document = false)
    (hrun : run source tabWidth request = .ok extraction) :
    ∃ markup, source.listing request.revision request.document = .ok markup ∧
      AccountsFor (Listing.entryPlaces (.ofPage markup)) extraction := by
  obtain ⟨markup, listing, nodes, hmarkup, hlisting, hnodes, rfl⟩ :=
    exists_listing_of_run hservice hrun
  refine ⟨markup, hmarkup, ?_⟩
  let resolved := listing.resolve source tabWidth request.revision
  let extraction : Extraction := ⟨messageOf request nodes, resolved.skips⟩
  have hindices : resolved.markers.map ResolvedMarker.index = listing.markers.map Marker.index :=
    Listing.map_index_resolve listing source tabWidth request.revision
  have hpositions : extraction.positions.Perm
      ((listing.markers.map Marker.index).map Position.listing) := by
    rw [← hindices]
    exact map_position_walkAll_perm hnodes
  have hdropped : extraction.droppedEntries = listing.skips.map Skip.index := by
    have hfilter := Listing.filter_isEntrySkip_resolve
      (Listing.isEntrySkip_of_mem_skips hlisting) source tabWidth request.revision
    exact congrArg (List.map Skip.index) hfilter
  have hperm : (listing.markers.map Marker.index ++ extraction.droppedEntries).Perm
      (List.range (Listing.entryPlaces (.ofPage markup)).length) := by
    rw [hdropped]
    exact Listing.markers_append_skips_ofPageTree_perm hlisting
  constructor
  · intro index hindex
    rw [hpositions.count_eq, List.count_map_of_injective _ _ Position.listing_injective,
      ← List.count_append, hperm.count_eq]
    exact List.count_eq_one_of_mem List.nodup_range (List.mem_range.2 hindex)
  · intro entry hentry
    have hbare := (Assembly.map_bare_walkAll_assemble hnodes).mem_iff.1
      (List.mem_map_of_mem hentry)
    obtain ⟨marker, hmarker, hnode⟩ := List.mem_map.1 hbare
    obtain ⟨place, hplace, hnamed⟩ := exists_place_of_mem_resolve hlisting hmarker
    refine ⟨marker.index, place, hplace, ?_, ?_⟩
    · rw [← Node.position_bare, ← hnode, Assembly.position_nodeOf]
    · rw [← namedBy_bare, ← hnode]
      exact hnamed
  · intro index hindex
    exact List.mem_range.1 (hperm.mem_iff.1 (List.mem_append_right _ hindex))
  · have hcount : extraction.message.count = (listing.markers.map Marker.index).length := by
      have hlength := hpositions.length_eq
      rw [List.length_map] at hlength
      rw [← hlength, positions, List.length_map]
      exact (Node.length_walkAll 0 nodes).symm
    have htotal := hperm.length_eq
    rw [List.length_append, List.length_range] at htotal
    rw [hcount, htotal]
  · intro family hfamily
    apply pairwise_number_of_mem_families hnodes _ hfamily
    rw [hindices]
    exact (List.nodup_append.1 (hperm.nodup_iff.2 List.nodup_range)).1

/-- A group whose box holds another box, which is left out. -/
theorem run_accountsFor_nested :
    let page := "<div class=isotope-container><h3>SG1</h3><p class=isotope-container>A"
    let source : Source := .ofPages [⟨"D97A", "ORDERS", page⟩] []
    let request : Request := ⟨"EDIFACT", "D97A", "ORDERS"⟩
    ∃ extraction, isService request.document = false ∧
      run source 3 request = .ok extraction ∧
      ∃ markup, source.listing request.revision request.document = .ok markup ∧
        AccountsFor (Listing.entryPlaces (.ofPage markup)) extraction := by
  intro page source request
  let listing : Listing := {
    markers := [.group ⟨"SG1", .one, "A", 0⟩]
    skips := [⟨"listing", 1, "", .unrecognizedEntry⟩] }
  let group : Group := {
    maxOccurs := some .one
    position := "0010"
    code := "SG1"
    name := "SG1"
    description := "A" }
  have hlisting : Listing.ofPage page = .ok listing := by
    subst page listing
    cbv
  have hassemble : Assembly.assemble (listing.resolve source 3 request.revision).markers
      .empty = .ok [.group group []] := by cbv
  have hresolution : resolution source 3 request =
      .ok (listing.resolve source 3 request.revision) := by
    simp only [resolution, bind_eq_ok_iff, mapError_eq_ok_iff, pure_eq_ok_iff]
    exact ⟨page, by decide, listing, hlisting, rfl⟩
  have hservice : isService request.document = false := by decide +kernel
  have hrun := run_eq_ok_iff.2 (.inr ⟨hservice, _, _, hresolution, hassemble, rfl⟩)
  exact ⟨_, hservice, hrun, run_accountsFor hservice hrun⟩

end EdiSchema.Extraction
