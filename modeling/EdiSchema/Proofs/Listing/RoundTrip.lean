import EdiSchema.Proofs.Assembly.Restoration
import EdiSchema.Proofs.Listing.Distinct
import EdiSchema.Proofs.Listing.Entry
import EdiSchema.Proofs.Listing.Links
import EdiSchema.Proofs.Listing.Reading

/-!
# Messages laid out and read back

A message that is laid out on a directory page is extracted from it again. The entries of the page
are those of the message in the order in which it is walked, each with the group around it, so
their markers are assembled to the message.

The items of the segments are not on the page. They come from the details that the source supplies,
and so does what is left out there.
-/

namespace EdiSchema.Listing

open Layout

section Entries

variable (items : String → List Item)

/-- The marker of a listing with the items of a segment given by its tag. -/
def withItems : Marker → ResolvedMarker
  | .group g => .group g
  | .segment s => .segment s (items s.tag)

/-- The node of an entry without children, with the group around it. -/
def Entry.placement? : Entry → Option (Option String × Node)
  | .group g parent => some (parent, Assembly.nodeOf (.group g))
  | .segment s => some (s.parent, Assembly.nodeOf (.segment s (items s.tag)))
  | .skip _ => none

/-- Every segment of a listing is given the items of its detail. -/
theorem markers_resolve (listing : Listing) (source : Source) (tabWidth : ℕ) (revision : String) :
    (listing.resolve source tabWidth revision).markers =
      listing.markers.map (withItems fun tag => (source.detailOf tabWidth revision tag).items) := by
  rw [resolve]
  apply List.map_congr_left
  intro marker hmarker
  cases marker with
  | group g => rfl
  | segment s =>
    have htag : s.tag ∈ listing.tags := mem_distinct.2 (List.mem_filterMap.2 ⟨_, hmarker, rfl⟩)
    rw [resolveMarker, List.lookup_graph _ htag]
    rfl

variable {items}

/-- The code of an entry is that of its node. -/
theorem Entry.code?_eq (entry : Entry) :
    entry.code? = (entry.placement? items).bind fun placed => Node.groupCode? placed.2 := by
  cases entry <;> rfl

/-- The node of an entry has the position of its index. -/
theorem Entry.position_of_placement? {entry : Entry} {placed : Option String × Node}
    (hplaced : entry.placement? items = some placed) :
    placed.2.position = Position.listing entry.index := by
  cases entry with
  | group g parent => rw [← Option.some.inj hplaced]; rfl
  | segment s => rw [← Option.some.inj hplaced]; rfl
  | skip s => cases hplaced

/-- The groups that resolved markers list are those of the entries. -/
theorem listed_withItems (entries : List Entry) :
    Assembly.listed ((entries.filterMap Entry.marker?).map (withItems items)) =
      entries.filterMap Entry.code? := by
  rw [Assembly.listed_eq, List.filterMap_map, List.filterMap_filterMap]
  apply List.filterMap_congr
  intro entry _
  cases entry <;> rfl

/-- Whether entries are those of trees in the order in which the trees are walked. -/
def AreEntriesOf (items : String → List Item) (entries : List Entry) (nodes : List Node) : Prop :=
  entries.map (Entry.placement? items) = (Node.placementsAll none nodes).map some

namespace AreEntriesOf

variable {entries : List Entry} {nodes : List Node} (hentries : AreEntriesOf items entries nodes)
include hentries

/-- What is placed in the trees is said by the entries. -/
theorem placementsAll_eq :
    Node.placementsAll none nodes = entries.filterMap (Entry.placement? items) := by
  have hsome := congrArg (List.filterMap id) hentries
  rw [List.filterMap_map, List.filterMap_map] at hsome
  exact List.filterMap_some.symm.trans hsome.symm

/-- Every entry has a place in the trees. -/
theorem exists_placement {entry : Entry} (hentry : entry ∈ entries) :
    ∃ placed ∈ Node.placementsAll none nodes, entry.placement? items = some placed := by
  have hmem : entry.placement? items ∈ (Node.placementsAll none nodes).map some :=
    hentries ▸ List.mem_map_of_mem hentry
  obtain ⟨placed, hplaced, hsame⟩ := List.mem_map.1 hmem
  exact ⟨placed, hplaced, hsame.symm⟩

/-- No entry is left out. -/
theorem filterMap_skip? : entries.filterMap Entry.skip? = [] := by
  rw [List.filterMap_eq_nil_iff]
  intro entry hentry
  obtain ⟨placed, -, hplaced⟩ := hentries.exists_placement hentry
  cases entry with
  | group g parent => rfl
  | segment s => rfl
  | skip s => cases hplaced

/-- The groups of the entries are those of the trees. -/
theorem filterMap_code? : entries.filterMap Entry.code? = Node.groupCodesAll nodes := by
  rw [← Node.filterMap_placementsAll none, hentries.placementsAll_eq, List.filterMap_filterMap]
  exact List.filterMap_congr fun entry _ => entry.code?_eq

/-- The positions in the trees are those of the indices. -/
theorem map_position_walkAll :
    (Node.walkAll 0 nodes).map (fun entry => entry.1.position) =
      (entries.map Entry.index).map Position.listing := by
  have hwalk := congrArg (List.map Node.position) (Node.map_bare_walkAll none 0 nodes)
  simp only [List.map_map, Function.comp_def, Node.position_bare] at hwalk
  rw [hwalk, hentries.placementsAll_eq, List.map_filterMap, List.map_map, ← List.filterMap_eq_map]
  apply List.filterMap_congr
  intro entry hentry
  obtain ⟨placed, -, hplaced⟩ := hentries.exists_placement hentry
  rw [hplaced, Option.map_some, Entry.position_of_placement? hplaced]
  rfl

/-- The group around an entry is that of some entry, so it is not dropped as unlisted. -/
theorem filter_listed {entry : Entry} (hentry : entry ∈ entries) {placed : Option String × Node}
    (hplaced : entry.placement? items = some placed) :
    placed.1.filter (· ∈ entries.filterMap Entry.code?) = placed.1 := by
  have hmem : placed ∈ Node.placementsAll none nodes := by
    rw [hentries.placementsAll_eq]
    exact List.mem_filterMap.2 ⟨entry, hentry, hplaced⟩
  rw [hentries.filterMap_code?]
  rcases Node.site_of_mem_placementsAll hmem with hsite | ⟨code, hcode, hsite⟩
  · rw [hsite]
    rfl
  · rw [hsite, Option.filter_some_pos (by simpa using hcode)]

/-- Each marker belongs to the group around its entry if the hierarchy says so of the groups. -/
theorem placementsAll_eq_map {hierarchy : Hierarchy}
    (hparents : ∀ g parent, .group g parent ∈ entries → hierarchy.parent? g.code = parent) :
    let markers := (entries.filterMap Entry.marker?).map (withItems items)
    Node.placementsAll none nodes =
      markers.map fun m => (Assembly.site? markers hierarchy m, Assembly.nodeOf m) := by
  intro markers
  have hlisted : Assembly.listed markers = entries.filterMap Entry.code? := listed_withItems entries
  rw [hentries.placementsAll_eq, List.map_map, List.map_filterMap]
  apply List.filterMap_congr
  intro entry hentry
  cases entry with
  | skip s => rfl
  | segment s =>
    have hsite : Assembly.segmentSite? (Assembly.listed markers) s = s.parent := by
      rw [hlisted]
      exact hentries.filter_listed hentry rfl
    exact congrArg (fun site => some (site, _)) hsite.symm
  | group g parent =>
    have hsite : Assembly.home? markers hierarchy g.code = parent := by
      rw [Assembly.home?, hparents g parent hentry, hlisted]
      exact hentries.filter_listed hentry rfl
    exact congrArg (fun site => some (site, _)) hsite.symm

/-- No group lies in itself if the groups are distinct. -/
theorem parent_ne (hnodup : (Node.groupCodesAll nodes).Nodup) :
    ∀ g parent, .group g parent ∈ entries → parent ≠ some g.code := by
  intro g parent hentry
  obtain ⟨placed, hmem, hplaced⟩ := hentries.exists_placement hentry
  obtain rfl := Option.some.inj hplaced
  exact Node.outer_ne_of_mem_placementsAll hnodup (by simp) hmem rfl

/-- Trees with distinct groups are assembled from the markers of their entries, if these are
numbered in order. -/
theorem assemble_markers (hnodup : (Node.groupCodesAll nodes).Nodup)
    (hindices : (entries.map Entry.index).Pairwise (· < ·)) :
    ∃ hierarchy, linkEntries [] .empty entries = .ok hierarchy ∧
      Assembly.assemble ((entries.filterMap Entry.marker?).map (withItems items)) hierarchy =
        .ok nodes := by
  have hcodes : (entries.filterMap Entry.code?).Nodup := hentries.filterMap_code? ▸ hnodup
  obtain ⟨hierarchy, hlinked, hparents⟩ := exists_hierarchy hcodes (hentries.parent_ne hnodup)
  refine ⟨hierarchy, hlinked, Assembly.assemble_of_placements
    (hentries.placementsAll_eq_map hparents) hnodup ?_⟩
  rw [List.pairwise_map, List.pairwise_filterMap]
  refine (List.pairwise_map.1 hindices).imp fun hlt first hfirst second hsecond => ?_
  have hindex {entry : Entry} {marker : Marker} (hmarker : entry.marker? = some marker) :
      (withItems items marker).index = entry.index := by
    rw [← Entry.index_of_marker? hmarker]
    cases marker <;> rfl
  rwa [hindex hfirst, hindex hsecond]

end AreEntriesOf

end Entries

section Outlines

variable (items : String → List Item)

mutual
/-- The entries for an entry of a message say where everything in it is placed. -/
theorem Layout.Outline.map_placement? (index : ℕ) (site : Option String) (outline : Outline) :
    (outline.entries index site).map (Entry.placement? items) =
      (Node.placements site (outline.node items index)).map some := by
  cases outline with
  | segment box => rfl
  | group box children =>
    have hroot : Assembly.nodeOf (.group (box.marker index)) = .group (box.group index) [] := by
      rw [Assembly.nodeOf, Assembly.groupNode, Assembly.inOrder, List.mergeSort_nil]
      rfl
    rw [Outline.entries, Outline.node, Node.placements, List.map_cons, List.map_cons,
      Outline.map_placement?_allEntries, Entry.placement?, hroot]
    rfl

/-- The entries for the entries of a list say where everything in them is placed. -/
theorem Layout.Outline.map_placement?_allEntries (index : ℕ) (site : Option String)
    (outlines : List Outline) :
    (Outline.allEntries index site outlines).map (Entry.placement? items) =
      (Node.placementsAll site (Outline.nodes items index outlines)).map some := by
  cases outlines with
  | nil => rfl
  | cons outline rest =>
    rw [Outline.allEntries, Outline.nodes, Node.placementsAll, List.map_append, List.map_append,
      Outline.map_placement?, Outline.map_placement?_allEntries]
end

mutual
/-- The groups of an entry of a message are those that are meant. -/
theorem Layout.Outline.groupCodes_node (index : ℕ) (outline : Outline) :
    Node.groupCodes (outline.node items index) = outline.codes := by
  cases outline with
  | segment box => rfl
  | group box children =>
    rw [Outline.node, Node.groupCodes, Outline.codes, Outline.groupCodesAll_nodes]
    rfl

/-- The groups of the entries of a list are those that are meant. -/
theorem Layout.Outline.groupCodesAll_nodes (index : ℕ) (outlines : List Outline) :
    Node.groupCodesAll (Outline.nodes items index outlines) = Outline.allCodes outlines := by
  cases outlines with
  | nil => rfl
  | cons outline rest =>
    rw [Outline.nodes, Node.groupCodesAll, Outline.allCodes, Outline.groupCodes_node,
      Outline.groupCodesAll_nodes]
end

end Outlines

/-- A message with distinct groups is extracted from the page that it is laid out on: nothing on
the page is left out, the entries are assembled to the message, and their positions are the
numbers 10, 20, 30 and so on in the order in which the message is walked. -/
theorem assemble_page (gap : ℕ → Gap) (title : String) {outlines : List Outline}
    (hdistinct : (Outline.allCodes outlines).Nodup) (source : Source) (tabWidth : ℕ)
    (revision : String) (base : Message) :
    let items tag := (source.detailOf tabWidth revision tag).items
    let message := { base with nodes := Outline.nodes items 0 outlines }
    ∃ listing, ofPageTree (page gap title outlines) = .ok listing ∧ listing.skips = [] ∧
      base.assemble (listing.resolve source tabWidth revision).markers
        (listing.resolve source tabWidth revision).hierarchy = .ok message ∧
      message.walk.map (fun entry => entry.1.position) =
        (List.range (Outline.sizeAll outlines)).map fun index =>
          Text.padded 4 (10 * (index + 1)) := by
  intro items message
  have hpage : entriesOf (page gap title outlines) = Outline.allEntries 0 none outlines :=
    entriesOf_page gap title outlines
  have hentries : AreEntriesOf items (entriesOf (page gap title outlines)) message.nodes := by
    rw [AreEntriesOf, hpage]
    exact Outline.map_placement?_allEntries items 0 none outlines
  have hcount : (entryPlaces (page gap title outlines)).length = Outline.sizeAll outlines := by
    have hlength := congrArg List.length (map_index_entriesOf (page gap title outlines))
    rw [List.length_map, List.length_range, hpage, Outline.length_allEntries] at hlength
    exact hlength.symm
  have hindices : (entriesOf (page gap title outlines)).map Entry.index =
      List.range (Outline.sizeAll outlines) := hcount ▸ map_index_entriesOf _
  have hnodup : (Node.groupCodesAll message.nodes).Nodup :=
    (Outline.groupCodesAll_nodes items 0 outlines).symm ▸ hdistinct
  obtain ⟨hierarchy, hlinked, hassemble⟩ :=
    hentries.assemble_markers hnodup (hindices ▸ List.pairwise_lt_range)
  refine ⟨_, ofPageTree_eq_ok_iff.2 ⟨hierarchy, hlinked, rfl⟩, hentries.filterMap_skip?, ?_, ?_⟩
  · rw [Assembly.message_assemble_eq, markers_resolve]
    exact congrArg (Except.map fun nodes => { base with nodes }) hassemble
  · rw [Message.walk, hentries.map_position_walkAll, hindices]
    apply List.map_congr_left
    intro index _
    rw [Position.listing, Position.step, Nat.mul_comm]

/-- An inner group is read back behind a segment whose description looks like a mark. -/
theorem assemble_page_inner_group :
    let rff : SegmentBox := {
      tag := "RFF"
      requirement := .mandatory
      count := 1
      description := "Reference C(2)"
      isSegmentTag_tag := by decide
      isCollapsed_description := by unfold IsCollapsed; decide
      mark_not_infix := by decide }
    let outer : GroupBox := {
      digits := "2"
      count := 9
      description := "References"
      digits_ne_empty := by decide
      isDigit_digits := by simp
      isCollapsed_description := by unfold IsCollapsed; decide }
    let inner : GroupBox := {
      digits := "1"
      count := 99
      description := ""
      digits_ne_empty := by decide
      isDigit_digits := by simp
      isCollapsed_description := by unfold IsCollapsed; decide }
    let outlines : List Outline := [.group outer [.segment rff, .group inner []]]
    let gap : ℕ → Gap := fun _ => ⟨"\n", List.forall_mem_singleton.2 rfl⟩
    let source : Source := .ofPages [] []
    let base : Message := ⟨"EDIFACT", "D97A", "ORDERS", []⟩
    (Outline.allCodes outlines).Nodup ∧
      ∃ listing, ofPageTree (page gap "ORDERS" outlines) = .ok listing ∧ listing.skips = [] ∧
        base.assemble (listing.resolve source 3 "D97A").markers
          (listing.resolve source 3 "D97A").hierarchy =
            .ok { base with nodes := [.group (outer.group 0) [
              .segment (rff.segment 1 []), .group (inner.group 2) []]] } := by
  intro rff outer inner outlines gap source base
  have hdistinct : (Outline.allCodes outlines).Nodup := by decide
  obtain ⟨listing, hlisting, hskips, hassemble, -⟩ :=
    assemble_page gap "ORDERS" hdistinct source 3 "D97A" base
  exact ⟨hdistinct, listing, hlisting, hskips, hassemble⟩

end EdiSchema.Listing
