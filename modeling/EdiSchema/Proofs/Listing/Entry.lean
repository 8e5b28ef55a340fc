import Mathlib.Data.List.Perm.Basic
import EdiSchema.Listing.Resolution
import EdiSchema.Proofs.Detail.Accounting
import EdiSchema.Proofs.Steps

/-!
# The entries of a listing and what becomes of them

A page has boxes, and each box is one entry, numbered in the order in which the boxes start. An
entry leads to a marker or is left out; either way the number of the box is kept, so the markers
and the skips of a listing together have every number once.

Resolving a listing changes neither its markers' numbers nor its own skips. The skips that it adds
are of lines in detail texts, and are recorded under the name of a segment.
-/

namespace EdiSchema.Listing

/-- The boxes of a page that are its entries, in the order in which they start. -/
def entryPlaces (page : Html.Node) : List Html.Place :=
  page.pagePlaces.filter fun place => place.here.tag.hasClass "isotope-container"

/-- The number of an entry. -/
def Entry.index : Entry → ℕ
  | .group g _ => g.index
  | .segment s => s.index
  | .skip s => s.index

/-- Whether a skip is of an entry. -/
def IsEntrySkip (skip : Skip) : Prop :=
  skip.place = "listing"

instance (skip : Skip) : Decidable (IsEntrySkip skip) :=
  inferInstanceAs (Decidable (skip.place = "listing"))

/-- An entry keeps the number of its box, and a skip among entries is marked as one. -/
theorem Entry.index_ofPlace (index : ℕ) (place : Html.Place) :
    (Entry.ofPlace index place).index = index ∧
      ∀ skip, (Entry.ofPlace index place).skip? = some skip → IsEntrySkip skip := by
  unfold Entry.ofPlace
  dsimp only
  split
  · exact ⟨rfl, by simp [Entry.skip?]⟩
  · split
    · exact ⟨rfl, fun skip hskip => Option.some.inj hskip ▸ rfl⟩
    · split
      · exact ⟨rfl, fun skip hskip => Option.some.inj hskip ▸ rfl⟩
      · exact ⟨rfl, by simp [Entry.skip?]⟩

/-- A marker keeps the number of its entry. -/
theorem Entry.index_of_marker? {entry : Entry} {marker : Marker}
    (hmarker : entry.marker? = some marker) : marker.index = entry.index := by
  cases entry with
  | group g parent => exact Option.some.inj hmarker ▸ rfl
  | segment s => exact Option.some.inj hmarker ▸ rfl
  | skip s => simp [marker?] at hmarker

/-- The marker of a segment is that of an entry that names it. -/
theorem Entry.eq_segment_of_marker? {entry : Entry} {s : SegmentMarker}
    (hmarker : entry.marker? = some (.segment s)) : entry = .segment s := by
  cases entry with
  | segment s' => exact congrArg Entry.segment (Marker.segment.inj (Option.some.inj hmarker))
  | group g parent => simp [Entry.marker?] at hmarker
  | skip skip => simp [Entry.marker?] at hmarker

/-- The marker of a group is that of an entry that names it. -/
theorem Entry.exists_eq_group_of_marker? {entry : Entry} {g : GroupMarker}
    (hmarker : entry.marker? = some (.group g)) : ∃ parent, entry = .group g parent := by
  cases entry with
  | group g' parent =>
    obtain rfl := Marker.group.inj (Option.some.inj hmarker)
    exact ⟨parent, rfl⟩
  | segment s => simp [Entry.marker?] at hmarker
  | skip skip => simp [Entry.marker?] at hmarker

/-- What an entry is read as comes from its box: a group has the code in the title, and a segment
the text of the links as its tag. -/
theorem Entry.named_ofPlace (index : ℕ) (place : Html.Place) :
    (∀ g parent, Entry.ofPlace index place = .group g parent →
      groupCode? (titleOf place) = some g.code) ∧
    ∀ s, Entry.ofPlace index place = .segment s →
      groupCode? (titleOf place) = none ∧ s.tag = String.ofList (tagOf place) := by
  unfold Entry.ofPlace
  dsimp only
  split
  · next code hcode =>
    refine ⟨fun g parent hentry => ?_, by simp⟩
    rw [hcode, ← (Entry.group.inj hentry).1]
  · next hnone =>
    split
    · simp [skipped]
    · split
      · simp [skipped]
      · refine ⟨by simp, fun s hentry => ⟨hnone, ?_⟩⟩
        rw [← Entry.segment.inj hentry]

/-- The entries of a page are numbered from zero. -/
theorem map_index_entriesOf (page : Html.Node) :
    (entriesOf page).map Entry.index = List.range (entryPlaces page).length := by
  apply List.ext_getElem
  · simp [entriesOf, entryPlaces]
  · intro i _ _
    simp [entriesOf, (Entry.index_ofPlace i _).1]

/-- Every entry has a marker or a skip with its number, and not both. -/
theorem markers_append_skips_perm (entries : List Entry) :
    ((entries.filterMap Entry.marker?).map Marker.index ++
      (entries.filterMap Entry.skip?).map Skip.index).Perm (entries.map Entry.index) := by
  induction entries with
  | nil => exact List.Perm.refl _
  | cons entry rest ih =>
    cases entry with
    | group g parent => exact ih.cons g.index
    | segment s => exact ih.cons s.index
    | skip s => exact List.perm_middle.trans (ih.cons s.index)

/-- A listing has the markers and the skips of its entries. -/
theorem ofPageTree_eq_ok_iff {page : Html.Node} {listing : Listing} :
    ofPageTree page = .ok listing ↔ ∃ hierarchy,
      linkEntries [] .empty (entriesOf page) = .ok hierarchy ∧
      listing = {
        markers := (entriesOf page).filterMap Entry.marker?
        hierarchy
        skips := (entriesOf page).filterMap Entry.skip? } := by
  rw [ofPageTree, ofEntries, Steps.bind_eq_ok_iff]
  apply exists_congr
  intro hierarchy
  rw [Steps.pure_eq_ok_iff, eq_comm (b := listing)]

section

variable {page : Html.Node} {listing : Listing}

/-- The markers and skips of a listing have every number of its page once. -/
theorem markers_append_skips_ofPageTree_perm (hlisting : ofPageTree page = .ok listing) :
    (listing.markers.map Marker.index ++ listing.skips.map Skip.index).Perm
      (List.range (entryPlaces page).length) := by
  obtain ⟨hierarchy, -, rfl⟩ := ofPageTree_eq_ok_iff.1 hlisting
  rw [← map_index_entriesOf]
  exact markers_append_skips_perm (entriesOf page)

/-- The skips of a listing are skips of entries. -/
theorem isEntrySkip_of_mem_skips (hlisting : ofPageTree page = .ok listing) :
    ∀ skip ∈ listing.skips, IsEntrySkip skip := by
  obtain ⟨hierarchy, -, rfl⟩ := ofPageTree_eq_ok_iff.1 hlisting
  intro skip hskip
  obtain ⟨entry, hentry, hsome⟩ := List.mem_filterMap.1 hskip
  obtain ⟨i, hi, rfl⟩ := List.mem_mapIdx.1 hentry
  exact (Entry.index_ofPlace i _).2 skip hsome

/-- A marker of a listing is that of the entry with its number. -/
theorem exists_place_of_mem_markers (hlisting : ofPageTree page = .ok listing) {marker : Marker}
    (hmarker : marker ∈ listing.markers) :
    ∃ place, (entryPlaces page)[marker.index]? = some place ∧
      (Entry.ofPlace marker.index place).marker? = some marker := by
  obtain ⟨hierarchy, -, rfl⟩ := ofPageTree_eq_ok_iff.1 hlisting
  obtain ⟨entry, hentry, hsome⟩ := List.mem_filterMap.1 hmarker
  obtain ⟨i, hi, rfl⟩ := List.mem_mapIdx.1 hentry
  have hindex : marker.index = i :=
    (Entry.index_of_marker? hsome).trans (Entry.index_ofPlace i _).1
  rw [hindex]
  exact ⟨_, List.getElem?_eq_getElem hi, hsome⟩

end

/-- Resolving keeps the numbers of the markers. -/
theorem map_index_resolve (listing : Listing) (source : Source) (tabWidth : ℕ)
    (revision : String) :
    (listing.resolve source tabWidth revision).markers.map ResolvedMarker.index =
      listing.markers.map Marker.index := by
  rw [resolve, List.map_map]
  apply List.map_congr_left
  intro marker _
  cases marker <;> rfl

/-- A line that is left out of a detail is no skip of an entry. -/
theorem not_isEntrySkip_of_mem_detailOf {source : Source} {tabWidth : ℕ} {revision tag : String}
    {skip : Skip} (hskip : skip ∈ (source.detailOf tabWidth revision tag).skips) :
    ¬ IsEntrySkip skip := by
  have hplace : skip.place = "segment " ++ tag := by
    unfold Source.detailOf at hskip
    split at hskip
    · exact Detail.place_of_mem_skips hskip
    · simp at hskip
  rw [IsEntrySkip, hplace]
  intro hsame
  have hfirst := congrArg (fun place : String => place.toList.head?) hsame
  simp at hfirst

/-- Resolving adds no skip of an entry. -/
theorem filter_isEntrySkip_resolve {listing : Listing}
    (hlisting : ∀ skip ∈ listing.skips, IsEntrySkip skip) (source : Source) (tabWidth : ℕ)
    (revision : String) :
    (listing.resolve source tabWidth revision).skips.filter (fun skip => IsEntrySkip skip) =
      listing.skips := by
  rw [resolve, List.filter_append, List.filter_eq_self.2 fun skip hskip => by
    simpa using hlisting skip hskip, List.filter_eq_nil_iff.2, List.append_nil]
  intro skip hskip
  obtain ⟨entry, hentry, hskip⟩ := List.mem_flatMap.1 hskip
  obtain ⟨tag, -, rfl⟩ := List.mem_map.1 hentry
  simpa using not_isEntrySkip_of_mem_detailOf hskip

end EdiSchema.Listing
