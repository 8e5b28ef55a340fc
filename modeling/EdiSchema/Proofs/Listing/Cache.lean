import Mathlib.Data.List.Count
import EdiSchema.Listing.Cache
import EdiSchema.Proofs.Batch.Inquiry
import EdiSchema.Proofs.Listing.RoundTrip
import EdiSchema.Proofs.Table

/-!
# A cache that nobody notices

Behind some markers the cache has an entry for each of their tags, in the order in which the tags
first occur, with the items that the page of the tag alone gives. One more marker asks for a page
exactly if its tag is new. So the listing is resolved as if every segment had asked for itself, but
each page is asked for once, whether or not it can be supplied, and what it leaves out is recorded
once.

The source answers a question for a page in the same way however often it is asked.
-/

namespace EdiSchema

variable (source : Source) (tabWidth : ℕ) (revision : String)

namespace Listing

/-- The tags of some markers, each once and in the order of their first segments. -/
def tagsOf (markers : List Marker) : List String :=
  (markers.filterMap tag?).eraseDups

theorem tags_eq (listing : Listing) : listing.tags = tagsOf listing.markers :=
  distinct_eq_eraseDups _

/-- A listing is resolved as if every segment had asked for itself. -/
theorem resolve_eq (listing : Listing) :
    listing.resolve source tabWidth revision = {
      markers := listing.markers.map
        (withItems fun tag => (source.detailOf tabWidth revision tag).items)
      hierarchy := listing.hierarchy
      skips := listing.skips ++ (tagsOf listing.markers).flatMap fun tag =>
        (source.detailOf tabWidth revision tag).skips
      asked := tagsOf listing.markers } := by
  rw [← markers_resolve, resolve, tags_eq, List.flatMap_map]

/-- A group adds no tag. -/
theorem tagsOf_concat_group (markers : List Marker) (g : GroupMarker) :
    tagsOf (markers ++ [.group g]) = tagsOf markers := by
  rw [tagsOf, List.filterMap_append, tagsOf]
  exact congrArg List.eraseDups (List.append_nil _)

/-- A segment adds its tag, unless another one has it. -/
theorem tagsOf_concat_segment (markers : List Marker) (s : SegmentMarker) :
    tagsOf (markers ++ [.segment s]) =
      if s.tag ∈ tagsOf markers then tagsOf markers else tagsOf markers ++ [s.tag] := by
  rw [tagsOf, List.filterMap_append, tagsOf]
  change (markers.filterMap tag? ++ [s.tag]).eraseDups = _
  simp only [eraseDups_concat, List.mem_eraseDups]

namespace Resolving

/-- The listing that is being resolved behind some markers, if every segment asks for itself. -/
def behind (skips : List Skip) (markers : List Marker) : Resolving where
  cache := (tagsOf markers).map fun tag => (tag, (source.detailOf tabWidth revision tag).items)
  markers := markers.map (withItems fun tag => (source.detailOf tabWidth revision tag).items)
  skips := skips ++ (tagsOf markers).flatMap fun tag =>
    (source.detailOf tabWidth revision tag).skips

variable (skips : List Skip) (done : List Marker)

/-- The cache has entries for the tags that have occurred. -/
theorem lookup_behind (tag : String) :
    (behind source tabWidth revision skips done).cache.lookup tag =
      if tag ∈ tagsOf done then some (source.detailOf tabWidth revision tag).items else none := by
  rw [behind]
  split
  · next htag => exact List.lookup_graph _ htag
  · next htag =>
    rw [Table.lookup_eq_none_iff, List.map_map]
    exact fun h => htag (by simpa using h)

/-- A tag whose items are in the cache is not asked for. -/
theorem fetch_known {state : Resolving} {tag : String} {items : List Item}
    (hknown : state.cache.lookup tag = some items) :
    state.fetch tabWidth revision tag = pure state := by
  rw [fetch, hknown]

/-- A tag that is not in the cache is asked for once. -/
theorem fetch_new {state : Resolving} {tag : String} (hnew : state.cache.lookup tag = none) :
    (state.fetch tabWidth revision tag).result source = { state with
        cache := state.cache ++ [(tag, (source.detailOf tabWidth revision tag).items)]
        skips := state.skips ++ (source.detailOf tabWidth revision tag).skips } ∧
      (state.fetch tabWidth revision tag).questions source = [.detail revision tag] := by
  rw [fetch, hnew]
  simp

/-- One more marker asks for the page of its tag if the tag is new, and is resolved as if it had
asked for itself. -/
theorem resolveNext_behind (marker : Marker) :
    let inquiry := (behind source tabWidth revision skips done).resolveNext tabWidth revision marker
    inquiry.result source = behind source tabWidth revision skips (done ++ [marker]) ∧
      (tagsOf done).map (.detail revision) ++ inquiry.questions source =
        (tagsOf (done ++ [marker])).map (.detail revision) := by
  intro inquiry
  have hlookup := lookup_behind source tabWidth revision skips done
  cases marker with
  | group g =>
    constructor
    · simp [inquiry, resolveNext, behind, tagsOf_concat_group, withItems]
    · simp [inquiry, resolveNext, tagsOf_concat_group]
  | segment s =>
    by_cases htag : s.tag ∈ tagsOf done
    · have hknown := (hlookup s.tag).trans (if_pos htag)
      have hfetch := fetch_known tabWidth revision hknown
      constructor
      · simp only [inquiry, resolveNext, hfetch, Inquiry.result_bind, Inquiry.result_pure, hknown]
        simp [behind, tagsOf_concat_segment, htag, withItems]
      · simp [inquiry, resolveNext, hfetch, tagsOf_concat_segment, htag]
    · have hnew := (hlookup s.tag).trans (if_neg htag)
      obtain ⟨hresult, hquestions⟩ := fetch_new source tabWidth revision hnew
      have hfound : ((behind source tabWidth revision skips done).cache ++
          [(s.tag, (source.detailOf tabWidth revision s.tag).items)]).lookup s.tag =
            some (source.detailOf tabWidth revision s.tag).items := by
        rw [List.lookup_append, hnew, Option.none_or, List.lookup_cons_self]
      constructor
      · simp only [inquiry, resolveNext, Inquiry.result_bind, Inquiry.result_pure, hresult, hfound]
        simp [behind, tagsOf_concat_segment, htag, withItems]
      · simp [inquiry, resolveNext, hquestions, tagsOf_concat_segment, htag]

/-- All markers that follow are resolved as if they had asked for themselves, and only their new
tags are asked for. -/
theorem foldlM_behind (rest : List Marker) :
    let inquiry := rest.foldlM (resolveNext tabWidth revision)
      (behind source tabWidth revision skips done)
    inquiry.result source = behind source tabWidth revision skips (done ++ rest) ∧
      (tagsOf done).map (.detail revision) ++ inquiry.questions source =
        (tagsOf (done ++ rest)).map (.detail revision) := by
  induction rest generalizing done with
  | nil => simp
  | cons marker rest ih =>
    obtain ⟨hresult, hquestions⟩ := resolveNext_behind source tabWidth revision skips done marker
    obtain ⟨hlast, hothers⟩ := ih (done ++ [marker])
    rw [List.append_assoc, List.singleton_append] at hlast hothers
    intro inquiry
    constructor
    · rw [← hlast]
      simp only [inquiry, List.foldlM_cons, Inquiry.result_bind, hresult]
    · rw [← hothers, ← hquestions, List.append_assoc]
      simp only [inquiry, List.foldlM_cons, Inquiry.questions_bind, hresult]

end Resolving

/-- A listing is resolved with a cache as it is without one: its markers keep their order, and each
segment has the items that the page of its own tag gives, none if the page cannot be supplied. The
source is asked for the page of each tag once, also if it cannot supply it, in the order in which
the tags first occur; what is left out in these pages follows, in the same order, what is left out
in the listing. -/
theorem cachedInquiry_transparent (listing : Listing) :
    let detailOf := source.detailOf tabWidth revision
    let tags := (listing.markers.filterMap tag?).eraseDups
    let inquiry := listing.cachedInquiry tabWidth revision
    (inquiry.result source).markers = listing.markers.map (withItems fun tag => (detailOf tag).items) ∧
      (inquiry.result source).hierarchy = listing.hierarchy ∧
      (inquiry.result source).skips = listing.skips ++ tags.flatMap (fun tag => (detailOf tag).skips) ∧
      inquiry.questions source = tags.map (.detail revision) ∧
      (∀ tag, (inquiry.questions source).count (.detail revision tag) =
        if tag ∈ listing.markers.filterMap tag? then 1 else 0) ∧
      inquiry.result source = listing.resolve source tabWidth revision := by
  intro detailOf tags inquiry
  obtain ⟨hlast, hasked⟩ :=
    Resolving.foldlM_behind source tabWidth revision listing.skips [] listing.markers
  have hstart : Resolving.behind source tabWidth revision listing.skips [] =
      { skips := listing.skips } := by
    rw [Resolving.behind]
    exact congrArg (Resolving.mk [] []) (List.append_nil _)
  rw [hstart, List.nil_append] at hlast hasked
  have hresult : inquiry.result source = listing.resolve source tabWidth revision := by
    simp only [inquiry, cachedInquiry, Inquiry.result_bind, Inquiry.result_pure, hlast]
    rw [resolve_eq]
    simp [Resolving.behind, Function.comp_def]
  have hquestions : inquiry.questions source = tags.map (.detail revision) := by
    simp only [inquiry, cachedInquiry, Inquiry.questions_bind, Inquiry.questions_pure,
      List.append_nil]
    exact hasked
  have hinjective : Function.Injective (Question.detail revision) :=
    fun _ _ h => (Question.detail.inj h).2
  rw [hquestions, hresult, resolve_eq]
  refine ⟨rfl, rfl, rfl, rfl, fun tag => ?_, rfl⟩
  rw [List.count_map_of_injective _ _ hinjective, (nodup_eraseDups _).count]
  simp only [List.mem_eraseDups]

end Listing

end EdiSchema
