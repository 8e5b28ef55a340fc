import EdiSchema.Listing.Basic
import EdiSchema.Proofs.Listing.Hierarchy

/-!
# Links of distinct groups

Entries whose groups have distinct codes, none of them inside itself, have a hierarchy. It has one
link for each group that lies in another, so it says of every group where its entry lies.
-/

namespace EdiSchema.Listing

/-- The code of an entry that is a group. -/
def Entry.code? : Entry → Option String
  | .group g _ => some g.code
  | .segment _ => none
  | .skip _ => none

/-- The link of an entry that is a group in another. -/
def Entry.link? : Entry → Option GroupLink
  | .group g parent => parent.map fun parent => ⟨g.code, parent⟩
  | .segment _ => none
  | .skip _ => none

/-- A group without a link is linked to a parent, unless it is its own. -/
theorem exists_link {hierarchy : Hierarchy} {code : String} {parent : Option String}
    (hnew : ∀ link ∈ hierarchy.links, link.child ≠ code) (hproper : parent ≠ some code) :
    ∃ linked, (match parent with
        | some parent => hierarchy.link parent code
        | none => .ok hierarchy) = .ok linked ∧
      linked.links = hierarchy.links ++ (parent.map fun parent => ⟨code, parent⟩).toList := by
  cases parent with
  | none => exact ⟨hierarchy, rfl, (List.append_nil _).symm⟩
  | some parent =>
    have hother : code ≠ parent := fun h => hproper (congrArg some h.symm)
    have hnone : hierarchy.find? code = none :=
      List.find?_eq_none.2 fun link hlink => by simpa using hnew link hlink
    exact Hierarchy.link_of_new hother (Option.map_eq_none_iff.2 hnone)

/-- The links of distinct groups are added one after the other. -/
theorem exists_linkEntries {entries : List Entry} {seen : List (String × ℕ)} {hierarchy : Hierarchy}
    (hnodup : (seen.map Prod.fst ++ entries.filterMap Entry.code?).Nodup)
    (hproper : ∀ g parent, .group g parent ∈ entries → parent ≠ some g.code)
    (hseen : ∀ link ∈ hierarchy.links, link.child ∈ seen.map Prod.fst) :
    ∃ linked, linkEntries seen hierarchy entries = .ok linked ∧
      linked.links = hierarchy.links ++ entries.filterMap Entry.link? := by
  induction entries generalizing seen hierarchy with
  | nil => exact ⟨hierarchy, rfl, (List.append_nil _).symm⟩
  | cons entry rest ih =>
    have hrest : ∀ g parent, .group g parent ∈ rest → parent ≠ some g.code :=
      fun g parent hmem => hproper g parent (List.mem_cons_of_mem _ hmem)
    cases entry with
    | segment s => exact ih hnodup hrest hseen
    | skip s => exact ih hnodup hrest hseen
    | group g parent =>
      have hmiddle : (((g.code, g.index) :: seen).map Prod.fst ++
          rest.filterMap Entry.code?).Nodup := List.perm_middle.nodup_iff.1 hnodup
      have hfresh : g.code ∉ seen.map Prod.fst :=
        fun h => (List.nodup_cons.1 hmiddle).1 (List.mem_append_left _ h)
      have hlookup : seen.lookup g.code = none := by
        rw [List.lookup_eq_none_iff]
        intro pair hpair
        have hne : g.code ≠ pair.1 := fun h => hfresh (h ▸ List.mem_map_of_mem hpair)
        simpa using hne
      have hnew : ∀ link ∈ hierarchy.links, link.child ≠ g.code :=
        fun link hlink heq => hfresh (heq ▸ hseen link hlink)
      obtain ⟨linked, hlinked, hlinks⟩ := exists_link hnew (hproper g parent List.mem_cons_self)
      have hknown : ∀ link ∈ linked.links,
          link.child ∈ ((g.code, g.index) :: seen).map Prod.fst := by
        rw [hlinks, List.forall_mem_append]
        refine ⟨fun link hlink => List.mem_cons_of_mem _ (hseen link hlink), fun link hlink => ?_⟩
        obtain ⟨parent, -, rfl⟩ := Option.map_eq_some_iff.1 (Option.mem_toList.1 hlink)
        exact List.mem_cons_self
      obtain ⟨all, hall, halls⟩ := ih hmiddle hrest hknown
      refine ⟨all, ?_, ?_⟩
      · rw [← hall]
        cases parent with
        | none =>
          obtain rfl := Except.ok.inj hlinked
          simp only [linkEntries, hlookup]
          rfl
        | some parent =>
          dsimp only at hlinked
          simp only [linkEntries, hlookup, hlinked]
          rfl
      · rw [halls, hlinks, List.append_assoc]
        cases parent <;> rfl

/-- A group has one entry among those of distinct groups. -/
theorem Entry.eq_of_code? {entries : List Entry} (hnodup : (entries.filterMap Entry.code?).Nodup)
    {first second : Entry} (hfirst : first ∈ entries) (hsecond : second ∈ entries) {code : String}
    (hfirstCode : first.code? = some code) (hsecondCode : second.code? = some code) :
    first = second := by
  induction entries with
  | nil => cases hfirst
  | cons entry rest ih =>
    -- an entry of the rest with the code of the first one would list that code a second time
    have hother : ∀ other ∈ rest, entry.code? = some code → other.code? ≠ some code := by
      intro other hmem hcode hotherCode
      rw [List.filterMap_cons_some hcode, List.nodup_cons] at hnodup
      exact hnodup.1 (List.mem_filterMap.2 ⟨other, hmem, hotherCode⟩)
    cases List.mem_cons.1 hfirst with
    | inl h =>
      cases List.mem_cons.1 hsecond with
      | inl h' => rw [h, h']
      | inr h' => exact absurd hsecondCode (hother second h' (h ▸ hfirstCode))
    | inr h =>
      cases List.mem_cons.1 hsecond with
      | inl h' => exact absurd hfirstCode (hother first h (h' ▸ hsecondCode))
      | inr h' =>
        apply ih _ h h'
        exact hnodup.sublist ((List.sublist_cons_self entry rest).filterMap Entry.code?)

/-- Entries with distinct groups, none of them inside itself, have a hierarchy that says of every
group in which one it lies. -/
theorem exists_hierarchy {entries : List Entry} (hnodup : (entries.filterMap Entry.code?).Nodup)
    (hproper : ∀ g parent, .group g parent ∈ entries → parent ≠ some g.code) :
    ∃ hierarchy, linkEntries [] .empty entries = .ok hierarchy ∧
      ∀ g parent, .group g parent ∈ entries → hierarchy.parent? g.code = parent := by
  have hdistinct : (([] : List (String × ℕ)).map Prod.fst ++
      entries.filterMap Entry.code?).Nodup := hnodup
  have hunlinked : ∀ link ∈ Hierarchy.empty.links,
      link.child ∈ ([] : List (String × ℕ)).map Prod.fst := List.forall_mem_nil _
  obtain ⟨hierarchy, hlinked, hlinks⟩ := exists_linkEntries hdistinct hproper hunlinked
  have hlinks : hierarchy.links = entries.filterMap Entry.link? := hlinks
  refine ⟨hierarchy, hlinked, fun g parent hentry => Option.ext fun above => ?_⟩
  rw [Hierarchy.parent?, Option.map_eq_some_iff]
  simp only [Hierarchy.find?_eq_some_iff, hlinks, List.mem_filterMap]
  constructor
  · rintro ⟨link, ⟨⟨entry, hmem, hlink⟩, hchild⟩, rfl⟩
    cases entry with
    | segment s => cases hlink
    | skip s => cases hlink
    | group other site =>
      obtain ⟨outer, rfl, rfl⟩ := Option.map_eq_some_iff.1 hlink
      have hsame := Entry.eq_of_code? hnodup hmem hentry (congrArg some hchild) rfl
      rw [← (Entry.group.inj hsame).2]
  · intro hparent
    refine ⟨⟨g.code, above⟩, ⟨⟨.group g parent, hentry, ?_⟩, rfl⟩, rfl⟩
    rw [Entry.link?, hparent]
    rfl

end EdiSchema.Listing
