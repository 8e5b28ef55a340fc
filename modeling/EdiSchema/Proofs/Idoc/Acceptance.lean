import Mathlib.Data.List.Induction
import EdiSchema.Proofs.Idoc.Nesting

/-!
# Which record lists are read

A record list is well formed if every field follows a segment, with nothing but fields in between,
and every end of a group is that of the group begun last among those still open. Reading takes
exactly the well-formed lists.
-/

namespace EdiSchema.Idoc

open Steps

/-- The groups that are open once a record has been read, given those open before. -/
def opened (groups : List String) : Record → List String
  | .groupBegin name _ => name :: groups
  | .groupEnd _ => groups.tail
  | _ => groups

/-- The groups that have been begun and not ended, innermost first. -/
def openGroups (records : List Record) : List String :=
  records.foldl opened []

/-- Whether only fields stand after the last segment of a list. -/
def FollowsSegment (records : List Record) : Prop :=
  ∃ before tag typeName bound, ∃ fields : List Field,
    records = before ++ .segment tag typeName bound :: fields.map Field.record

/-- Whether a record may stand after a list. -/
def Admissible (before : List Record) : Record → Prop
  | .field _ _ _ => FollowsSegment before
  | .groupEnd name => (openGroups before).head? = some name
  | _ => True

/-- Whether every record may stand where it stands. -/
def WellFormed (records : List Record) : Prop :=
  ∀ before record rest, records = before ++ record :: rest → Admissible before record

theorem openGroups_concat (records : List Record) (record : Record) :
    openGroups (records ++ [record]) = opened (openGroups records) record := by
  simp [openGroups]

/-- Where a list with a last record is cut in front of a record, that one is the last or stands
before it. -/
theorem eq_or_exists_of_concat_eq {front before rest : List Record} {last record : Record}
    (h : front ++ [last] = before ++ record :: rest) :
    (front = before ∧ last = record ∧ rest = []) ∨
      ∃ middle, rest = middle ++ [last] ∧ front = before ++ record :: middle := by
  rcases List.eq_nil_or_concat rest with rfl | ⟨middle, final, rfl⟩
  · obtain ⟨hfront, hlast⟩ := List.append_inj' h rfl
    exact .inl ⟨hfront, by simpa using hlast, rfl⟩
  · rw [List.concat_eq_append, ← List.cons_append, ← List.append_assoc] at h
    obtain ⟨hfront, hlast⟩ := List.append_inj' h rfl
    obtain rfl : last = final := by simpa using hlast
    exact .inr ⟨middle, List.concat_eq_append, hfront⟩

theorem followsSegment_segment (records : List Record) (tag typeName : String) (bound : MaxOccurs) :
    FollowsSegment (records ++ [.segment tag typeName bound]) :=
  ⟨records, tag, typeName, bound, [], rfl⟩

/-- A list follows a segment if its last record is one, or is a field after such a list. -/
theorem followsSegment_concat {records : List Record} {record : Record}
    (h : FollowsSegment (records ++ [record])) :
    (∃ tag typeName bound, record = .segment tag typeName bound) ∨
      ∃ field : Field, record = field.record ∧ FollowsSegment records := by
  obtain ⟨before, tag, typeName, bound, fields, h⟩ := h
  rcases eq_or_exists_of_concat_eq h with ⟨-, hrecord, -⟩ | ⟨middle, hfields, hrecords⟩
  · exact .inl ⟨tag, typeName, bound, hrecord⟩
  · obtain ⟨front, last, -, rfl, hlast⟩ := List.map_eq_append_iff.1 hfields
    obtain ⟨field, -, rfl⟩ : ∃ field, field ∈ last ∧ field.record = record :=
      List.mem_map.1 (hlast ▸ List.mem_singleton_self record)
    exact .inr ⟨field, rfl, before, tag, typeName, bound, front, hrecords⟩

/-- A field follows a segment where the list before it does. -/
theorem followsSegment_field {records : List Record} (h : FollowsSegment records) (field : Field) :
    FollowsSegment (records ++ [field.record]) := by
  obtain ⟨before, tag, typeName, bound, fields, rfl⟩ := h
  exact ⟨before, tag, typeName, bound, fields ++ [field], by simp⟩

/-- A list is well formed if it is without its last record and that record may stand there. -/
theorem wellFormed_concat {records : List Record} {record : Record} :
    WellFormed (records ++ [record]) ↔ WellFormed records ∧ Admissible records record := by
  constructor
  · intro h
    refine ⟨fun before r rest hrecords => h before r (rest ++ [record]) ?_, h records record [] rfl⟩
    rw [hrecords, List.append_assoc, List.cons_append]
  · rintro ⟨hrecords, hrecord⟩ before r rest h
    rcases eq_or_exists_of_concat_eq h with ⟨rfl, rfl, -⟩ | ⟨middle, -, hfront⟩
    · exact hrecord
    · exact hrecords before r middle hfront

/-- What a state remembers of the records read so far. -/
structure Tracks (records : List Record) (nesting : Nesting) : Prop where
  names : nesting.groups.map (·.name) = openGroups records
  segment : nesting.segment.isSome = true ↔ FollowsSegment records

namespace Tracks

theorem start : Tracks [] {} where
  names := rfl
  segment := by simp [FollowsSegment]

/-- A state takes exactly the records that may stand after those read so far. -/
theorem exists_read_iff {records : List Record} {nesting : Nesting} (h : Tracks records nesting)
    (record : Record) : (∃ next, nesting.read record = .ok next) ↔ Admissible records record := by
  cases record with
  | groupBegin name bound => simp [Admissible, Nesting.read_groupBegin]
  | groupEnd name =>
    rw [Admissible, ← h.names]
    constructor
    · rintro ⟨next, hread⟩
      obtain ⟨g, outer, hgroups, rfl, -⟩ := Nesting.read_groupEnd_eq_ok_iff.1 hread
      simp [hgroups]
    · intro hhead
      obtain ⟨g, outer, hgroups, hname⟩ :
          ∃ g outer, nesting.groups = g :: outer ∧ g.name = name := by
        cases hgroups : nesting.groups with
        | nil => simp [hgroups] at hhead
        | cons g outer => exact ⟨g, outer, rfl, by simpa [hgroups] using hhead⟩
      exact ⟨_, Nesting.read_groupEnd_eq_ok_iff.2 ⟨g, outer, hgroups, hname, rfl⟩⟩
  | segment tag typeName bound => simp [Admissible, Nesting.read_segment]
  | field name length description =>
    rw [Admissible, ← h.segment, Option.isSome_iff_exists]
    constructor
    · rintro ⟨next, hread⟩
      obtain ⟨s, hs, -⟩ := (Nesting.read_field_eq_ok_iff ⟨name, length, description⟩).1 hread
      exact ⟨s, hs⟩
    · rintro ⟨s, hs⟩
      exact ⟨_, (Nesting.read_field_eq_ok_iff ⟨name, length, description⟩).2 ⟨s, hs, rfl⟩⟩

/-- One more record is remembered. -/
theorem step {records : List Record} {record : Record} {nesting next : Nesting}
    (h : Tracks records nesting) (hread : nesting.read record = .ok next) :
    Tracks (records ++ [record]) next := by
  have hnames := h.names
  cases record with
  | groupBegin name bound =>
    rw [Nesting.read_groupBegin, Except.ok.injEq] at hread
    subst hread
    refine ⟨by simp [openGroups_concat, opened, hnames], fun hopen => by simp at hopen,
      fun hfollows => ?_⟩
    rcases followsSegment_concat hfollows with ⟨_, _, _, hrecord⟩ | ⟨_, hrecord, -⟩ <;>
      cases hrecord
  | groupEnd name =>
    obtain ⟨g, outer, hgroups, rfl, rfl⟩ := Nesting.read_groupEnd_eq_ok_iff.1 hread
    refine ⟨by simp [openGroups_concat, opened, ← hnames, hgroups], fun hopen => by simp at hopen,
      fun hfollows => ?_⟩
    rcases followsSegment_concat hfollows with ⟨_, _, _, hrecord⟩ | ⟨_, hrecord, -⟩ <;>
      cases hrecord
  | segment tag typeName bound =>
    rw [Nesting.read_segment, Except.ok.injEq] at hread
    subst hread
    exact ⟨by simp [openGroups_concat, opened, hnames],
      fun _ => followsSegment_segment records tag typeName bound, fun _ => rfl⟩
  | field name length description =>
    obtain ⟨s, hs, rfl⟩ := (Nesting.read_field_eq_ok_iff ⟨name, length, description⟩).1 hread
    have hfollows := h.segment.1 (Option.isSome_iff_exists.2 ⟨s, hs⟩)
    exact ⟨by simp [openGroups_concat, opened, hnames],
      fun _ => followsSegment_field hfollows ⟨name, length, description⟩, fun _ => rfl⟩

end Tracks

/-- Reading takes exactly the well-formed lists. -/
theorem exists_foldlM_read_iff (records : List Record) :
    (∃ next, records.foldlM Nesting.read {} = .ok next) ↔ WellFormed records := by
  induction records using List.reverseRecOn with
  | nil => exact ⟨fun _ => by simp [WellFormed], fun _ => ⟨{}, rfl⟩⟩
  | append_singleton records record ih =>
    rw [wellFormed_concat, ← ih]
    constructor
    · rintro ⟨next, hfold⟩
      obtain ⟨middle, hmiddle, hlast⟩ := foldlM_append_eq_ok_iff.1 hfold
      have htracks := foldlM_induct Tracks.start (fun _ _ _ _ => Tracks.step) hmiddle
      obtain ⟨final, hread, -⟩ := foldlM_cons_eq_ok_iff.1 hlast
      exact ⟨⟨middle, hmiddle⟩, (htracks.exists_read_iff record).1 ⟨final, hread⟩⟩
    · rintro ⟨⟨middle, hmiddle⟩, hadmissible⟩
      have htracks := foldlM_induct Tracks.start (fun _ _ _ _ => Tracks.step) hmiddle
      obtain ⟨next, hread⟩ := (htracks.exists_read_iff record).2 hadmissible
      exact ⟨next, foldlM_append_eq_ok_iff.2
        ⟨middle, hmiddle, foldlM_cons_eq_ok_iff.2 ⟨next, hread, rfl⟩⟩⟩

/-- The blocks of a list can be read exactly if it is well formed. -/
theorem Block.exists_ofRecords_iff (records : List Record) :
    (∃ blocks, ofRecords records = .ok blocks) ↔ WellFormed records := by
  rw [← exists_foldlM_read_iff]
  constructor
  · rintro ⟨blocks, h⟩
    obtain ⟨next, hfold, -⟩ := map_eq_ok_iff.1 h
    exact ⟨next, hfold⟩
  · rintro ⟨next, hfold⟩
    exact ⟨next.finish, map_eq_ok_iff.2 ⟨next, hfold, rfl⟩⟩

end EdiSchema.Idoc
