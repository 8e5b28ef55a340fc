import EdiSchema.Proofs.Idoc.Codec
import EdiSchema.Proofs.Structure.Decode

/-!
# Records that have been decoded

Whatever keys come together in an object, the record that is decoded from it is canonical: a blank
tag or name is not taken for one, a blank type is replaced by the tag, and a length of zero by the
default. The marks of groups are told from the end of a position alone.

So the canonical records are the ones that their own JSON gives back, and a list of records that has
been read once stays as it is when it is written and read again. What else stood in the text that it
was first read from is lost.
-/

namespace EdiSchema.Idoc.Record

open Decoding Json

section Fields

/-- A text that is kept is not blank. -/
theorem isBlankText_of_notBlank {text : Option String} {kept : String}
    (h : notBlank text = some kept) : Text.isBlankText kept = false := by
  simpa using (Option.filter_eq_some_iff.1 h).2

/-- A position marks groups only, and these are canonical whatever they are called. -/
theorem canonical_of_ofPosition? {bound : MaxOccurs} {position : String} {record : Record}
    (h : ofPosition? bound position = some record) : record.Canonical := by
  rw [ofPosition?] at h
  split at h
  · cases h
    trivial
  · obtain ⟨group, -, rfl⟩ := Option.map_eq_some_iff.1 h
    trivial

/-- The record with some fields is canonical. -/
theorem canonical_of_ofFields {fields : Fields} {record : Record}
    (h : ofFields fields = .ok record) : record.Canonical := by
  rw [ofFields] at h
  split at h
  · next mark hmark =>
    cases h
    obtain ⟨position, -, hposition⟩ := Option.bind_eq_some_iff.1 hmark
    exact canonical_of_ofPosition? hposition
  split at h
  · next tag htag =>
    cases h
    have hsegment := isBlankText_of_notBlank htag
    refine ⟨hsegment, ?_⟩
    cases htype : notBlank fields.typeName with
    | none => exact hsegment
    | some typeName => exact isBlankText_of_notBlank htype
  split at h
  · next name hname =>
    cases h
    refine ⟨isBlankText_of_notBlank hname, ?_⟩
    split
    · decide
    · assumption
  · cases h

end Fields

section Values

/-- A record is read from its fields, wherever these stand. -/
theorem exists_fields_of_ofJson {value : Json} {record : Record} (h : ofJson value = .ok record) :
    ∃ fields, ofFields fields = .ok record := by
  unfold ofJson at h
  split at h
  · obtain ⟨fields, -, hfields⟩ := Steps.bind_eq_ok_iff.1 h
    exact ⟨fields, hfields⟩
  · obtain ⟨fields, -, hfields⟩ := Steps.bind_eq_ok_iff.1 h
    exact ⟨fields, hfields⟩
  · cases h

/-- The fields that a record is written with are found by their keys. -/
theorem ofJson_toJson (record : Record) : ofJson record.toJson = ofFields record.fields := by
  cases record with
  | groupBegin group bound =>
    simp [ofJson, toJson, fieldsOfMembers, member, member?, ifPresent, asNullable, fields]
  | groupEnd group =>
    simp [ofJson, toJson, fieldsOfMembers, member, member?, ifPresent, asNullable, fields]
  | segment tag typeName bound =>
    simp [ofJson, toJson, fieldsOfMembers, member, member?, ifPresent, asNullable, fields]
  | field name length description =>
    rw [toJson]
    split <;> split <;>
      simp_all [ofJson, fieldsOfMembers, member, member?, ifPresent, asNullable, fields]

/-- A record is read back from its JSON exactly if it is canonical. -/
theorem ofJson_toJson_eq_ok_iff (record : Record) :
    ofJson record.toJson = .ok record ↔ record.Canonical := by
  rw [ofJson_toJson, ofFields_fields_eq_ok_iff]

end Values

section Texts

/-- A record is an object of texts. -/
theorem textual_toJson (record : Record) : Textual record.toJson := by
  obtain ⟨texts, htexts, -⟩ := record.exists_toJson_eq
  rw [htexts]
  refine .object fun member hmember => ?_
  obtain ⟨t, -, rfl⟩ := List.mem_map.1 hmember
  exact .text t.2

/-- A record is read back from its text exactly if it is canonical. -/
theorem ofText_eq_ok_iff (record : Record) {text : String}
    (htext : tokens? text.toList = some (tokens record.toJson)) :
    Decoding.ofText (fun _ => true) ofJson text = .ok record ↔ record.Canonical := by
  have hwatched : Watched (fun _ => true) [] record.toJson :=
    record.textual_toJson.watched fun _ => rfl
  have hnesting : record.toJson.nesting ≤ depthLimit := by
    rw [nesting_toJson]
    decide
  have hskim := hwatched.skim?_eq htext
  rw [if_pos hnesting] at hskim
  rw [Decoding.ofText_eq_ok_iff, hskim]
  simp only [Option.some.injEq, exists_eq_left', ofJson_toJson_eq_ok_iff]

/-- The records of a list that has been read are canonical. -/
theorem canonical_of_mem_listOfText {text : String} {records : List Record}
    (h : listOfText text = .ok records) {record : Record} (hrecord : record ∈ records) :
    record.Canonical := by
  obtain ⟨entries, -, hentries⟩ := Steps.bind_eq_ok_iff.1 h
  obtain rfl := Steps.pure_eq_ok_iff.1 hentries
  obtain ⟨fields, -, hfields⟩ := List.mem_filterMap.1 hrecord
  cases hread : ofFields fields with
  | ok other =>
    rw [hread] at hfields
    obtain rfl := Option.some.inj hfields
    exact canonical_of_ofFields hread
  | error fault =>
    rw [hread] at hfields
    cases hfields

end Texts

/-- A record is read back from its JSON, and from the text of that, exactly if it is canonical: the
mark of a group with any name and bound, a segment with a tag and a type that are not blank, or a
field with a name that is not blank and a length that is not zero. Whatever JSON a record is decoded
from, it is canonical. So are the records of a list that is read from any text, and the list is read
again from what is written of it. -/
theorem canonical_iff_read :
    (∀ record : Record, (ofJson record.toJson = .ok record ↔ record.Canonical) ∧
      ∀ text, text = record.toJson.compact ∨ text = record.toJson.pretty →
        (Decoding.ofText (fun _ => true) ofJson text = .ok record ↔ record.Canonical)) ∧
    (∀ value record, ofJson value = .ok record → record.Canonical) ∧
    ∀ text records, listOfText text = .ok records →
      (∀ record ∈ records, record.Canonical) ∧
      ∀ written, written = (Json.array (records.map toJson)).compact ∨
          written = (Json.array (records.map toJson)).pretty →
        listOfText written = .ok records := by
  refine ⟨fun record => ⟨ofJson_toJson_eq_ok_iff record, ?_⟩, ?_, ?_⟩
  · intro text htext
    apply ofText_eq_ok_iff
    rcases htext with rfl | rfl
    · exact record.textual_toJson.tokens?_compact
    · exact record.textual_toJson.tokens?_pretty
  · intro value record h
    obtain ⟨fields, hfields⟩ := exists_fields_of_ofJson h
    exact canonical_of_ofFields hfields
  · intro text records h
    have hcanonical : ∀ record ∈ records, record.Canonical :=
      fun record hrecord => canonical_of_mem_listOfText h hrecord
    refine ⟨hcanonical, fun written hwritten => ?_⟩
    have htextual := (watched_list records).textual
    have htokens : tokens? written.toList = some (tokens (.array (records.map toJson))) := by
      rcases hwritten with rfl | rfl
      · exact htextual.tokens?_compact
      · exact htextual.tokens?_pretty
    exact (listOfText_eq_ok_iff records htokens).2 hcanonical

/-- Entries as they may come in: the begin of a group that is called like an end and has the keys of
a segment and of a field as well, a segment with a blank type, a field without a length, and an entry
that is no record. -/
def unsorted : Json :=
  .array [
    .object [("Segment", .text "BGM"), ("Position", .text "SG1_GROUP_END_GROUP_BEGIN"),
      ("Field", .text "E1001")],
    .object [("Type", .text " "), ("Segment", .text "E1EDK01"), ("Max", .text "n")],
    .object [("Field", .text "E1001"), ("Length", .text "0")],
    .object [("Position", .text "0010"), ("Segment", .text "")]]

/-- The entries are read as three records, and these are read again from what is written of them. -/
theorem canonical_iff_read_unsorted :
    let records : List Record := [.groupBegin "SG1_GROUP_END" .one,
      .segment "E1EDK01" "E1EDK01" .unbounded, .field "E1001" defaultLength ""]
    listOfText unsorted.compact = .ok records ∧
      listOfText (Json.array (records.map toJson)).pretty = .ok records := by
  intro records
  have hread : listOfText unsorted.compact = .ok records := by
    rw [listOfText, Decoding.ofText, skim?, compact, String.toList_ofList]
    decide +kernel
  exact ⟨hread, ((canonical_iff_read.2.2 _ records hread).2 _ (.inr rfl))⟩

end EdiSchema.Idoc.Record
