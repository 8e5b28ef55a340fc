import EdiSchema.Proofs.Descriptor.Dialects
import EdiSchema.Proofs.Idoc.Document

/-!
# When a message has a descriptor

Only a message without entries has no descriptor. For records of fixed width this rests on what the
records of an entry do to a state of the reader: whatever groups are open around them, they are all
taken, and the same groups are open afterwards.
-/

namespace EdiSchema

/-- The records of some entries are taken in any state, and leave the groups open that were open
before them. -/
theorem Idoc.Nesting.exists_foldlM_read_recordsOf (nodes : List Node) (nesting : Nesting) :
    ∃ next, (recordsOf nodes).foldlM read nesting = .ok next ∧ next.groups = nesting.groups := by
  obtain ⟨next, hfold, hnext⟩ := exists_foldlM_read (nested_recordsOf nodes) nesting
  refine ⟨next, hfold, ?_⟩
  rw [← next.groups_closeSegment, hnext]

namespace Descriptor

open Idoc

/-- The record list of a message with entries has a descriptor, whatever the message is called. -/
theorem ofRecords_linearize (document : String) {m : Message} (hne : m.nodes ≠ []) :
    ofRecords document (linearize m) = .ok (ofBlocks document (blocksOf m.nodes)) := by
  rw [ofRecords_eq_ok_iff]
  exact ⟨linearize_ne_nil hne, _, .closed (nested_recordsOf m.nodes), rfl⟩

/-- A message without entries has no descriptor for any dialect. -/
theorem ofMessage_of_nodes_eq_nil (dialect : Dialect) (options : DescriptorOptions) {m : Message}
    (hnil : m.nodes = []) : ofMessage dialect options m = .error (.noEntries m) := by
  rw [ofMessage, if_pos (by rw [Message.isEmpty, hnil]; rfl)]

/-- A message with entries has a descriptor for every dialect, and only one for a delimited dialect
has a body of its own. -/
theorem exists_ofMessage_eq_ok (dialect : Dialect) (options : DescriptorOptions) {m : Message}
    (hne : m.nodes ≠ []) :
    ∃ descriptor, ofMessage dialect options m = .ok descriptor ∧
      descriptor.body.isSome = dialect.isDelimited := by
  have hempty : ¬ m.isEmpty = true := by simpa [Message.isEmpty] using hne
  rw [ofMessage, if_neg hempty, Dialect.isDelimited]
  cases dialect.interchange? with
  | some interchange => exact ⟨_, rfl, rfl⟩
  | none => exact ⟨_, ofRecords_linearize m.document hne, rfl⟩

/-- A message has no descriptor for a dialect exactly if it has no entries, and is then an invalid
model. A body stands in a descriptor exactly if the dialect is delimited. The record list of a
message is never refused: from any state of the reader all of it is taken, and the groups open
before it are open after it. -/
theorem ofMessage_fails_iff (dialect : Dialect) (options : DescriptorOptions) (m : Message) :
    ((∃ fault, ofMessage dialect options m = .error fault) ↔ m.nodes = []) ∧
    (∀ fault, ofMessage dialect options m = .error fault →
      fault = .noEntries m ∧ ∃ detail, fault.message = "Invalid model: " ++ detail) ∧
    (∀ descriptor, ofMessage dialect options m = .ok descriptor →
      (descriptor.body.isSome = true ↔ dialect = .edifact ∨ dialect = .x12)) ∧
    (∀ fault, Block.ofRecords (linearize m) ≠ .error fault) ∧
    ∀ nesting : Nesting, ∃ next,
      (linearize m).foldlM Nesting.read nesting = .ok next ∧ next.groups = nesting.groups := by
  have hrecords : ∀ fault, Block.ofRecords (linearize m) ≠ .error fault := by
    intro fault hfault
    cases (Idoc.ofRecords_linearize m).symm.trans hfault
  refine ⟨?_, ?_, ?_, hrecords, Nesting.exists_foldlM_read_recordsOf m.nodes⟩
  · constructor
    · intro ⟨fault, hfault⟩
      by_contra hne
      obtain ⟨descriptor, hok, -⟩ := exists_ofMessage_eq_ok dialect options hne
      cases hok.symm.trans hfault
    · intro hnil
      exact ⟨_, ofMessage_of_nodes_eq_nil dialect options hnil⟩
  · intro fault hfault
    by_cases hnil : m.nodes = []
    · rw [ofMessage_of_nodes_eq_nil dialect options hnil, Except.error.injEq] at hfault
      exact ⟨hfault.symm, fault.exists_message_eq⟩
    · obtain ⟨descriptor, hok, -⟩ := exists_ofMessage_eq_ok dialect options hnil
      cases hok.symm.trans hfault
  · intro descriptor hdescriptor
    have hdelimited : dialect.isDelimited = true ↔ dialect = .edifact ∨ dialect = .x12 := by
      cases dialect <;> decide
    by_cases hnil : m.nodes = []
    · cases (ofMessage_of_nodes_eq_nil dialect options hnil).symm.trans hdescriptor
    · obtain ⟨other, hok, hbody⟩ := exists_ofMessage_eq_ok dialect options hnil
      obtain rfl := Except.ok.inj (hok.symm.trans hdescriptor)
      rw [hbody, hdelimited]

/-- A group around a group of its own code is described, with a body for one dialect only; the same
message without its entries is not. -/
theorem ofMessage_fails_iff_recurring :
    (∃ descriptor, ofMessage .x12 {} recurring = .ok descriptor ∧
      descriptor.body.isSome = true) ∧
    (∃ descriptor, ofMessage .idoc {} recurring = .ok descriptor ∧
      ¬ descriptor.body.isSome = true) ∧
    ∃ fault, ofMessage .idoc {} { recurring with nodes := [] } = .error fault ∧
      ∃ detail, fault.message = "Invalid model: " ++ detail := by
  have hok : ∀ dialect, ∃ descriptor, ofMessage dialect {} recurring = .ok descriptor := by
    intro dialect
    cases hdescriptor : ofMessage dialect {} recurring with
    | ok descriptor => exact ⟨descriptor, rfl⟩
    | error fault =>
      have hnil := (ofMessage_fails_iff dialect {} recurring).1.1 ⟨fault, hdescriptor⟩
      simp [recurring] at hnil
  obtain ⟨body, hbody⟩ := hok .x12
  obtain ⟨document, hdocument⟩ := hok .idoc
  obtain ⟨fault, hfault⟩ := (ofMessage_fails_iff .idoc {} { recurring with nodes := [] }).1.2 rfl
  refine ⟨⟨body, hbody, ?_⟩, ⟨document, hdocument, ?_⟩, fault, hfault, ?_⟩
  · exact ((ofMessage_fails_iff .x12 {} recurring).2.2.1 body hbody).2 (.inr rfl)
  · rw [(ofMessage_fails_iff .idoc {} recurring).2.2.1 document hdocument]
    simp
  · exact ((ofMessage_fails_iff .idoc {} { recurring with nodes := [] }).2.1 fault hfault).2

end Descriptor

end EdiSchema
