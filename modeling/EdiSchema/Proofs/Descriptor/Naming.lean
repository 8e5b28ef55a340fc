import Mathlib.Data.List.Basic
import EdiSchema.Descriptor.Naming
import EdiSchema.Proofs.Text.Case

/-!
# What names of descriptors are made of

File names start with capital letters, and the paths of bodies with the folder of their dialect.
Apart from what they are made of, no character that comes before the letters is in them unless it is
in the names of the message; upper case brings none in.
-/

namespace EdiSchema.Naming

/-- A file name starts with two capital letters. -/
theorem exists_fileName_eq (dialect : Dialect) (standard revision document : String) :
    ∃ rest, (fileName dialect standard revision document).toList = 'D' :: 'N' :: '_' :: rest := by
  unfold fileName
  split
  · simp
  · simp

theorem two_lt_length_fileName (dialect : Dialect) (standard revision document : String) :
    2 < (fileName dialect standard revision document).toList.length := by
  obtain ⟨rest, hrest⟩ := exists_fileName_eq dialect standard revision document
  simp [hrest]

theorem two_lt_length_folder (dialect : Dialect) : 2 < dialect.folder.toList.length := by
  cases dialect <;> decide

/-- A file name has no slashes if the names that it is made of have none. -/
theorem slash_notMem_fileName (dialect : Dialect) {standard revision document : String}
    (hstandard : '/' ∉ standard.toList) (hrevision : '/' ∉ revision.toList)
    (hdocument : '/' ∉ document.toList) :
    '/' ∉ (fileName dialect standard revision document).toList := by
  have hreference : '/' ∉ document.toList.dropLast := fun h => hdocument (List.dropLast_subset _ h)
  unfold fileName
  split
  · simp [reference, hdocument, hreference]
  · simp [hstandard, hrevision, hdocument]

section Delimited

variable {dialect : Dialect} {interchange : Interchange}
  (hdialect : dialect.interchange? = some interchange)
include hdialect

/-- The path of a body leads through the folders of the dialect and of the revision. -/
theorem bodyPath_of_interchange (revision document : String) :
    bodyPath dialect revision document = dialect.folder ++ "/" ++ Text.upper revision ++ "/" ++
      (Text.upper document ++ ".xml") := by
  rw [← String.append_assoc]
  cases dialect with
  | edifact => rfl
  | x12 => rfl
  | idoc => cases hdialect

/-- The path of a body has no double quotes if the names that it is made of have none. -/
theorem quote_notMem_bodyPath {revision document : String} (hrevision : '"' ∉ revision.toList)
    (hdocument : '"' ∉ document.toList) : '"' ∉ (bodyPath dialect revision document).toList := by
  have hfolder : '"' ∉ dialect.folder.toList := by cases dialect <;> decide
  rw [bodyPath_of_interchange hdialect]
  simp [hfolder, Text.notMem_upper (by decide) hrevision, Text.notMem_upper (by decide) hdocument]

/-- A body is referred to by the lead of its dialect and the name of its message. -/
theorem bodyEntity_of_interchange (document : String) :
    bodyEntity dialect document = interchange.lead ++ document := by
  rw [bodyEntity, hdialect]
  rfl

end Delimited

end EdiSchema.Naming
