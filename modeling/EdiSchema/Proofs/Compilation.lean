import Mathlib
import EdiSchema.Compilation
import EdiSchema.Proofs.Descriptor.Emission
import EdiSchema.Proofs.Extraction.Canonical
import EdiSchema.Proofs.Structure.Depth

/-!
# Compiling in two steps

A request may be compiled at once, or its message saved first and described later from the file.
Both lead to the same descriptor: the saved message is loaded without loss, and it still carries
the standard that names its dialect.
-/

namespace EdiSchema.Compilation

open Steps

/-- A compilation extracts its message and describes it for the dialect that the standard of the
message names. -/
theorem run_eq_ok_iff {settings : Settings} {source : Source} {request : Request}
    {compilation : Compilation} :
    run settings source request = .ok compilation ↔ ∃ dialect extraction,
      Dialect.ofName request.standard = .ok dialect ∧
      Extraction.run source settings.tabWidth request = .ok extraction ∧
      Descriptor.ofMessage dialect settings.descriptorOptions extraction.message =
        .ok compilation.descriptor ∧
      compilation.message = extraction.message ∧ compilation.skipped = extraction.skips.length := by
  simp only [run, bind_eq_ok_iff, mapError_eq_ok_iff, pure_eq_ok_iff]
  constructor
  · rintro ⟨dialect, hdialect, extraction, hextraction, descriptor, hdescriptor, rfl⟩
    exact ⟨dialect, extraction, hdialect, hextraction, hdescriptor, rfl, rfl⟩
  · rintro ⟨dialect, extraction, hdialect, hextraction, hdescriptor, hmessage, hskipped⟩
    refine ⟨dialect, hdialect, extraction, hextraction, compilation.descriptor, hdescriptor, ?_⟩
    rw [← hmessage, ← hskipped]

/-- Whatever is extracted is represented by its JSON without loss, and by the text of that if no
more than 60 groups are around each other. A message that has been compiled is then loaded as it
was saved, and the dialect that its standard names leads to the descriptor that was compiled. -/
theorem run_reloaded (settings : Settings) (source : Source) (request : Request) :
    (∀ extraction, Extraction.run source settings.tabWidth request = .ok extraction →
      Message.ofJson extraction.message.toJson = .ok extraction.message ∧
      (extraction.message.groupDepth ≤ 60 →
        Message.ofText extraction.message.toText = .ok extraction.message)) ∧
    ∀ compilation, run settings source request = .ok compilation →
      compilation.message.groupDepth ≤ 60 →
      Message.ofText compilation.message.toText = .ok compilation.message ∧
      ∃ dialect, Dialect.ofName compilation.message.standard = .ok dialect ∧
        Descriptor.ofMessage dialect settings.descriptorOptions compilation.message =
          .ok compilation.descriptor := by
  constructor
  · intro extraction hextraction
    have hcanonical := Extraction.run_canonical hextraction
    exact ⟨Message.ofJson_toJson_eq_ok_iff _ |>.2 hcanonical, Message.ofText_toText hcanonical⟩
  · intro compilation hrun hdepth
    obtain ⟨dialect, extraction, hdialect, hextraction, hdescriptor, hmessage, -⟩ :=
      run_eq_ok_iff.1 hrun
    rw [hmessage] at hdepth ⊢
    refine ⟨Message.ofText_toText (Extraction.run_canonical hextraction) hdepth, dialect, ?_,
      hdescriptor⟩
    rw [Extraction.message_eq_messageOf hextraction]
    exact hdialect

/-- The page of a document with a segment in a group inside a group. -/
def nestedPage : String :=
  "<div class=isotope-container><h3>SG1 C(9)</h3><p>Parties</div><h3>SG1</h3><div class=collapse>" ++
    "<div class=isotope-container><h3>SG2</div><h3>SG2</h3><div class=collapse>" ++
      "<div class=isotope-container><h3 class=deep><a>NAD</a></h3>M(1)"

/-- What is listed on the page. -/
def nestedListing : Listing where
  markers := [
    .group ⟨"SG1", .bounded 9, "Parties", 0⟩,
    .group ⟨"SG2", .bounded 1, "", 1⟩,
    .segment ⟨"NAD", "", .mandatory, .bounded 1, 2, some "SG2"⟩]
  hierarchy := { links := [⟨"SG2", "SG1"⟩] }

theorem ofPage_nestedPage : Listing.ofPage nestedPage = .ok nestedListing := by
  have hlisted : (Listing.ofPage nestedPage).toOption = some nestedListing := by decide +kernel
  cases hlisting : Listing.ofPage nestedPage with
  | error violation => simp [hlisting, Except.toOption] at hlisted
  | ok listing => simpa [hlisting, Except.toOption] using hlisted

/-- The document of that page, asked for in small letters, is compiled, saved and described again. -/
theorem run_reloaded_nested :
    let source : Source := .ofPages [⟨"D97A", "ORDERS", nestedPage⟩]
      [⟨"D97A", "NAD", "C082 PARTY M\n   3039 Party id M an..35"⟩]
    ∃ compilation, run {} source ⟨"edifact", "D97A", "ORDERS"⟩ = .ok compilation ∧
      compilation.message.groupDepth = 2 ∧ compilation.skipped = 0 ∧
      Message.ofText compilation.message.toText = .ok compilation.message ∧
      Descriptor.ofMessage .edifact ({} : Settings).descriptorOptions compilation.message =
        .ok compilation.descriptor := by
  intro source
  let request : Request := ⟨"edifact", "D97A", "ORDERS"⟩
  let component : Element := {
    position := "010001"
    code := "3039"
    name := "Party id"
    requirement := .mandatory
    maxLength := 35 }
  let party : Composite := {
    position := "010"
    code := "C082"
    name := "PARTY"
    requirement := .mandatory
    components := [component] }
  let segment : Segment := {
    minOccurs := 1
    maxOccurs := .bounded 1
    position := "0030"
    tag := "NAD"
    name := "NAD"
    requirement := .mandatory
    items := [.composite party] }
  let inner : Group := {
    maxOccurs := some (.bounded 1)
    position := "0020"
    code := "SG2"
    name := "SG2" }
  let outer : Group := {
    maxOccurs := some (.bounded 9)
    position := "0010"
    code := "SG1"
    name := "SG1"
    description := "Parties" }
  let nodes : List Node := [.group outer [.group inner [.segment segment]]]
  let markers : List ResolvedMarker := [
    .group ⟨"SG1", .bounded 9, "Parties", 0⟩,
    .group ⟨"SG2", .bounded 1, "", 1⟩,
    .segment ⟨"NAD", "", .mandatory, .bounded 1, 2, some "SG2"⟩ [.composite party]]
  have hdetail : source.detailOf 3 "D97A" "NAD" = ⟨[.composite party], []⟩ := by decide +kernel
  have htags : nestedListing.tags = ["NAD"] := by decide +kernel
  have hresolve : nestedListing.resolve source 3 "D97A" =
      ⟨markers, nestedListing.hierarchy, [], ["NAD"]⟩ := by
    rw [Listing.resolve, htags, List.map_singleton, hdetail]
    rfl
  have hassemble : Assembly.assemble markers nestedListing.hierarchy = .ok nodes := by
    subst markers nodes
    cbv
  have hresolution : Extraction.resolution source 3 request =
      .ok (nestedListing.resolve source 3 "D97A") := by
    simp only [Extraction.resolution, bind_eq_ok_iff, mapError_eq_ok_iff, pure_eq_ok_iff]
    exact ⟨nestedPage, by decide +kernel, nestedListing, ofPage_nestedPage, rfl⟩
  rw [hresolve] at hresolution
  let extraction : Extraction := ⟨Extraction.messageOf request nodes, []⟩
  have hextraction : Extraction.run source 3 request = .ok extraction :=
    Extraction.run_eq_ok_iff.2
      (.inr ⟨by decide +kernel, _, nodes, hresolution, hassemble, rfl⟩)
  have hdialect : Dialect.ofName "edifact" = .ok .edifact := by decide +kernel
  obtain ⟨descriptor, hdescriptor, -⟩ := Descriptor.exists_ofMessage_eq_ok .edifact
    ({} : Settings).descriptorOptions (m := extraction.message) (List.cons_ne_nil _ _)
  have hrun : run {} source request = .ok ⟨extraction.message, descriptor, 0⟩ :=
    run_eq_ok_iff.2 ⟨.edifact, extraction, hdialect, hextraction, hdescriptor, rfl, rfl⟩
  have hdepth : extraction.message.groupDepth = 2 := rfl
  obtain ⟨hsaved, dialect, hname, hloaded⟩ :=
    (run_reloaded {} source request).2 _ hrun (by rw [hdepth]; decide)
  obtain rfl := Except.ok.inj (hname.symm.trans hdialect)
  exact ⟨_, hrun, hdepth, rfl, hsaved, hloaded⟩

end EdiSchema.Compilation
