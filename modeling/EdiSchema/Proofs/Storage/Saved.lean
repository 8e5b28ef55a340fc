import Mathlib.Data.List.Basic
import EdiSchema.Proofs.Storage.Place
import EdiSchema.Proofs.Table
import EdiSchema.Storage.Saved

/-!
# What saving writes

Saving a text, a structure or a descriptor changes no file of a disk but those that its paths lead
to, whether it succeeds or ends in a fault half way. Folders may be made on the way; the one that
relative paths start from stays.
-/

namespace EdiSchema

namespace Disk

/-- A file that is put leaves the others as they are. -/
theorem contentAt?_putFile (d : Disk) (content : Content) {place other : Location}
    (hother : other ≠ place) : (d.putFile place content).contentAt? other = d.contentAt? other := by
  have hbeq : (other == place) = false := beq_eq_false_iff_ne.2 hother
  rw [contentAt?, putFile, List.lookup_cons, hbeq]
  exact Table.lookup_filter_ne hother d.files

/-- A disk that has been written to has the text as the file that the path leads to. -/
theorem eq_putFile_of_write {d written : Disk} {path text : String}
    (h : d.write path text = .ok written) :
    ∃ place, d.locate path = .ok place ∧ written = d.putFile place (.text text) := by
  rw [write] at h
  cases hplace : d.locate path with
  | error fault =>
    rw [hplace] at h
    cases h
  | ok place =>
    rw [hplace] at h
    simp only [bind, Except.bind] at h
    split_ifs at h
    cases h
    exact ⟨place, rfl, rfl⟩

/-- A disk that has at most more folders than another. -/
def SameFiles (d e : Disk) : Prop :=
  e.here = d.here ∧ e.files = d.files

theorem sameFiles_makeFolder {d e : Disk} {base : Location} {parts : List String}
    (h : d.makeFolder base parts = .ok e) : d.SameFiles e := by
  rw [makeFolder] at h
  cases hfollow : d.follow base parts with
  | error fault =>
    rw [hfollow] at h
    cases h
  | ok place =>
    rw [hfollow] at h
    simp only [bind, Except.bind] at h
    split_ifs at h <;> cases h <;> exact ⟨rfl, rfl⟩

/-- Folders that are made leave the files as they are. -/
theorem sameFiles_makeParts (d : Disk) (base : Location) (parts : List String) :
    d.SameFiles (d.makeParts base parts).2 := by
  fun_induction makeParts d base parts with
  | case1 => exact ⟨rfl, rfl⟩
  | case2 part outer made hmade => exact sameFiles_makeFolder hmade
  | case3 part outer _ e hinner made hmade ih =>
    rw [hinner] at ih
    have hlast := sameFiles_makeFolder hmade
    exact ⟨hlast.1.trans ih.1, hlast.2.trans ih.2⟩
  | case4 part outer _ e hinner _ _ ih =>
    rwa [hinner] at ih
  | case5 part outer _ _ ih => exact ih
  | case6 => exact ⟨rfl, rfl⟩

variable {ε δ α β : Type}

/-- Work on a disk that leaves every file as it is that none of some paths leads to. -/
def Work.OnlyWrites (paths : List String) (work : Work ε α) : Prop :=
  ∀ d : Disk, (work.run.run d).2.here = d.here ∧
    ∀ place, (∀ path ∈ paths, Path.resolve d.here path ≠ place) →
      (work.run.run d).2.contentAt? place = d.contentAt? place

namespace Work

/-- Work that does nothing writes nothing. -/
theorem onlyWrites_pure (a : α) : OnlyWrites [] (pure a : Work ε α) :=
  fun _ => ⟨rfl, fun _ _ => rfl⟩

/-- Work that succeeds is gone on with. -/
theorem run_bind_of_ok {work : Work ε α} {next : α → Work ε β} {d e : Disk} {a : α}
    (hwork : work.run.run d = (.ok a, e)) : (work >>= next).run.run d = (next a).run.run e := by
  rw [ExceptT.run_bind, StateT.run_bind, hwork]
  rfl

/-- Work that ends in a fault is given up. -/
theorem run_bind_of_error {work : Work ε α} {next : α → Work ε β} {d e : Disk} {fault : ε}
    (hwork : work.run.run d = (.error fault, e)) :
    (work >>= next).run.run d = (.error fault, e) := by
  rw [ExceptT.run_bind, StateT.run_bind, hwork]
  rfl

/-- Work that is done after other work writes what both write. -/
theorem OnlyWrites.bind {first second : List String} {work : Work ε α} {next : α → Work ε β}
    (hwork : OnlyWrites first work) (hnext : ∀ a, OnlyWrites second (next a)) :
    OnlyWrites (first ++ second) (work >>= next) := by
  intro d
  obtain ⟨hhere, hfiles⟩ := hwork d
  rcases hresult : work.run.run d with ⟨result, e⟩
  rw [hresult] at hhere hfiles
  have hbefore : ∀ place, (∀ path ∈ first ++ second, Path.resolve d.here path ≠ place) →
      e.contentAt? place = d.contentAt? place := by
    intro place hplace
    exact hfiles place fun path hpath => hplace path (List.mem_append_left _ hpath)
  cases result with
  | error fault =>
    rw [run_bind_of_error hresult]
    exact ⟨hhere, hbefore⟩
  | ok a =>
    obtain ⟨hhere', hfiles'⟩ := hnext a e
    rw [run_bind_of_ok hresult]
    refine ⟨hhere'.trans hhere, fun place hplace => ?_⟩
    refine (hfiles' place fun path hpath => ?_).trans (hbefore place hplace)
    rw [show e.here = d.here from hhere]
    exact hplace path (List.mem_append_right _ hpath)

/-- Work whose faults are reported in another way writes what it wrote before. -/
theorem OnlyWrites.adapt {paths : List String} {work : Work ε α} (f : ε → δ)
    (hwork : OnlyWrites paths work) : OnlyWrites paths (ExceptT.adapt f work : Work δ α) := by
  intro d
  have hrun : ((ExceptT.adapt f work : Work δ α).run.run d).2 = (work.run.run d).2 := rfl
  rw [hrun]
  exact hwork d

theorem onlyWrites_makeFolders (path : String) : OnlyWrites [] (makeFolders path) := by
  intro d
  have hsame : d.SameFiles (d.makeFolders path).2 := by
    rw [Disk.makeFolders]
    split
    · exact sameFiles_makeParts ..
    · exact ⟨rfl, rfl⟩
  refine ⟨hsame.1, fun place _ => ?_⟩
  exact congrArg (List.lookup place) hsame.2

theorem onlyWrites_write (path text : String) : OnlyWrites [path] (write path text) := by
  intro d
  cases hwrite : d.write path text with
  | error fault =>
    have hrun : ((write path text).run.run d).2 = d := by
      simp only [write, ExceptT.run, ExceptT.mk, StateT.run, hwrite]
    rw [hrun]
    exact ⟨rfl, fun _ _ => rfl⟩
  | ok written =>
    have hrun : ((write path text).run.run d).2 = written := by
      simp only [write, ExceptT.run, ExceptT.mk, StateT.run, hwrite]
    obtain ⟨place, hplace, rfl⟩ := eq_putFile_of_write hwrite
    rw [hrun]
    refine ⟨rfl, fun other hother => ?_⟩
    have hne := hother path (List.mem_singleton_self path)
    rw [Path.resolve_of_locate hplace] at hne
    exact contentAt?_putFile d _ hne.symm

/-- Saving a text writes the file that its path leads to. -/
theorem onlyWrites_save (path text : String) : OnlyWrites [path] (save path text) := by
  rw [save]
  cases Path.parent? path with
  | none => exact (onlyWrites_pure ()).bind fun _ => (onlyWrites_write path text).adapt _
  | some folder =>
    exact ((onlyWrites_makeFolders folder).adapt _).bind fun _ =>
      (onlyWrites_write path text).adapt _

end Work

end Disk

/-- The paths that a descriptor is written to. -/
def Descriptor.paths (folder : String) (d : Descriptor) : List String :=
  (d.body.map (Layout.fragment folder)).toList ++ [Layout.descriptor folder d]

/-- Saving a descriptor writes the files of its body and its document. -/
theorem Descriptor.onlyWrites_save (folder : String) (d : Descriptor) :
    (d.save folder).OnlyWrites (d.paths folder) := by
  have hdocument : Disk.Work.OnlyWrites [Layout.descriptor folder d] (do
      Disk.Work.save (Layout.descriptor folder d) d.content
      return SavedDescriptor.mk (Layout.descriptor folder d)
        (d.body.map (Layout.fragment folder))) := by
    rw [← List.append_nil [_]]
    exact (Disk.Work.onlyWrites_save _ _).bind fun _ => Disk.Work.onlyWrites_pure _
  rw [save, paths]
  cases hbody : d.body with
  | none =>
    rw [hbody] at hdocument
    exact hdocument
  | some f =>
    rw [hbody] at hdocument
    exact (Disk.Work.onlyWrites_save _ _).bind fun _ => hdocument

/-- Saving a structure writes one file. -/
theorem Message.onlyWrites_save (folder : String) (m : Message) :
    (m.save folder).OnlyWrites [m.path folder] := by
  rw [← List.append_nil [_]]
  exact ((Disk.Work.onlyWrites_save _ _).adapt _).bind fun _ => Disk.Work.onlyWrites_pure _

end EdiSchema
