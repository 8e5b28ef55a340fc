import EdiSchema.Proofs.Descriptor.Naming
import EdiSchema.Proofs.Storage.Saved

/-!
# Files stay in their folder

The files of a descriptor are saved below the root of fragments, and a structure below its folder,
as long as the ways that their paths lead stay there. Names without slashes lead the files of a
descriptor nowhere else. A structure gets out even so: two points as its revision lead to the folder
around the one that was asked for.

A name with slashes may leave the folder: it is not looked at before it becomes part of a path.
-/

namespace EdiSchema

namespace Path

/-- Whether a path leads below a folder can be told from where the two lead. -/
theorem below_iff (here : Location) (folder path : String) :
    Below here folder path ↔
      resolve here folder <+: resolve here path ∧ resolve here folder ≠ resolve here path := by
  constructor
  · rintro ⟨names, hne, hpath⟩
    exact ⟨⟨names, hpath.symm⟩, fun hsame => hne (by simpa [hpath] using hsame)⟩
  · rintro ⟨⟨names, hpath⟩, hne⟩
    refine ⟨names, ?_, hpath.symm⟩
    rintro rfl
    exact hne (by rw [← hpath, List.append_nil])

instance (here : Location) (folder path : String) : Decidable (Below here folder path) :=
  decidable_of_iff _ (below_iff here folder path).symm

/-- A path that leads where parts lead from a folder is below it if the way of the parts stays. -/
theorem below_iff_stays {here : Location} {folder path : String} {parts : List String}
    (h : resolve here path = walk (resolve here folder) parts) :
    Below here folder path ↔ (Way.ofParts parts).Stays (resolve here folder) := by
  rw [Way.stays_iff, Way.walk_ofParts, ← h]
  rfl

/-- A part of more than two characters is a name. -/
theorem step_name (place : Location) {part : String} (hpart : 2 < part.toList.length) :
    step place part = place ++ [part] := by
  have hne : ∀ short : String, short.toList.length ≤ 2 → part ≠ short := by
    rintro short hshort rfl
    omega
  rw [step, if_neg, if_neg (hne ".." (by decide))]
  rw [String.isEmpty_iff]
  exact not_or.2 ⟨hne "" (by decide), hne "." (by decide)⟩

/-- A path without slashes does not start from the root. -/
theorem isAbsolute_eq_false {path : String} (hpath : '/' ∉ path.toList) :
    isAbsolute path = false := by
  rw [isAbsolute, decide_eq_false_iff_not]
  exact fun hhead => hpath (List.mem_of_head? hhead)

/-- A part between two names leads out of the first at most. -/
theorem exists_walk_eq (place : Location) {outer last : String} {middle : List String}
    (houter : 2 < outer.toList.length) (hmiddle : middle.length ≤ 1)
    (hlast : 2 < last.toList.length) :
    ∃ names, names ≠ [] ∧ walk place (outer :: (middle ++ [last])) = place ++ names := by
  have hinner : ∃ names, walk (place ++ [outer]) middle = place ++ names := by
    cases middle with
    | nil => exact ⟨[outer], rfl⟩
    | cons part rest =>
      obtain rfl : rest = [] := by simpa using hmiddle
      rw [walk_cons, walk_nil, step]
      split_ifs
      · exact ⟨[outer], rfl⟩
      · exact ⟨[], by simp⟩
      · exact ⟨[outer, part], by simp⟩
  obtain ⟨names, hnames⟩ := hinner
  refine ⟨names ++ [last], by simp, ?_⟩
  rw [walk_cons, step_name place houter, walk_append, hnames, walk_cons, walk_nil,
    step_name _ hlast, List.append_assoc]

end Path

namespace Naming

/-- A file name does not start from the root. -/
theorem isAbsolute_fileName (dialect : Dialect) (standard revision document : String) :
    Path.isAbsolute (fileName dialect standard revision document) = false := by
  obtain ⟨rest, hrest⟩ := exists_fileName_eq dialect standard revision document
  rw [Path.isAbsolute, hrest]
  rfl

/-- A dialect's folder is one name. -/
theorem parts_folder (dialect : Dialect) : Path.parts dialect.folder = [dialect.folder] :=
  Path.parts_eq_singleton (by cases dialect <;> decide)

end Naming

namespace Descriptor

/-- The parts of the paths of a descriptor below the root of fragments. -/
def places (d : Descriptor) : List (List String) :=
  match d.body with
  | some f => [Path.parts f.path, (Path.parts f.path).dropLast ++ Path.parts d.fileName]
  | none => [d.dialect.folder :: Path.parts d.fileName]

/-- The descriptor of a message is delimited or made of blocks of records. -/
theorem eq_delimited_or_ofBlocks {dialect : Dialect} {options : DescriptorOptions} {m : Message}
    {d : Descriptor} (h : ofMessage dialect options m = .ok d) :
    (∃ interchange, dialect.interchange? = some interchange ∧
      d = delimited dialect interchange options m) ∨
    ∃ blocks, d = ofBlocks m.document blocks := by
  rw [ofMessage] at h
  split at h
  · cases h
  · split at h
    · next interchange hinterchange =>
      exact .inl ⟨interchange, hinterchange, (Except.ok.inj h).symm⟩
    · rw [ofRecords] at h
      split at h
      · cases h
      · split at h
        · next blocks _ => exact .inr ⟨blocks, (Except.ok.inj h).symm⟩
        · cases h

variable (here : Location) (folder : String)

/-- A descriptor leads where its file name leads from its folder. -/
theorem resolve_descriptor {d : Descriptor} (hname : Path.isAbsolute d.fileName = false) :
    Path.resolve here (Layout.descriptor folder d) =
      Path.walk (Path.resolve here (Layout.descriptorFolder folder d)) (Path.parts d.fileName) := by
  rw [Layout.descriptor, Path.resolve_join, hname]
  rfl

/-- The paths of a descriptor lead where its parts lead from the root of fragments. -/
theorem forall₂_places {dialect : Dialect} {options : DescriptorOptions} {m : Message}
    {d : Descriptor} (h : ofMessage dialect options m = .ok d) :
    List.Forall₂ (fun path parts =>
        Path.resolve here path = Path.walk (Path.resolve here (Layout.root folder)) parts)
      (d.paths folder) d.places := by
  rcases eq_delimited_or_ofBlocks h with ⟨interchange, hdialect, rfl⟩ | ⟨blocks, rfl⟩
  · have hpath := Naming.bodyPath_of_interchange hdialect m.revision m.document
    have habsolute : Path.isAbsolute (Naming.bodyPath dialect m.revision m.document) = false := by
      simp only [hpath, String.append_assoc]
      rw [Path.isAbsolute_append] <;> cases dialect <;> decide
    obtain ⟨around, haround, hplace⟩ := Path.resolve_parent_join here (Layout.root folder) habsolute
      (by simp [hpath]) ⟨'l', by simp [hpath, List.getLast?_append, List.getLast?_cons], by decide⟩
    have hfolder : Layout.descriptorFolder folder (delimited dialect interchange options m) =
        around := congrArg (Option.getD · _) haround
    refine .cons ?_ (.cons ?_ .nil)
    · rw [Layout.fragment, Path.resolve_join, habsolute]
      rfl
    · have hname : Path.isAbsolute (delimited dialect interchange options m).fileName = false :=
        Naming.isAbsolute_fileName dialect m.standard m.revision m.document
      rw [resolve_descriptor here folder hname, Path.walk_append, hfolder, hplace]
  · refine .cons ?_ .nil
    have hfolder : Layout.descriptorFolder folder (ofBlocks m.document blocks) =
        Path.join (Layout.root folder) Dialect.idoc.folder := rfl
    have hname : Path.isAbsolute (ofBlocks m.document blocks).fileName = false :=
      Naming.isAbsolute_fileName .idoc Dialect.idoc.name "" m.document
    rw [resolve_descriptor here folder hname, hfolder, Path.resolve_join,
      Naming.parts_folder, if_neg (by decide), ← Path.walk_append, List.singleton_append]
    rfl

/-- The files of a descriptor are below the root of fragments if their ways stay there. -/
theorem below_iff_stays {dialect : Dialect} {options : DescriptorOptions} {m : Message}
    {d : Descriptor} (h : ofMessage dialect options m = .ok d) :
    (∀ path ∈ d.paths folder, Path.Below here (Layout.root folder) path) ↔
      ∀ parts ∈ d.places,
        (Path.Way.ofParts parts).Stays (Path.resolve here (Layout.root folder)) := by
  have hplaces := forall₂_places here folder h
  generalize d.paths folder = paths at hplaces
  generalize d.places = places at hplaces
  induction hplaces with
  | nil => simp
  | cons hpath _ ih =>
    simp only [List.forall_mem_cons]
    exact and_congr (Path.below_iff_stays hpath) ih

/-- Names without slashes are one part each of the paths of a delimited descriptor. -/
theorem places_delimited {dialect : Dialect} {interchange : Interchange}
    (hdialect : dialect.interchange? = some interchange) (options : DescriptorOptions) {m : Message}
    (hnames : ∀ name ∈ [m.standard, m.revision, m.document], '/' ∉ name.toList) :
    (delimited dialect interchange options m).places =
      [[dialect.folder, Text.upper m.revision, Text.upper m.document ++ ".xml"],
        [dialect.folder, Text.upper m.revision,
          Naming.fileName dialect m.standard m.revision m.document]] := by
  have hstandard := hnames m.standard (by simp)
  have hrevision := hnames m.revision (by simp)
  have hdocument := hnames m.document (by simp)
  have hbody : Path.parts (Naming.bodyPath dialect m.revision m.document) =
      [dialect.folder, Text.upper m.revision, Text.upper m.document ++ ".xml"] := by
    rw [Naming.bodyPath_of_interchange hdialect, Path.parts_append_slash,
      Path.parts_append_slash, Naming.parts_folder,
      Path.parts_eq_singleton (Text.notMem_upper (by decide) hrevision),
      Path.parts_eq_singleton (by simp [Text.notMem_upper (by decide) hdocument])]
    rfl
  change [Path.parts (Naming.bodyPath dialect m.revision m.document),
    (Path.parts (Naming.bodyPath dialect m.revision m.document)).dropLast ++
      Path.parts (Naming.fileName dialect m.standard m.revision m.document)] = _
  rw [hbody, Path.parts_eq_singleton
    (Naming.slash_notMem_fileName dialect hstandard hrevision hdocument)]
  rfl

/-- A name without slashes is one part of the path of a document of records. -/
theorem places_ofBlocks {document : String} (hdocument : '/' ∉ document.toList)
    (blocks : List Idoc.Block) :
    (ofBlocks document blocks).places =
      [[Dialect.idoc.folder, Naming.fileName .idoc Dialect.idoc.name "" document]] := by
  change [Dialect.idoc.folder ::
    Path.parts (Naming.fileName .idoc Dialect.idoc.name "" document)] = _
  rw [Path.parts_eq_singleton
    (Naming.slash_notMem_fileName .idoc (by decide) (by decide) hdocument)]

/-- The parts of a descriptor whose names have no slashes have at most one between two names. -/
theorem exists_places_eq {dialect : Dialect} {options : DescriptorOptions} {m : Message}
    {d : Descriptor} (h : ofMessage dialect options m = .ok d)
    (hnames : ∀ name ∈ [m.standard, m.revision, m.document], '/' ∉ name.toList) :
    ∀ parts ∈ d.places, ∃ outer middle last, parts = outer :: (middle ++ [last]) ∧
      2 < outer.toList.length ∧ middle.length ≤ 1 ∧ 2 < last.toList.length := by
  rcases eq_delimited_or_ofBlocks h with ⟨interchange, hdialect, rfl⟩ | ⟨blocks, rfl⟩
  · rw [places_delimited hdialect options hnames]
    refine List.forall_mem_cons.2 ⟨?_, List.forall_mem_singleton.2 ?_⟩
    · exact ⟨_, [_], _, rfl, Naming.two_lt_length_folder dialect, le_rfl, by simp⟩
    · exact ⟨_, [_], _, rfl, Naming.two_lt_length_folder dialect, le_rfl,
        Naming.two_lt_length_fileName ..⟩
  · rw [places_ofBlocks (hnames m.document (by simp)) blocks]
    exact List.forall_mem_singleton.2 ⟨_, [], _, rfl, Naming.two_lt_length_folder .idoc,
      Nat.zero_le 1, Naming.two_lt_length_fileName ..⟩

/-- Names without slashes keep the files of a descriptor below the root of fragments. -/
theorem below_of_slash_notMem {dialect : Dialect} {options : DescriptorOptions} {m : Message}
    {d : Descriptor} (h : ofMessage dialect options m = .ok d)
    (hnames : ∀ name ∈ [m.standard, m.revision, m.document], '/' ∉ name.toList) :
    ∀ path ∈ d.paths folder, Path.Below here (Layout.root folder) path := by
  rw [below_iff_stays here folder h]
  intro parts hparts
  obtain ⟨outer, middle, last, rfl, houter, hmiddle, hlast⟩ :=
    exists_places_eq h hnames parts hparts
  rw [Path.Way.stays_iff, Path.Way.walk_ofParts]
  exact Path.exists_walk_eq _ houter hmiddle hlast

end Descriptor

namespace Message

/-- The parts of the path of a structure below its folder. -/
def place (m : Message) : List String :=
  Path.parts m.revision ++ Path.parts (m.document ++ ".json")

variable (here : Location) (folder : String)

/-- Names that do not start from the root lead on from the folder of a structure. -/
theorem resolve_path {m : Message} (hrevision : Path.isAbsolute m.revision = false)
    (hdocument : Path.isAbsolute m.document = false) :
    Path.resolve here (m.path folder) = Path.walk (Path.resolve here folder) m.place := by
  have hname : Path.isAbsolute (m.document ++ ".json") = false := by
    by_cases hempty : m.document = ""
    · rw [hempty]
      decide
    · rwa [Path.isAbsolute_append hempty]
  rw [path, Path.resolve_join, hname, Path.resolve_join, hrevision, place, Path.walk_append]
  rfl

/-- A structure whose names have no slashes is saved below its folder unless its revision leads out
of it. -/
theorem below_path_iff {m : Message} (hrevision : '/' ∉ m.revision.toList)
    (hdocument : '/' ∉ m.document.toList) :
    Path.Below here folder (m.path folder) ↔
      m.revision ≠ ".." ∨ Path.resolve here folder = [] := by
  have hplace : m.place = [m.revision, m.document ++ ".json"] := by
    rw [place, Path.parts_eq_singleton hrevision, Path.parts_eq_singleton (by simp [hdocument])]
    rfl
  rw [Path.Below, resolve_path here folder (Path.isAbsolute_eq_false hrevision)
    (Path.isAbsolute_eq_false hdocument), hplace, Path.walk_cons, Path.walk_cons, Path.walk_nil,
    Path.step_name _ (by simp)]
  generalize Path.resolve here folder = root
  rw [Path.step]
  split_ifs with hnowhere hout
  · have hne : m.revision ≠ ".." := by
      rintro h
      simp [h] at hnowhere
    exact iff_of_true ⟨[_], by simp, rfl⟩ (.inl hne)
  · simp only [hout, ne_eq, not_true_eq_false, false_or]
    constructor
    · rintro ⟨names, hnames, heq⟩
      by_contra hroot
      have hlength := congrArg List.length heq
      have hlong := List.length_pos_of_ne_nil hnames
      have hfolders := List.length_pos_of_ne_nil hroot
      simp only [List.length_append, List.length_dropLast, List.length_singleton] at hlength
      omega
    · rintro rfl
      exact ⟨[_], by simp, rfl⟩
  · exact iff_of_true ⟨[_, _], by simp, List.append_assoc ..⟩ (.inl hout)

end Message

namespace Descriptor

/-- Saving a descriptor writes nothing but its files, and saving a structure nothing but its own.
The files of a descriptor are below the root of fragments exactly if the ways stay there that their
parts lead, and a structure that does not start from the root is below its folder exactly if its way
stays there. Names without slashes are enough for a descriptor; a structure then gets out by two
points alone. -/
theorem save_confined (m : Message) (here : Location) (folder : String) :
    (∀ dialect options d, ofMessage dialect options m = .ok d →
      (d.save folder).OnlyWrites (d.paths folder) ∧
      ((∀ path ∈ d.paths folder, Path.Below here (Layout.root folder) path) ↔
        ∀ parts ∈ d.places,
          (Path.Way.ofParts parts).Stays (Path.resolve here (Layout.root folder))) ∧
      ((∀ name ∈ [m.standard, m.revision, m.document], '/' ∉ name.toList) →
        ∀ path ∈ d.paths folder, Path.Below here (Layout.root folder) path)) ∧
    (m.save folder).OnlyWrites [m.path folder] ∧
    (Path.isAbsolute m.revision = false → Path.isAbsolute m.document = false →
      (Path.Below here folder (m.path folder) ↔
        (Path.Way.ofParts m.place).Stays (Path.resolve here folder))) ∧
    ((∀ name ∈ [m.revision, m.document], '/' ∉ name.toList) →
      (Path.Below here folder (m.path folder) ↔
        m.revision ≠ ".." ∨ Path.resolve here folder = [])) := by
  refine ⟨?_, m.onlyWrites_save folder, ?_, ?_⟩
  · intro dialect options d h
    exact ⟨onlyWrites_save folder d, below_iff_stays here folder h,
      below_of_slash_notMem here folder h⟩
  · intro hrevision hdocument
    exact Path.below_iff_stays (m.resolve_path here folder hrevision hdocument)
  · intro hnames
    exact m.below_path_iff here folder (hnames _ (by simp)) (hnames _ (by simp))

/-- A message whose revision leads out of a folder. -/
def upward : Message where
  standard := "X12"
  revision := ".."
  document := "850"
  nodes := [.segment { tag := "BEG", requirement := .mandatory }]

/-- A revision of two points leaves a descriptor below the root of fragments, but leads its
structure out of its folder unless that is the root. -/
theorem save_confined_upward :
    ∃ d, ofMessage .x12 {} upward = .ok d ∧ (d.save "ix").OnlyWrites (d.paths "ix") ∧
      (∀ path ∈ d.paths "ix", Path.Below ["work"] (Layout.root "ix") path) ∧
      ¬ Path.Below ["work"] "out" (upward.path "out") ∧
      Path.Below ["work"] "/" (upward.path "/") := by
  have hok : ofMessage .x12 {} upward =
      .ok (delimited .x12 ⟨⟨"\\n", "|", ">"⟩, ["isa", "gs"], ["ge", "iea"], "x"⟩ {} upward) := rfl
  have hnames : ∀ name ∈ [upward.revision, upward.document], '/' ∉ name.toList := by decide
  obtain ⟨hwrites, -, hbelow⟩ := (save_confined upward ["work"] "ix").1 _ _ _ hok
  refine ⟨_, hok, hwrites, hbelow (by decide), ?_, ?_⟩
  · rw [(save_confined upward ["work"] "out").2.2.2 hnames]
    decide
  · rw [(save_confined upward ["work"] "/").2.2.2 hnames]
    exact .inr rfl

/-- A message whose names lead out of their folders. -/
def straying : Message where
  standard := "/../../../x"
  revision := ".."
  document := "ORDERS"
  nodes := [.segment { tag := "BGM", requirement := .mandatory }]

/-- The names of a message lead its descriptor and its structure out of their folders. -/
theorem save_strays :
    (∃ d, ofMessage .edifact {} straying = .ok d ∧
      Layout.descriptor "ix" d = "ix/SFEDI/format/edifact/../DN__/../../../x-..-ORDERS.xml" ∧
      Layout.descriptor "ix" d ∈ d.paths "ix" ∧
      ¬ Path.Below ["work"] (Layout.root "ix") (Layout.descriptor "ix" d)) ∧
    straying.path "out" = "out/../ORDERS.json" ∧
    ¬ Path.Below ["work"] "out" (straying.path "out") := by
  refine ⟨⟨_, rfl, ?_, ?_, ?_⟩, ?_, ?_⟩ <;> decide +kernel

end Descriptor

end EdiSchema
