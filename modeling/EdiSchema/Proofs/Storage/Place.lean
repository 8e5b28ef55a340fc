import Mathlib.Data.List.DropRight
import EdiSchema.Storage.Disk

/-!
# Where paths lead

A path is resolved part by part without looking at a disk: empty parts and single points lead
nowhere, two points lead out of a folder. A disk that can follow a path gets to the same location,
since it holds no links.

Apart from where it starts, a path is described by the folders that it leaves and the names that it
enters after that. This alone tells whether it leads below its start.
-/

namespace EdiSchema.Path

/-- Where one part of a path leads to. -/
def step (place : Location) (part : String) : Location :=
  if part.isEmpty ∨ part = "." then place
  else if part = ".." then place.dropLast
  else place ++ [part]

/-- Where parts of a path lead to. -/
def walk (place : Location) (parts : List String) : Location :=
  parts.foldl step place

/-- Where a path starts, if relative paths start from a location. -/
def start (here : Location) (path : String) : Location :=
  if isAbsolute path then [] else here

/-- Where a path leads to, if relative paths start from a location. -/
def resolve (here : Location) (path : String) : Location :=
  walk (start here path) (parts path)

/-- Whether a path leads below a folder. -/
def Below (here : Location) (folder path : String) : Prop :=
  ∃ names, names ≠ [] ∧ resolve here path = resolve here folder ++ names

section Walk

/-- Parts lead on from where the parts before them lead to. -/
theorem walk_append (place : Location) (first second : List String) :
    walk place (first ++ second) = walk (walk place first) second :=
  List.foldl_append

theorem walk_cons (place : Location) (part : String) (rest : List String) :
    walk place (part :: rest) = walk (step place part) rest :=
  rfl

theorem walk_nil (place : Location) : walk place [] = place :=
  rfl

/-- An empty part at the end leads nowhere. -/
theorem walk_concat_empty (place : Location) (parts : List String) :
    walk place (parts ++ [""]) = walk place parts := by
  simp [walk_append, walk_cons, walk_nil, step]

/-- A single point at the end leads nowhere. -/
theorem walk_concat_point (place : Location) (parts : List String) :
    walk place (parts ++ ["."]) = walk place parts := by
  simp [walk_append, walk_cons, walk_nil, step]

end Walk

section Disk

/-- A disk follows parts to where they lead. -/
theorem walk_of_follow {d : Disk} {place found : Location} {parts : List String}
    (h : d.follow place parts = .ok found) : walk place parts = found := by
  induction parts generalizing place with
  | nil => exact Except.ok.inj h
  | cons part rest ih =>
    rw [Disk.follow] at h
    rw [walk_cons, step]
    split_ifs at h with _ hnowhere hout
    · rw [if_pos hnowhere]
      exact ih h
    · rw [if_neg hnowhere, if_pos hout]
      exact ih h
    · rw [if_neg hnowhere, if_neg hout]
      exact ih h

/-- A disk locates a path where it leads to. -/
theorem resolve_of_locate {d : Disk} {path : String} {found : Location}
    (h : d.locate path = .ok found) : resolve d.here path = found := by
  rw [Disk.locate] at h
  cases hcheck : Disk.checkPath path with
  | error fault =>
    rw [hcheck] at h
    cases h
  | ok _ =>
    rw [hcheck] at h
    exact walk_of_follow h

end Disk

section Parts

/-- The parts on both sides of a slash are those of the path. -/
theorem parts_append_slash (first second : String) :
    parts (first ++ "/" ++ second) = parts first ++ parts second := by
  rw [parts, String.toList_append, String.toList_append, List.append_assoc,
    show "/".toList = ['/'] from rfl, List.singleton_append, List.splitOn_append_cons_self,
    List.map_append]
  rfl

/-- A path without slashes is its only part. -/
theorem parts_eq_singleton {path : String} (hpath : '/' ∉ path.toList) : parts path = [path] := by
  rw [parts, List.splitOn_eq_singleton hpath, List.map_singleton, String.ofList_toList]

/-- What a path starts with decides where it starts. -/
theorem isAbsolute_append {first : String} (hfirst : first ≠ "") (second : String) :
    isAbsolute (first ++ second) = isAbsolute first := by
  obtain ⟨c, cs, hcs⟩ := List.exists_cons_of_ne_nil (mt String.toList_eq_nil_iff.1 hfirst)
  rw [isAbsolute, isAbsolute, String.toList_append, hcs]
  rfl

end Parts

section Join

theorem parts_slash (folder : String) : parts (folder ++ "/") = parts folder ++ [""] := by
  have h := parts_append_slash folder ""
  rwa [String.append_empty] at h

/-- What stands behind a slash leads on from what stands before it. -/
theorem resolve_append (here : Location) (folder path : String) :
    resolve here (folder ++ "/" ++ path) = walk (resolve here (folder ++ "/")) (parts path) := by
  have hslash : folder ++ "/" ≠ "" := by
    simp
  rw [resolve, start, isAbsolute_append hslash, parts_append_slash, walk_append, resolve, start,
    parts_slash, walk_concat_empty]

/-- A slash behind a folder leads nowhere. -/
theorem resolve_slash (here : Location) {folder : String} (hfolder : folder ≠ "") :
    resolve here (folder ++ "/") = resolve here folder := by
  rw [resolve, start, isAbsolute_append hfolder, parts_slash, walk_concat_empty]
  rfl

/-- A path that is joined to a folder leads on from the folder, unless it starts from the root. -/
theorem resolve_join (here : Location) (folder path : String) :
    resolve here (join folder path) =
      if isAbsolute path then walk [] (parts path)
      else walk (resolve here folder) (parts path) := by
  rw [join]
  split
  · next habsolute => rw [resolve, start, if_pos habsolute]
  · next hrelative =>
    split
    · next hend =>
      cases hlast : folder.toList.getLast? with
      | none =>
        -- An empty folder is where relative paths start.
        obtain rfl := String.toList_eq_nil_iff.1 (List.getLast?_eq_none_iff.1 hlast)
        rw [String.empty_append, resolve, start, if_neg hrelative]
        rfl
      | some c =>
        rw [hlast, Option.all_some, beq_iff_eq] at hend
        subst hend
        obtain ⟨front, hfront⟩ := List.getLast?_eq_some_iff.1 hlast
        obtain rfl : folder = String.ofList front ++ "/" := by
          rw [← String.toList_inj, hfront]
          simp
        exact resolve_append here _ path
    · next hend =>
      have hfolder : folder ≠ "" := by
        rintro rfl
        exact hend rfl
      rw [resolve_append, resolve_slash here hfolder]

end Join

section Parent

/-- The slashes and single points at the end of a path lead nowhere. -/
theorem resolve_dropEnd (here : Location) (cs : List Char) :
    resolve here (String.ofList (dropEnd cs).reverse) =
      resolve here (String.ofList cs.reverse) := by
  fun_induction dropEnd cs with
  | case1 => rfl
  | case2 rest hrest ih =>
    have hpath : String.ofList ('/' :: rest).reverse = String.ofList rest.reverse ++ "/" := by
      simp
    rw [ih, hpath, resolve_slash]
    simpa [← String.toList_inj] using hrest
  | case3 rest ih =>
    have hpath : String.ofList ('.' :: '/' :: rest).reverse =
        String.ofList rest.reverse ++ "/" ++ "." := by
      simp [← String.toList_inj]
    have hfolder : String.ofList ('/' :: rest).reverse = String.ofList rest.reverse ++ "/" := by
      simp
    rw [ih, hpath, resolve_append, parts_eq_singleton (by decide), hfolder]
    exact (walk_concat_point _ []).symm
  | case4 rest => rfl

/-- The last part of a path stands behind its last slash. -/
theorem exists_last {path : String} (hslash : '/' ∈ path.toList) :
    ∃ front last, path = front ++ "/" ++ last ∧ '/' ∉ last.toList := by
  obtain ⟨name, before, hsplit, hfree⟩ := List.eq_append_cons_of_mem (List.mem_reverse.2 hslash)
  refine ⟨String.ofList before.reverse, String.ofList name.reverse, ?_, ?_⟩
  · rw [← String.toList_inj, ← List.reverse_reverse path.toList, hsplit]
    simp
  · rwa [String.toList_ofList, List.mem_reverse]

/-- The folder around a path is where the path leads to without its last part. -/
theorem resolve_parent (here : Location) (front : String) {last : String}
    (hfree : '/' ∉ last.toList) (hlast : ∃ c ∈ last.toList.getLast?, c ≠ '.') :
    ∃ folder, parent? (front ++ "/" ++ last) = some folder ∧
      resolve here folder = resolve here (front ++ "/") := by
  obtain ⟨c, hc, hpoint⟩ := hlast
  obtain ⟨rest, hrest⟩ := List.getLast?_eq_some_iff.1 hc
  have hslash : c ≠ '/' := by
    rintro rfl
    exact hfree (List.mem_of_getLast? hc)
  have hpath : (front ++ "/" ++ last).toList.reverse =
      c :: (rest.reverse ++ '/' :: front.toList.reverse) := by
    simp [hrest]
  refine ⟨String.ofList (dropEnd ('/' :: front.toList.reverse)).reverse, ?_, ?_⟩
  · have hend : dropEnd (c :: (rest.reverse ++ '/' :: front.toList.reverse)) =
        c :: (rest.reverse ++ '/' :: front.toList.reverse) := by
      rw [dropEnd]
      · simp [hslash]
      · intro _ h
        exact hslash (List.cons.inj h).1
      · intro _ h
        exact hpoint (List.cons.inj h).1
    have hcut : (c :: (rest.reverse ++ '/' :: front.toList.reverse)).dropWhile (· != '/') =
        '/' :: front.toList.reverse := by
      rw [← List.cons_append, List.dropWhile_append_of_pos, List.dropWhile_cons_of_neg (by simp)]
      intro d hd
      rw [hrest, ← List.mem_reverse, List.reverse_concat] at hfree
      simpa using ne_of_mem_of_not_mem hd hfree
    rw [parent?, hpath, hend]
    split
    · next heq => cases heq
    · next heq => exact absurd (List.cons.inj heq).1 hslash
    · rw [hcut]
  · have hfolder : String.ofList ('/' :: front.toList.reverse).reverse = front ++ "/" := by
      simp
    rw [resolve_dropEnd, hfolder]

/-- The folder around a relative path that is joined to a folder lies where the path leads to from
there without its last part. -/
theorem resolve_parent_join (here : Location) (folder : String) {path : String}
    (hrelative : isAbsolute path = false) (hslash : '/' ∈ path.toList)
    (hlast : ∃ c ∈ path.toList.getLast?, c ≠ '/' ∧ c ≠ '.') :
    ∃ around, parent? (join folder path) = some around ∧
      resolve here around = walk (resolve here folder) (parts path).dropLast := by
  obtain ⟨front, last, rfl, hfree⟩ := exists_last hslash
  obtain ⟨c, hc, hslash, hpoint⟩ := hlast
  have hfront : front ≠ "" := by
    rintro rfl
    simp [isAbsolute] at hrelative
  have habsolute : isAbsolute front = false := by
    rwa [String.append_assoc, isAbsolute_append hfront] at hrelative
  have hlast : last.toList.getLast? = some c := by
    rw [String.toList_append, List.getLast?_append] at hc
    cases hcs : last.toList.getLast? with
    | none =>
      rw [hcs, Option.none_or, String.toList_append, List.getLast?_append] at hc
      exact absurd (Option.some.inj hc).symm hslash
    | some d =>
      rw [hcs] at hc
      exact hc
  have hjoin : join folder (front ++ "/" ++ last) = join folder front ++ "/" ++ last := by
    simp only [join, hrelative, habsolute, Bool.false_eq_true, if_false]
    split <;> simp [String.append_assoc]
  have hne : join folder front ≠ "" := by
    simp only [join, habsolute, Bool.false_eq_true, if_false]
    split <;> simp [hfront]
  obtain ⟨around, haround, hplace⟩ :=
    resolve_parent here (join folder front) hfree ⟨c, hlast, hpoint⟩
  refine ⟨around, hjoin ▸ haround, ?_⟩
  rw [hplace, resolve_slash here hne, resolve_join, habsolute, parts_append_slash,
    parts_eq_singleton hfree, List.dropLast_concat]
  rfl

end Parent

/-- A way that a path leads, wherever it starts: how many folders it leaves, and the names that it
enters after that. -/
structure Way where
  left : ℕ := 0
  names : Location := []

namespace Way

/-- The way with one more part. -/
def step (way : Way) (part : String) : Way :=
  if part.isEmpty ∨ part = "." then way
  else if part = ".." then
    if way.names = [] then { way with left := way.left + 1 }
    else { way with names := way.names.dropLast }
  else { way with names := way.names ++ [part] }

/-- The way that parts lead. -/
def ofParts (parts : List String) : Way :=
  parts.foldl step {}

/-- Where a way leads to. -/
def walk (place : Location) (way : Way) : Location :=
  place.rdrop way.left ++ way.names

/-- Whether a way comes back into the folders that it leaves, and leads on from there. -/
def Stays (place : Location) (way : Way) : Prop :=
  ∃ names, names ≠ [] ∧ way.names = place.rtake way.left ++ names

/-- One more part is walked as it is on its own. -/
theorem walk_step (place : Location) (way : Way) (part : String) :
    (way.step part).walk place = Path.step (way.walk place) part := by
  rw [step, Path.step]
  split_ifs with hnowhere hout hnames
  · rfl
  · simp only [walk, hnames, List.append_nil]
    rw [List.rdrop, List.rdrop, List.dropLast_eq_take, List.take_take, List.length_take]
    congr 1
    omega
  · exact (List.dropLast_append_of_ne_nil hnames).symm
  · exact (List.append_assoc ..).symm

/-- Parts lead where their way leads to. -/
theorem walk_ofParts (place : Location) (parts : List String) :
    (ofParts parts).walk place = Path.walk place parts := by
  have hrun : ∀ way : Way,
      (parts.foldl step way).walk place = Path.walk (way.walk place) parts := by
    induction parts with
    | nil => exact fun _ => rfl
    | cons part rest ih =>
      intro way
      rw [List.foldl_cons, ih, walk_step]
      rfl
  have hstart : ({} : Way).walk place = place := by
    simp [walk]
  rw [ofParts, hrun, hstart]

/-- A way leads below its start if it comes back into the folders that it leaves. -/
theorem stays_iff (place : Location) (way : Way) :
    way.Stays place ↔ ∃ names, names ≠ [] ∧ way.walk place = place ++ names := by
  have hplace : place = place.rdrop way.left ++ place.rtake way.left :=
    (List.take_append_drop _ _).symm
  refine exists_congr fun names => and_congr_right fun _ => ?_
  rw [walk, ← List.append_right_inj (place.rdrop way.left), ← List.append_assoc, ← hplace]

end Way

end EdiSchema.Path
