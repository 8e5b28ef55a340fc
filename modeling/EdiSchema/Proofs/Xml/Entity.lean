import Mathlib.Data.List.TakeWhile
import EdiSchema.Proofs.Xml.Reader

/-!
# Reading entities

A reader for documents that are put together from entities. It finds which entities are declared,
each with the path of its file, and which are referred to, each with the elements around it. Like
any reader of XML it takes a document character by character: a tag ends at an angle bracket that
does not stand between double quotes, and an end tag has to end the innermost element.

The brackets around declarations are taken for the ends of tags. What else a tag says is skipped.
-/

namespace EdiSchema.Xml

/-- What a document says about entities: those declared, with their paths, and those referred to,
with the elements around each, outermost first. -/
structure Entities where
  declared : List (String × String) := []
  referred : List (List String × String) := []
  deriving DecidableEq

namespace Entities

/-- Where in a document a reader is. -/
inductive Mode where
  | content
  /-- Behind an ampersand. -/
  | reference
  /-- In a tag or a declaration. -/
  | markup
  /-- Between double quotes in a tag or a declaration. -/
  | quoted
  deriving DecidableEq

/-- What has been read of a document: the characters of the reference or tag that is being read, in
reverse, the elements that are open, outermost first, and the entities so far. -/
structure State where
  mode : Mode := .content
  piece : List Char := []
  opened : List String := []
  found : Entities := {}
  deriving DecidableEq

/-- The name and the path of the entity that a tag declares, if it declares one. -/
def declaration? : List Char → Option (String × String)
  | '!' :: 'E' :: 'N' :: 'T' :: 'I' :: 'T' :: 'Y' :: ' ' :: rest =>
    match rest.dropWhile (· != ' ') with
    | ' ' :: 'S' :: 'Y' :: 'S' :: 'T' :: 'E' :: 'M' :: ' ' :: '"' :: value =>
      if value.dropWhile (· != '"') = ['"'] then
        some (String.ofList (rest.takeWhile (· != ' ')),
          String.ofList (value.takeWhile (· != '"')))
      else none
    | _ => none
  | _ => none

/-- The state behind a tag. -/
def State.close? (s : State) : Option State :=
  let tag := s.piece.reverse
  match declaration? tag with
  | some entity =>
    some { opened := s.opened, found := { s.found with declared := s.found.declared ++ [entity] } }
  | none =>
    match tag with
    | '?' :: _ => some { opened := s.opened, found := s.found }
    | '!' :: _ => some { opened := s.opened, found := s.found }
    | '/' :: name =>
      if s.opened.getLast? = some (String.ofList name) then
        some { opened := s.opened.dropLast, found := s.found }
      else none
    | _ =>
      if tag.getLast? = some '/' then some { opened := s.opened, found := s.found }
      else
        let name := String.ofList (tag.takeWhile (· != ' '))
        some { opened := s.opened ++ [name], found := s.found }

/-- The state behind a reference. -/
def State.refer (s : State) : State where
  opened := s.opened
  found := { s.found with
    referred := s.found.referred ++ [(s.opened, String.ofList s.piece.reverse)] }

/-- One character of a document. -/
def State.step? (s : State) (c : Char) : Option State :=
  match s.mode with
  | .content =>
    if c = '<' then some { s with mode := .markup, piece := [] }
    else if c = '&' then some { s with mode := .reference, piece := [] }
    else some s
  | .reference =>
    if c = ';' then some s.refer
    else if isNameChar c then some { s with piece := c :: s.piece }
    else none
  | .markup =>
    if c = '>' ∨ c = '[' then s.close?
    else if c = '<' then none
    else some { s with mode := if c = '"' then .quoted else .markup, piece := c :: s.piece }
  | .quoted =>
    some { s with mode := if c = '"' then .markup else .quoted, piece := c :: s.piece }

/-- Some characters of a document. -/
def State.run? (s : State) (cs : List Char) : Option State :=
  cs.foldlM State.step? s

/-- The entities of a document in which every tag and every element is ended. -/
def read? (document : String) : Option Entities :=
  (({} : State).run? document.toList).bind fun s =>
    if s.mode = .content ∧ s.opened = [] then some s.found else none

/-- Between tags and references, in some open elements. -/
abbrev between (opened : List String) (found : Entities) : State :=
  { opened := opened, found := found }

section Run

theorem State.run?_append (s : State) (first second : List Char) :
    s.run? (first ++ second) = (s.run? first).bind fun next => next.run? second :=
  List.foldlM_append

/-- Characters that end no tag become part of it. -/
theorem State.run?_markup {s : State} (hmode : s.mode = .markup) {cs : List Char}
    (hcs : ∀ c ∈ cs, c ∉ ['<', '>', '[', '"']) :
    s.run? cs = some { s with piece := cs.reverse ++ s.piece } := by
  induction cs generalizing s with
  | nil => rfl
  | cons c cs ih =>
    obtain ⟨hc, hrest⟩ := List.forall_mem_cons.1 hcs
    have hstep : s.step? c = some { s with piece := c :: s.piece } := by
      simp only [List.mem_cons, List.not_mem_nil, or_false, not_or] at hc
      simp [step?, hmode, hc]
    rw [run?, List.foldlM_cons, hstep, List.reverse_cons, List.append_assoc]
    exact ih hmode hrest

/-- A text between double quotes becomes part of a tag. -/
theorem State.run?_quoted {s : State} (hmode : s.mode = .quoted) {cs : List Char}
    (hcs : '"' ∉ cs) :
    s.run? (cs ++ ['"']) =
      some { s with mode := .markup, piece := '"' :: (cs.reverse ++ s.piece) } := by
  induction cs generalizing s with
  | nil => simp [run?, step?, hmode]
  | cons c cs ih =>
    rw [List.mem_cons, not_or] at hcs
    have hstep : s.step? c = some { s with piece := c :: s.piece } := by
      simp [step?, hmode, Ne.symm hcs.1]
    rw [run?, List.cons_append, List.foldlM_cons, hstep, List.reverse_cons, List.append_assoc]
    exact ih hmode hcs.2

/-- The characters of a name become part of a reference. -/
theorem State.run?_reference {s : State} (hmode : s.mode = .reference) {cs : List Char}
    (hcs : ∀ c ∈ cs, isNameChar c = true) :
    s.run? cs = some { s with piece := cs.reverse ++ s.piece } := by
  induction cs generalizing s with
  | nil => rfl
  | cons c cs ih =>
    obtain ⟨hc, hrest⟩ := List.forall_mem_cons.1 hcs
    have hne : c ≠ ';' := by
      rintro rfl
      exact absurd hc (by decide)
    have hstep : s.step? c = some { s with piece := c :: s.piece } := by
      simp [step?, hmode, hc, hne]
    rw [run?, List.foldlM_cons, hstep, List.reverse_cons, List.append_assoc]
    exact ih hmode hrest

/-- A text is cut at the first place where a character occurs. -/
theorem takeWhile_dropWhile_ne {c : Char} {front : List Char} (hfront : c ∉ front)
    (rest : List Char) :
    (front ++ c :: rest).takeWhile (· != c) = front ∧
      (front ++ c :: rest).dropWhile (· != c) = c :: rest := by
  have hpos : ∀ d ∈ front, (d != c) = true := fun d hd => by
    simpa using ne_of_mem_of_not_mem hd hfront
  rw [List.takeWhile_append_of_pos hpos, List.dropWhile_append_of_pos hpos,
    List.takeWhile_cons_of_neg (by simp), List.dropWhile_cons_of_neg (by simp)]
  exact ⟨List.append_nil _, rfl⟩

/-- The declaration of an entity is told from other tags. -/
theorem declaration?_eq_some {name path : List Char} (hname : ' ' ∉ name) (hpath : '"' ∉ path) :
    declaration? ("!ENTITY ".toList ++ (name ++ " SYSTEM \"".toList ++ (path ++ ['"']))) =
      some (String.ofList name, String.ofList path) := by
  obtain ⟨htake, hdrop⟩ := takeWhile_dropWhile_ne hname ("SYSTEM \"".toList ++ (path ++ ['"']))
  obtain ⟨htakePath, hdropPath⟩ := takeWhile_dropWhile_ne hpath []
  have htag : "!ENTITY ".toList ++ (name ++ " SYSTEM \"".toList ++ (path ++ ['"'])) =
      '!' :: 'E' :: 'N' :: 'T' :: 'I' :: 'T' :: 'Y' :: ' ' ::
        (name ++ ' ' :: ("SYSTEM \"".toList ++ (path ++ ['"']))) := by
    simp
  rw [htag, declaration?, hdrop, htake]
  simp [hdropPath, htakePath]

/-- A tag that declares an entity adds it to those declared. -/
theorem State.run?_declaration {s : State} (hmode : s.mode = .markup) {entity : String × String}
    (hentity : declaration? s.piece.reverse = some entity) :
    s.run? ['>', '\n'] = some (between s.opened
      { s.found with declared := s.found.declared ++ [entity] }) := by
  have hclose : s.step? '>' = some (between s.opened
      { s.found with declared := s.found.declared ++ [entity] }) := by
    simp [step?, hmode, close?, hentity]
  rw [run?, List.foldlM_cons, hclose]
  rfl

end Run

end Entities

end EdiSchema.Xml
