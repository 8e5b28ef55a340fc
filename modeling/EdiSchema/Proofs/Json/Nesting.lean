import EdiSchema.Json.Reader
import EdiSchema.Proofs.Json.Spelling

/-!
# How deep values are nested

The reader follows the tokens of a value over the stack of open arrays and objects. It reads a value
whose places are all read if that is not nested too deep, and refuses it otherwise: values are
pushed with the number of open ones at most `depthLimit`, which is the only test that they meet.

For a value inside others, the limit is on its own nesting with the number of values around it.
-/

namespace EdiSchema.Json

mutual
/-- The largest number of arrays and objects around any value, itself included. -/
def nesting : Json → ℕ
  | .array items => nestingOfItems items + 1
  | .object members => nestingOfMembers members + 1
  | _ => 0

/-- The nesting of the items of an array. -/
def nestingOfItems : List Json → ℕ
  | [] => 0
  | item :: rest => max (nesting item) (nestingOfItems rest)

/-- The nesting of the members of an object. -/
def nestingOfMembers : List (String × Json) → ℕ
  | [] => 0
  | (_, value) :: rest => max (nesting value) (nestingOfMembers rest)
end

theorem nesting_null : nesting .null = 0 :=
  rfl

section Parts

variable {bound : ℕ}

/-- The items of an array are nested no deeper than all of them together. -/
theorem nestingOfItems_le_iff {items : List Json} :
    nestingOfItems items ≤ bound ↔ ∀ item ∈ items, item.nesting ≤ bound := by
  induction items with
  | nil => simp [nestingOfItems]
  | cons item rest ih => rw [nestingOfItems, Nat.max_le, ih, List.forall_mem_cons]

/-- The members of an object are nested no deeper than all of them together. -/
theorem nestingOfMembers_le_iff {members : List (String × Json)} :
    nestingOfMembers members ≤ bound ↔ ∀ member ∈ members, member.2.nesting ≤ bound := by
  induction members with
  | nil => simp [nestingOfMembers]
  | cons member rest ih => rw [nestingOfMembers, Nat.max_le, ih, List.forall_mem_cons]

theorem nesting_le_nestingOfItems {items : List Json} {item : Json} (hitem : item ∈ items) :
    item.nesting ≤ nestingOfItems items :=
  nestingOfItems_le_iff.1 (Nat.le_refl _) item hitem

theorem nesting_le_nestingOfMembers {members : List (String × Json)} {member : String × Json}
    (hmember : member ∈ members) : member.2.nesting ≤ nestingOfMembers members :=
  nestingOfMembers_le_iff.1 (Nat.le_refl _) member hmember

/-- Values that are written are nested no deeper than a common bound. -/
theorem nestingOfItems_map_le {α : Type} {write : α → Json} {as : List α}
    (h : ∀ a ∈ as, (write a).nesting ≤ bound) : nestingOfItems (as.map write) ≤ bound := by
  apply nestingOfItems_le_iff.2
  intro json hjson
  obtain ⟨a, ha, rfl⟩ := List.mem_map.1 hjson
  exact h a ha

theorem nestingOfItems_reverse (items : List Json) :
    nestingOfItems items.reverse = nestingOfItems items := by
  apply Nat.le_antisymm
  · apply nestingOfItems_le_iff.2
    intro item hitem
    exact nesting_le_nestingOfItems (List.mem_reverse.1 hitem)
  · apply nestingOfItems_le_iff.2
    intro item hitem
    exact nesting_le_nestingOfItems (List.mem_reverse.2 hitem)

theorem nestingOfMembers_reverse (members : List (String × Json)) :
    nestingOfMembers members.reverse = nestingOfMembers members := by
  apply Nat.le_antisymm
  · apply nestingOfMembers_le_iff.2
    intro member hmember
    exact nesting_le_nestingOfMembers (List.mem_reverse.1 hmember)
  · apply nestingOfMembers_le_iff.2
    intro member hmember
    exact nesting_le_nestingOfMembers (List.mem_reverse.2 hmember)

end Parts

/-- Whether a textual value at some place is read with everything in it. -/
inductive Watched (isRead : List Step → Bool) : List Step → Json → Prop
  | text {place : List Step} (s : String) (hread : isRead place = true) :
      Watched isRead place (.text s)
  | array {place : List Step} {items : List Json} (hread : isRead place = true)
      (hitems : ∀ item ∈ items, Watched isRead (place ++ [.item]) item) :
      Watched isRead place (.array items)
  | object {place : List Step} {members : List (String × Json)} (hread : isRead place = true)
      (hmembers : ∀ member ∈ members, Watched isRead (place ++ [.member member.1]) member.2) :
      Watched isRead place (.object members)

/-- The place at which the innermost of some open values is filled. -/
def placeOf (opened : List Frame) : List Step :=
  opened.reverse.map Frame.step

section

variable {isRead : List Step → Bool} {place : List Step} {value : Json} {opened : List Frame}

/-- A value that is watched is textual. -/
theorem Watched.textual (hwatched : Watched isRead place value) : Textual value := by
  induction hwatched with
  | text s _ => exact .text s
  | array _ _ ih => exact .array ih
  | object _ _ ih => exact .object ih

/-- A textual value is watched where everything is read. -/
theorem Textual.watched (htextual : Textual value)
    (hread : ∀ steps, isRead (place ++ steps) = true) : Watched isRead place value := by
  have hplace : isRead place = true := by simpa using hread []
  induction htextual generalizing place with
  | text s => exact .text s hplace
  | array _ ih =>
    refine .array hplace fun item hitem => ih item hitem (fun steps => ?_) (hread [.item])
    simpa using hread (.item :: steps)
  | object _ ih =>
    refine .object hplace fun member hmember =>
      ih member hmember (fun steps => ?_) (hread [.member member.1])
    simpa using hread (.member member.1 :: steps)

/-- The place inside one more open value. -/
theorem placeOf_cons (frame : Frame) (opened : List Frame) :
    placeOf (frame :: opened) = placeOf opened ++ [frame.step] := by
  simp [placeOf]

/-- A place that is read is not skimmed. -/
theorem skims_eq_false {expect : Expect} (hread : isRead (placeOf opened) = true) :
    Reading.skims isRead ⟨opened, expect⟩ = false := by
  rw [Reading.skims, Bool.not_eq_false']
  exact hread

/-- The reading of some tokens. -/
def readTokens (isRead : List Step → Bool) (found : List Token) (r : Reading) : Option Reading :=
  found.foldlM (Reading.read isRead) r

/-- Tokens are read in two parts. -/
theorem readTokens_append (first second : List Token) (r : Reading) :
    readTokens isRead (first ++ second) r =
      (readTokens isRead first r).bind (readTokens isRead second) :=
  List.foldlM_append

/-- A reading that is reached if no more values than `depthLimit` have to be open. -/
def within (depth : ℕ) (r : Reading) : Option Reading :=
  if depth ≤ depthLimit then some r else none

/-- A reading goes on from where it is reached. -/
theorem within_bind_some {depth : ℕ} {r s : Reading} {next : Reading → Option Reading}
    (hnext : next r = some s) : (within depth r).bind next = within depth s := by
  unfold within
  split
  · exact hnext
  · rfl

/-- A reading may have to open more values later than before. -/
theorem within_bind_within {depth further : ℕ} {r s : Reading} {next : Reading → Option Reading}
    (hnext : depth ≤ depthLimit → next r = within further s) :
    (within depth r).bind next = within (max depth further) s := by
  unfold within at *
  by_cases hdepth : depth ≤ depthLimit
  · rw [if_pos hdepth, Option.bind_some, hnext hdepth]
    simp only [Nat.max_le, hdepth, true_and]
  · rw [if_neg hdepth, if_neg fun h => hdepth (Nat.max_le.1 h).1]
    rfl

/-- An array opens where it is read. -/
theorem readTokens_openArray (hread : isRead (placeOf opened) = true) :
    readTokens isRead [.openArray] ⟨opened, .value⟩ =
      within (opened.length + 1) ⟨.array [] :: opened, .itemOrClose⟩ := by
  have henter : readTokens isRead [.openArray] ⟨opened, .value⟩ =
      if opened.length < depthLimit then some ⟨.array [] :: opened, .itemOrClose⟩ else none := by
    simp [readTokens, Reading.read, Reading.readValue, Reading.enter, skims_eq_false hread]
  exact henter

/-- An object opens where it is read. -/
theorem readTokens_openObject (hread : isRead (placeOf opened) = true) :
    readTokens isRead [.openObject] ⟨opened, .value⟩ =
      within (opened.length + 1) ⟨.object [] "" :: opened, .keyOrClose⟩ := by
  have henter : readTokens isRead [.openObject] ⟨opened, .value⟩ =
      if opened.length < depthLimit then some ⟨.object [] "" :: opened, .keyOrClose⟩ else none := by
    simp [readTokens, Reading.read, Reading.readValue, Reading.enter, skims_eq_false hread]
  exact henter

/-- An array or object that is complete is a value at its place. -/
theorem leave_of_isRead (hread : isRead (placeOf opened) = true) (frame : Frame) (expect : Expect)
    (value : Json) :
    Reading.leave isRead ⟨frame :: opened, expect⟩ value = Reading.push ⟨opened, .value⟩ value := by
  simp [Reading.leave, skims_eq_false hread]

/-- Whether a value is read where it stands, unless it is nested too deep. -/
def ReadAt (isRead : List Step → Bool) (opened : List Frame) (value : Json) : Prop :=
  readTokens isRead (tokens value) ⟨opened, .value⟩ =
    within (opened.length + value.nesting) (Reading.push ⟨opened, .value⟩ value)

/-- The items of an array are read one after the other. -/
theorem readTokens_itemTokens (items : List Json) (hitems : items ≠ []) (before : List Json)
    (hread : ∀ item ∈ items, ∀ before, ReadAt isRead (.array before :: opened) item) :
    readTokens isRead (itemTokens items) ⟨.array before :: opened, .value⟩ =
      within (opened.length + 1 + nestingOfItems items)
        ⟨.array (items.reverse ++ before) :: opened, .commaOrClose⟩ := by
  induction items generalizing before with
  | nil => exact absurd rfl hitems
  | cons item rest ih =>
    obtain ⟨hitem, hrest⟩ := List.forall_mem_cons.1 hread
    have hfirst := hitem before
    rw [ReadAt, List.length_cons] at hfirst
    cases rest with
    | nil => simpa [itemTokens, nestingOfItems, Reading.push] using hfirst
    | cons next rest =>
      have htokens : itemTokens (item :: next :: rest) =
          tokens item ++ [.comma] ++ itemTokens (next :: rest) := rfl
      have hcomma : readTokens isRead [.comma]
          (Reading.push ⟨.array before :: opened, .value⟩ item) =
            some ⟨.array (item :: before) :: opened, .value⟩ := rfl
      have hnesting : nestingOfItems (item :: next :: rest) =
          max item.nesting (nestingOfItems (next :: rest)) := rfl
      have hothers := ih (by simp) (item :: before) hrest
      rw [htokens, readTokens_append, readTokens_append, hfirst, within_bind_some hcomma,
        within_bind_within fun _ => hothers, Nat.add_max_add_left, hnesting]
      simp

/-- The members of an object are read one after the other. -/
theorem readTokens_memberTokens (members : List (String × Json)) (hmembers : members ≠ [])
    (before : List (String × Json)) (key : String)
    (hread : ∀ member ∈ members, ∀ before,
      ReadAt isRead (.object before member.1 :: opened) member.2) :
    ∃ last, readTokens isRead (memberTokens members) ⟨.object before key :: opened, .key⟩ =
      within (opened.length + 1 + nestingOfMembers members)
        ⟨.object (members.reverse ++ before) last :: opened, .commaOrClose⟩ := by
  induction members generalizing before key with
  | nil => exact absurd rfl hmembers
  | cons member rest ih =>
    obtain ⟨name, value⟩ := member
    obtain ⟨hmember, hrest⟩ := List.forall_mem_cons.1 hread
    have hvalue := hmember before
    rw [ReadAt, List.length_cons] at hvalue
    have hname : readTokens isRead [.text (some name), .colon]
        ⟨.object before key :: opened, .key⟩ = some ⟨.object before name :: opened, .value⟩ := rfl
    cases rest with
    | nil =>
      refine ⟨name, ?_⟩
      rw [memberTokens, readTokens_append, hname]
      simpa [nestingOfMembers, Reading.push] using hvalue
    | cons next rest =>
      have htokens : memberTokens ((name, value) :: next :: rest) =
          [.text (some name), .colon] ++ tokens value ++ [.comma] ++
            memberTokens (next :: rest) := rfl
      have hcomma : readTokens isRead [.comma]
          (Reading.push ⟨.object before name :: opened, .value⟩ value) =
            some ⟨.object ((name, value) :: before) name :: opened, .key⟩ := rfl
      have hnesting : nestingOfMembers ((name, value) :: next :: rest) =
          max value.nesting (nestingOfMembers (next :: rest)) := rfl
      obtain ⟨last, hothers⟩ := ih (by simp) ((name, value) :: before) name hrest
      refine ⟨last, ?_⟩
      rw [htokens, readTokens_append, readTokens_append, readTokens_append, hname,
        Option.bind_some, hvalue, within_bind_some hcomma, within_bind_within fun _ => hothers,
        Nat.add_max_add_left, hnesting]
      simp

/-- The first item of an array is read like the others. -/
theorem readTokens_itemOrClose {items : List Json} (hitems : items ≠ []) :
    readTokens isRead (itemTokens items) ⟨opened, .itemOrClose⟩ =
      readTokens isRead (itemTokens items) ⟨opened, .value⟩ := by
  cases items with
  | nil => exact absurd rfl hitems
  | cons item rest => cases item <;> cases rest <;> rfl

/-- The first key of an object is read like the others. -/
theorem readTokens_keyOrClose {members : List (String × Json)} (hmembers : members ≠ []) :
    readTokens isRead (memberTokens members) ⟨opened, .keyOrClose⟩ =
      readTokens isRead (memberTokens members) ⟨opened, .key⟩ := by
  cases members with
  | nil => exact absurd rfl hmembers
  | cons member rest => cases rest <;> rfl

/-- A value between brackets is read if what the brackets enclose is. -/
theorem readAt_enclosed {frame : Frame} {expect : Expect} {start finish : Token}
    {body : List Token} {depth : ℕ} (htokens : tokens value = [start] ++ body ++ [finish])
    (hnesting : value.nesting = depth + 1)
    (hstart : readTokens isRead [start] ⟨opened, .value⟩ =
      within (opened.length + 1) ⟨frame :: opened, expect⟩)
    (hbody : opened.length + 1 ≤ depthLimit →
      (readTokens isRead body ⟨frame :: opened, expect⟩).bind (readTokens isRead [finish]) =
        within (opened.length + 1 + depth) (Reading.push ⟨opened, .value⟩ value)) :
    ReadAt isRead opened value := by
  rw [ReadAt, htokens, readTokens_append, readTokens_append, hstart, Option.bind_assoc,
    within_bind_within hbody, hnesting, Nat.max_eq_right (Nat.le_add_right _ _)]
  congr 1
  omega

/-- An array whose items are read is read to its end. -/
theorem readAt_array {items : List Json} (hread : isRead (placeOf opened) = true)
    (hitems : opened.length + 1 ≤ depthLimit →
      ∀ item ∈ items, ∀ before, ReadAt isRead (.array before :: opened) item) :
    ReadAt isRead opened (.array items) := by
  refine readAt_enclosed rfl rfl (readTokens_openArray hread) fun hopen => ?_
  have hclose : ∀ before expect, expect = .itemOrClose ∨ expect = .commaOrClose →
      readTokens isRead [.closeArray] ⟨.array before :: opened, expect⟩ =
        some (Reading.push ⟨opened, .value⟩ (.array before.reverse)) := by
    rintro before expect (rfl | rfl)
    all_goals
      rw [← leave_of_isRead hread]
      rfl
  cases items with
  | nil =>
    have hempty := hclose [] .itemOrClose (Or.inl rfl)
    exact hempty.trans (if_pos (by rwa [nestingOfItems])).symm
  | cons item rest =>
    have hlast := hclose ((item :: rest).reverse ++ []) .commaOrClose (Or.inr rfl)
    rw [List.append_nil, List.reverse_reverse] at hlast
    rw [readTokens_itemOrClose (by simp), readTokens_itemTokens _ (by simp) [] (hitems hopen),
      List.append_nil, within_bind_some hlast]

/-- An object whose members are read is read to its end. -/
theorem readAt_object {members : List (String × Json)} (hread : isRead (placeOf opened) = true)
    (hmembers : opened.length + 1 ≤ depthLimit →
      ∀ member ∈ members, ∀ before, ReadAt isRead (.object before member.1 :: opened) member.2) :
    ReadAt isRead opened (.object members) := by
  refine readAt_enclosed rfl rfl (readTokens_openObject hread) fun hopen => ?_
  have hclose : ∀ before key expect, expect = .keyOrClose ∨ expect = .commaOrClose →
      readTokens isRead [.closeObject] ⟨.object before key :: opened, expect⟩ =
        some (Reading.push ⟨opened, .value⟩ (.object before.reverse)) := by
    rintro before key expect (rfl | rfl)
    all_goals
      rw [← leave_of_isRead hread]
      rfl
  cases members with
  | nil =>
    have hempty := hclose [] "" .keyOrClose (Or.inl rfl)
    exact hempty.trans (if_pos (by rwa [nestingOfMembers])).symm
  | cons member rest =>
    obtain ⟨last, hbody⟩ := readTokens_memberTokens _ (by simp) [] "" (hmembers hopen)
    have hlast := hclose ((member :: rest).reverse ++ []) last .commaOrClose (Or.inr rfl)
    rw [List.append_nil, List.reverse_reverse] at hlast
    rw [readTokens_keyOrClose (by simp), hbody, List.append_nil, within_bind_some hlast]

/-- A watched value is read where it stands. -/
theorem Watched.readAt (hwatched : Watched isRead place value) (hplace : placeOf opened = place)
    (hroom : opened.length ≤ depthLimit) : ReadAt isRead opened value := by
  induction hwatched generalizing opened with
  | text s hread =>
    subst hplace
    simp [ReadAt, readTokens, tokens, nesting, within, hroom, Reading.read, Reading.readValue,
      Reading.pushScalar, skims_eq_false hread]
  | array hread _ ih =>
    subst hplace
    exact readAt_array hread fun hopen item hitem before =>
      ih item hitem (placeOf_cons (.array before) opened) hopen
  | object hread _ ih =>
    subst hplace
    exact readAt_object hread fun hopen member hmember before =>
      ih member hmember (placeOf_cons (.object before member.1) opened) hopen

/-- A text with the tokens of a watched value is read as the value, unless it is nested too deep. -/
theorem Watched.skim?_eq (hwatched : Watched isRead [] value) {text : String}
    (htext : tokens? text.toList = some (tokens value)) :
    skim? isRead text = if value.nesting ≤ depthLimit then some value else none := by
  have hread : readTokens isRead (tokens value) ⟨[], .value⟩ = _ :=
    hwatched.readAt rfl (Nat.zero_le depthLimit)
  rw [skim?, htext, Option.bind_some, ofTokens?]
  change (readTokens isRead (tokens value) ⟨[], .value⟩).bind _ = _
  rw [hread, List.length_nil, Nat.zero_add, within]
  split <;> rfl

/-- The text of a watched value is read as the value, unless it is nested too deep. -/
theorem Watched.skim?_pretty (hwatched : Watched isRead [] value) :
    skim? isRead value.pretty = if value.nesting ≤ depthLimit then some value else none :=
  hwatched.skim?_eq hwatched.textual.tokens?_pretty

end

end EdiSchema.Json
