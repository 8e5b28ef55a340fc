import EdiSchema.Proofs.Json.Nesting

/-!
# How deep texts are nested

The depth of a text is the largest number of its arrays and objects that are open at once, whether
anybody reads them or not. A value that is read from a text is nested no deeper than that: the
reader keeps one open value for each bracket that is open, and what stands in one of them leaves
room for those around it. Places that are skimmed only lose nesting, since they come out as `null`.
-/

namespace EdiSchema.Json

/-- The number of brackets that are open behind a token, given the number in front of it. -/
def Token.levelAfter (level : ℕ) : Token → ℕ
  | .openArray => level + 1
  | .openObject => level + 1
  | .closeArray => level - 1
  | .closeObject => level - 1
  | _ => level

/-- The largest number of brackets open at once, from a place where some are open. -/
def depthFrom (level : ℕ) : List Token → ℕ
  | [] => level
  | token :: rest => max level (depthFrom (token.levelAfter level) rest)

theorem level_le_depthFrom (level : ℕ) (found : List Token) : level ≤ depthFrom level found := by
  cases found with
  | nil => exact Nat.le_refl level
  | cons token rest => exact Nat.le_max_left _ _

/-- The largest number of arrays and objects of a text that are open at once. -/
def depthOfText (text : String) : ℕ :=
  ((tokens? text.toList).map (depthFrom 0)).getD 0

section Words

/-- A token that has no value inside another. -/
def Token.IsFlat : Token → Prop
  | .word value => value.nesting = 0
  | _ => True

variable {done found : List Token} {scan : Scan} {c : Char} {cs : List Char}

theorem nesting_of_readWord {value : Json} (h : readWord cs = some value) : value.nesting = 0 := by
  unfold readWord at h
  split_ifs at h
  all_goals
    obtain rfl := Option.some.inj h
    rfl

theorem isFlat_of_ofChar? {token : Token} (h : Token.ofChar? c = some token) : token.IsFlat := by
  unfold Token.ofChar? at h
  split_ifs at h
  all_goals
    obtain rfl := Option.some.inj h
    trivial

/-- A character that starts a token completes none but brackets, commas and colons. -/
theorem isFlat_scanStart {next : List Token × Scan} (h : scanStart done c = some next)
    (hdone : ∀ token ∈ done, token.IsFlat) : ∀ token ∈ next.1, token.IsFlat := by
  unfold scanStart at h
  split_ifs at h
  all_goals try
    obtain rfl := Option.some.inj h
    exact hdone
  obtain ⟨token, htoken, rfl⟩ := Option.map_eq_some_iff.1 h
  exact List.forall_mem_cons.2 ⟨isFlat_of_ofChar? htoken, hdone⟩

/-- Every token that is completed by a character is flat. -/
theorem isFlat_scanChar {next : List Token × Scan} (h : scanChar done c scan = some next)
    (hdone : ∀ token ∈ done, token.IsFlat) : ∀ token ∈ next.1, token.IsFlat := by
  cases scan with
  | between => exact isFlat_scanStart h hdone
  | word letters =>
    simp only [scanChar] at h
    split_ifs at h
    · obtain rfl := Option.some.inj h
      exact hdone
    · obtain ⟨value, hvalue, hstart⟩ := Option.bind_eq_some_iff.1 h
      have hword : (Token.word value).IsFlat := nesting_of_readWord hvalue
      exact isFlat_scanStart hstart (List.forall_mem_cons.2 ⟨hword, hdone⟩)
  | number digits =>
    simp only [scanChar] at h
    split_ifs at h
    · obtain rfl := Option.some.inj h
      exact hdone
    · obtain ⟨value, -, hstart⟩ := Option.bind_eq_some_iff.1 h
      exact isFlat_scanStart hstart (List.forall_mem_cons.2 ⟨trivial, hdone⟩)
  | text s =>
    simp only [scanChar] at h
    split_ifs at h
    · obtain rfl := Option.some.inj h
      exact List.forall_mem_cons.2 ⟨trivial, hdone⟩
    all_goals
      obtain rfl := Option.some.inj h
      exact hdone
  | escape s =>
    simp only [scanChar] at h
    split_ifs at h
    · obtain rfl := Option.some.inj h
      exact hdone
    · obtain ⟨char, -, rfl⟩ := Option.map_eq_some_iff.1 h
      exact hdone
  | hex s count value =>
    obtain ⟨digit, -, rfl⟩ := Option.map_eq_some_iff.1 h
    split <;> exact hdone

/-- Every token that is scanned is flat. -/
theorem isFlat_scanFrom (h : scanFrom done scan cs = some found)
    (hdone : ∀ token ∈ done, token.IsFlat) : ∀ token ∈ found, token.IsFlat := by
  induction cs generalizing done scan with
  | nil =>
    cases scan with
    | between =>
      obtain rfl := Option.some.inj h
      simpa using hdone
    | word letters =>
      obtain ⟨value, hvalue, rfl⟩ := Option.map_eq_some_iff.1 h
      have hall : ∀ token ∈ Token.word value :: done, token.IsFlat :=
        List.forall_mem_cons.2 ⟨nesting_of_readWord hvalue, hdone⟩
      intro token htoken
      exact hall token (List.mem_reverse.1 htoken)
    | number digits =>
      obtain ⟨value, -, rfl⟩ := Option.map_eq_some_iff.1 h
      have hall : ∀ token ∈ Token.number value :: done, token.IsFlat :=
        List.forall_mem_cons.2 ⟨trivial, hdone⟩
      intro token htoken
      exact hall token (List.mem_reverse.1 htoken)
    | text s => cases h
    | escape s => cases h
    | hex s count value => cases h
  | cons c cs ih =>
    rw [scanFrom_cons] at h
    obtain ⟨next, hnext, hrest⟩ := Option.bind_eq_some_iff.1 h
    exact ih hrest (isFlat_scanChar hnext hdone)

end Words

section Reading

/-- The nesting of an open value as far as it has been read. -/
def Frame.nesting : Frame → ℕ
  | .array items => nestingOfItems items + 1
  | .object members _ => nestingOfMembers members + 1

/-- Whether what stands in some open values leaves room for those around it. -/
def Fits (limit : ℕ) : List Frame → Prop
  | [] => True
  | frame :: outer => frame.nesting + outer.length ≤ limit ∧ Fits limit outer

/-- Whether a reading has a number of open values, with everything in them below a limit. -/
structure Reading.Within (limit level : ℕ) (r : Reading) : Prop where
  level : r.opened.length = level
  opened : Fits limit r.opened
  finished : ∀ value, r.expect = .finished value → value.nesting ≤ limit

variable {isRead : List Step → Bool} {limit level : ℕ} {r next : Reading} {frame : Frame}
  {opened outer : List Frame} {value : Json} {token : Token}

theorem Frame.nesting_pos (frame : Frame) : 0 < frame.nesting := by
  cases frame <;> exact Nat.succ_pos _

theorem Fits.length_le (h : Fits limit opened) : opened.length ≤ limit := by
  cases opened with
  | nil => exact Nat.zero_le limit
  | cons frame outer =>
    have hfits := h.1
    have hpos := frame.nesting_pos
    rw [List.length_cons]
    omega

namespace Reading.Within

/-- A value that leaves room for the open ones around it is taken. -/
theorem push {expect : Expect} (hopened : Fits limit opened)
    (hvalue : value.nesting + opened.length ≤ limit) :
    Within limit opened.length (Reading.push ⟨opened, expect⟩ value) := by
  cases opened with
  | nil => exact ⟨rfl, trivial, fun other hother => by cases hother; exact hvalue⟩
  | cons frame outer =>
    have hframe := hopened.1
    rw [List.length_cons] at hvalue
    cases frame with
    | array items =>
      refine ⟨rfl, ⟨?_, hopened.2⟩, fun other hother => by cases hother⟩
      simp only [Frame.nesting, nestingOfItems] at hframe ⊢
      omega
    | object members key =>
      refine ⟨rfl, ⟨?_, hopened.2⟩, fun other hother => by cases hother⟩
      simp only [Frame.nesting, nestingOfMembers] at hframe ⊢
      omega

/-- A scalar is taken, or `null` in its place. -/
theorem pushScalar {scalar : Option Json} (hr : r.Within limit level)
    (hscalar : ∀ value ∈ scalar, value.nesting = 0) (h : r.pushScalar isRead scalar = some next) :
    next.Within limit level := by
  have hroom := hr.opened.length_le
  unfold Reading.pushScalar at h
  split_ifs at h with hskims
  · obtain rfl := Option.some.inj h
    rw [← hr.level]
    exact push hr.opened (by rw [nesting_null]; omega)
  · obtain ⟨value, hvalue, rfl⟩ := Option.map_eq_some_iff.1 h
    rw [← hr.level]
    exact push hr.opened (by rw [hscalar value hvalue]; omega)

/-- A value is opened where there is room for it. -/
theorem enter {expect : Expect} (hr : r.Within limit level) (hframe : frame.nesting = 1)
    (hexpect : ∀ value, expect ≠ .finished value) (hlevel : level + 1 ≤ limit)
    (h : r.enter isRead frame expect = some next) : next.Within limit (level + 1) := by
  have hlength := hr.level
  unfold Reading.enter at h
  split_ifs at h
  obtain rfl := Option.some.inj h
  refine ⟨congrArg (· + 1) hlength, ⟨?_, hr.opened⟩, fun value hvalue => absurd hvalue (hexpect value)⟩
  omega

/-- The innermost open value is taken by the one around it. -/
theorem leave {expect : Expect} (hr : Within limit level ⟨frame :: outer, expect⟩)
    (hvalue : value.nesting = frame.nesting) :
    Within limit (level - 1) (Reading.leave isRead ⟨frame :: outer, expect⟩ value) := by
  have hlevel : outer.length = level - 1 := by
    have hlength := hr.level
    rw [List.length_cons] at hlength
    omega
  have hroom := hr.opened.1
  rw [← hlevel]
  refine push hr.opened.2 ?_
  change nesting (if _ then .null else value) + outer.length ≤ limit
  split
  · rw [nesting_null]
    omega
  · omega

/-- A closing bracket closes the innermost open value. -/
theorem readClose (hr : r.Within limit level) (h : r.readClose isRead token = some next) :
    next.Within limit (token.levelAfter level) := by
  obtain ⟨opened, expect⟩ := r
  simp only [Reading.readClose] at h
  split at h
  · obtain rfl := Option.some.inj h
    exact hr.leave (by rw [Frame.nesting, nesting, nestingOfItems_reverse])
  · obtain rfl := Option.some.inj h
    exact hr.leave (by rw [Frame.nesting, nesting, nestingOfMembers_reverse])
  · cases h

/-- The key of a member changes none of the open values. -/
theorem readKey (hr : r.Within limit level) (h : r.readKey isRead token = some next) :
    next.Within limit (token.levelAfter level) := by
  obtain ⟨opened, expect⟩ := r
  simp only [Reading.readKey] at h
  split at h
  · next members other outer text =>
    have hkey : ∀ key : String, Within limit level ⟨.object members key :: outer, .colon⟩ := by
      intro key
      exact ⟨hr.level, hr.opened, fun value hvalue => by cases hvalue⟩
    split at h
    · obtain rfl := Option.some.inj h
      exact hkey _
    · obtain rfl := Option.some.inj h
      exact hkey _
    · cases h
  · cases h

/-- A token where a value may stand is a scalar or opens one. -/
theorem readValue (hr : r.Within limit level) (htoken : token.IsFlat)
    (hlevel : token.levelAfter level ≤ limit) (h : r.readValue isRead token = some next) :
    next.Within limit (token.levelAfter level) := by
  cases token with
  | word value =>
    refine hr.pushScalar ?_ h
    intro scalar hscalar
    obtain rfl := Option.some.inj hscalar
    exact htoken
  | number value =>
    refine hr.pushScalar ?_ h
    intro scalar hscalar
    obtain ⟨number, -, rfl⟩ := Option.map_eq_some_iff.1 hscalar
    rfl
  | text value =>
    refine hr.pushScalar ?_ h
    intro scalar hscalar
    obtain ⟨text, -, rfl⟩ := Option.map_eq_some_iff.1 hscalar
    rfl
  | openArray => exact hr.enter rfl (fun value hvalue => by cases hvalue) hlevel h
  | openObject => exact hr.enter rfl (fun value hvalue => by cases hvalue) hlevel h
  | closeArray => cases h
  | closeObject => cases h
  | comma => cases h
  | colon => cases h

/-- A token keeps what is read below a limit. -/
theorem read (hr : r.Within limit level) (htoken : token.IsFlat)
    (hlevel : token.levelAfter level ≤ limit) (h : r.read isRead token = some next) :
    next.Within limit (token.levelAfter level) := by
  obtain ⟨opened, expect⟩ := r
  have hsame : ∀ expect : Expect, (∀ value, expect ≠ .finished value) →
      Within limit level ⟨opened, expect⟩ :=
    fun expect hexpect => ⟨hr.level, hr.opened, fun value hvalue => absurd hvalue (hexpect value)⟩
  unfold Reading.read at h
  split at h
  · exact hr.readValue htoken hlevel h
  · exact hr.readClose h
  · exact hr.readValue htoken hlevel h
  · exact hr.readKey h
  · exact hr.readClose h
  · exact hr.readKey h
  · obtain rfl := Option.some.inj h
    exact hsame _ (by simp)
  · cases h
  · split at h
    · obtain rfl := Option.some.inj h
      exact hsame _ (by simp)
    · obtain rfl := Option.some.inj h
      exact hsame _ (by simp)
    · cases h
  · exact hr.readClose h
  · cases h

/-- Tokens that never open more than a limit keep what is read below it. -/
theorem readTokens {found : List Token} (hr : r.Within limit level)
    (hflat : ∀ token ∈ found, token.IsFlat) (hdepth : depthFrom level found ≤ limit)
    (h : found.foldlM (Reading.read isRead) r = some next) : ∃ last, next.Within limit last := by
  induction found generalizing level r with
  | nil =>
    obtain rfl := Option.some.inj h
    exact ⟨level, hr⟩
  | cons token rest ih =>
    obtain ⟨htoken, hrest⟩ := List.forall_mem_cons.1 hflat
    rw [depthFrom] at hdepth
    rw [List.foldlM_cons] at h
    obtain ⟨middle, hread, hfold⟩ := Option.bind_eq_some_iff.1 h
    have hnext : depthFrom (token.levelAfter level) rest ≤ limit := by omega
    exact ih (hr.read htoken (Nat.le_trans (level_le_depthFrom _ rest) hnext) hread) hrest hnext hfold

end Reading.Within

end Reading

/-- The value that is read from a text is nested no deeper than the text. -/
theorem nesting_le_depthOfText {isRead : List Step → Bool} {text : String} {value : Json}
    (h : skim? isRead text = some value) : value.nesting ≤ depthOfText text := by
  obtain ⟨found, hfound, hvalue⟩ := Option.bind_eq_some_iff.1 h
  obtain ⟨r, hfold, hresult⟩ := Option.bind_eq_some_iff.1 hvalue
  have hdepth : depthOfText text = depthFrom 0 found := by
    rw [depthOfText, hfound]
    rfl
  have hstart : Reading.Within (depthFrom 0 found) 0 ⟨[], .value⟩ :=
    ⟨rfl, trivial, fun other hother => by cases hother⟩
  have hflat := isFlat_scanFrom hfound (List.forall_mem_nil _)
  obtain ⟨last, hwithin⟩ := hstart.readTokens hflat (Nat.le_refl _) hfold
  rw [hdepth]
  apply hwithin.finished
  unfold Reading.result? at hresult
  split at hresult
  · next other hexpect =>
    obtain rfl := Option.some.inj hresult
    exact hexpect
  · cases hresult

end EdiSchema.Json
