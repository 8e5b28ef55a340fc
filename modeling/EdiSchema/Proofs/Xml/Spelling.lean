import Mathlib.Data.List.Basic
import EdiSchema.Proofs.Text.Scan
import EdiSchema.Proofs.Xml.Reader
import EdiSchema.Xml.Node

/-!
# How nodes are spelled

A node that is written consists of its tokens with blanks between them. Scanning the text finds
these tokens again, whatever comes before and after the node.

Names have to be names, an element must not have an attribute twice, a text must not be blank, and
in a comment no three hyphens may stand in a row, of which merging pairs would leave two.
-/

namespace EdiSchema.Xml

/-- Whether a string is a name. -/
def IsName (name : String) : Prop :=
  name.toList.head?.any isNameStart = true ∧ ∀ c ∈ name.toList, isNameChar c = true

instance (name : String) : Decidable (IsName name) :=
  decidable_of_iff
    (name.toList.head?.any isNameStart = true ∧ name.toList.all isNameChar = true)
    (by simp [IsName])

/-- A name consists of its first character and of others. -/
theorem IsName.exists_cons {name : String} (hname : IsName name) :
    ∃ c cs, name.toList = c :: cs ∧ isNameStart c = true ∧ ∀ d ∈ cs, isNameChar d = true := by
  obtain ⟨hhead, hchars⟩ := hname
  cases hname : name.toList with
  | nil => simp [hname] at hhead
  | cons c cs =>
    rw [hname] at hhead hchars
    exact ⟨c, cs, rfl, hhead, (List.forall_mem_cons.1 hchars).2⟩

/-- Whether a list of attributes can stand in a tag. -/
def AreAttributes (attributes : List (String × String)) : Prop :=
  (∀ pair ∈ attributes, IsName pair.1) ∧ (attributes.map Prod.fst).Nodup

instance (attributes : List (String × String)) : Decidable (AreAttributes attributes) :=
  inferInstanceAs (Decidable (_ ∧ _))

/-- Nodes that are read back. -/
inductive Readable : Xml → Prop
  | element {name : String} {attributes : List (String × String)} {content : List Xml}
      (hname : IsName name) (hattributes : AreAttributes attributes)
      (hcontent : ∀ node ∈ content, Readable node) : Readable (.element name attributes content)
  | leaf {name : String} {attributes : List (String × String)} {text : String}
      (hname : IsName name) (hattributes : AreAttributes attributes)
      (htext : ∃ c ∈ text.toList, isSpace c = false) : Readable (.leaf name attributes text)
  | empty {name : String} {attributes : List (String × String)}
      (hname : IsName name) (hattributes : AreAttributes attributes) :
      Readable (.empty name attributes)
  | comment {text : String} (htext : ¬ ['-', '-', '-'] <:+: text.toList) : Readable (.comment text)

mutual
/-- The tokens of a node. -/
def tokens : Xml → List Token
  | .element name attributes content =>
    .start name attributes :: (allTokens content ++ [.stop name])
  | .leaf name attributes text => [.start name attributes, .text text, .stop name]
  | .empty name attributes => [.empty name attributes]
  | .comment _ => []

/-- The tokens of some nodes. -/
def allTokens : List Xml → List Token
  | [] => []
  | node :: rest => tokens node ++ allTokens rest
end

section References

/-- Whether a way of writing a character is undone where references are replaced. -/
def IsEscape (escape : Char → List Char) : Prop :=
  ∀ c rest, unescape? (escape c ++ rest) = (unescape? rest).map (c :: ·)

/-- A character that starts no reference stands for itself. -/
theorem unescape?_cons {c : Char} (hc : c ≠ '&') (cs : List Char) :
    unescape? (c :: cs) = (unescape? cs).map (c :: ·) := by
  rw [unescape?] <;> simp [hc]

/-- Escapes in attribute values are undone. -/
theorem isEscape_escapeInValue : IsEscape escapeInValue := by
  intro c rest
  rw [escapeInValue]
  split_ifs with hand hless hquote
  · subst hand; rfl
  · subst hless; rfl
  · subst hquote; rfl
  · exact unescape?_cons hand rest

/-- Escapes in texts are undone. -/
theorem isEscape_escapeInText : IsEscape escapeInText := by
  intro c rest
  rw [escapeInText]
  split_ifs with hgreater happos
  · subst hgreater; rfl
  · subst happos; rfl
  · exact isEscape_escapeInValue c rest

/-- A text is found again behind its escapes. -/
theorem IsEscape.unescape?_flatMap {escape : Char → List Char} (hescape : IsEscape escape)
    (cs : List Char) : unescape? (cs.flatMap escape) = some cs := by
  induction cs with
  | nil => rfl
  | cons c cs ih => rw [List.flatMap_cons, hescape, ih]; rfl

/-- In an attribute value no quote stands and no tag starts. -/
theorem mem_escapeInValue {c d : Char} (hd : d ∈ escapeInValue c) : d ≠ '"' ∧ d ≠ '<' := by
  rw [escapeInValue] at hd
  split_ifs at hd with hand hless hquote
  · revert d; simp
  · revert d; simp
  · revert d; simp
  · obtain rfl := List.mem_singleton.1 hd
    exact ⟨hquote, hless⟩

/-- In a text no tag starts. -/
theorem mem_escapeInText {c d : Char} (hd : d ∈ escapeInText c) : d ≠ '<' := by
  rw [escapeInText] at hd
  split_ifs at hd
  · revert d; simp
  · revert d; simp
  · exact (mem_escapeInValue hd).2

/-- The escape of a character that is no space is not blank. -/
theorem all_isSpace_escapeInText {c : Char} (hc : isSpace c = false) :
    (escapeInText c).all isSpace = false := by
  rw [escapeInText, escapeInValue]
  split_ifs
  · rfl
  · rfl
  · rfl
  · rfl
  · rfl
  · simpa using hc

end References

section Characters

/-- One character is scanned before the others. -/
theorem scanFrom_cons (done : List Token) (scan : Scan) (c : Char) (cs : List Char) :
    scanFrom done scan (c :: cs) =
      (scanChar done c scan).bind fun next => scanFrom next.1 next.2 cs := by
  cases scan <;> rfl

/-- Characters that are collected one by one are collected together. -/
theorem scanFrom_append (done : List Token) (state : List Char → Scan) (cs : List Char)
    (hstate : ∀ c ∈ cs, ∀ acc, scanChar done c (state acc) = some (done, state (c :: acc)))
    (acc rest : List Char) :
    scanFrom done (state acc) (cs ++ rest) = scanFrom done (state (cs.reverse ++ acc)) rest := by
  induction cs generalizing acc with
  | nil => rfl
  | cons c cs ih =>
    have hrest := ih (fun d hd => hstate d (List.mem_cons_of_mem c hd)) (c :: acc)
    simp [scanFrom_cons, hstate c List.mem_cons_self, hrest]

end Characters

section Tags

variable {done : List Token} {tag : OpenTag} {rest : List Char}

/-- A character that may stand in a name neither ends a tag nor separates its attributes. -/
theorem ne_of_isNameChar {c : Char} (hc : isNameChar c = true) :
    isSpace c = false ∧ c ≠ '/' ∧ c ≠ '>' := by
  refine ⟨?_, ?_, ?_⟩
  · rw [Bool.eq_false_iff]
    intro hspace
    simp only [isSpace, Bool.or_eq_true, beq_iff_eq, or_assoc] at hspace
    rcases hspace with rfl | rfl | rfl | rfl <;> exact absurd hc (by decide)
  · rintro rfl
    exact absurd hc (by decide)
  · rintro rfl
    exact absurd hc (by decide)

/-- Whether the scanner stands behind the name or an attribute of a tag, where a name may go on. -/
def StandsBehind (tag : OpenTag) (scan : Scan) : Prop :=
  ∀ done c, isNameChar c = false → scanChar done c scan = scanTag done tag c

/-- A name is read as the name of a tag. -/
theorem exists_standsBehind_name {name : String} (hname : IsName name) :
    ∃ scan, StandsBehind { name := name } scan ∧ ∀ done rest,
      scanFrom done .markup (name.toList ++ rest) = scanFrom done scan rest := by
  obtain ⟨c, cs, hcs, hstart, hchars⟩ := hname.exists_cons
  refine ⟨.startName (cs.reverse ++ [c]), ?_, ?_⟩
  · intro done d hd
    have hname : String.ofList (cs.reverse ++ [c]).reverse = name := by simp [← hcs]
    rw [scanChar, hd, hname]
    rfl
  · intro done rest
    have hslash : c ≠ '/' := by rintro rfl; exact absurd hstart (by decide)
    have hmark : c ≠ '!' := by rintro rfl; exact absurd hstart (by decide)
    have hmarkup : scanChar done c .markup = some (done, .startName [c]) := by
      simp [scanChar, hslash, hmark, hstart]
    have hname := scanFrom_append done .startName cs
      (fun d hd acc => by rw [scanChar, hchars d hd]; rfl) [c] rest
    rw [hcs, List.cons_append, scanFrom_cons, hmarkup, ← hname]
    rfl

/-- The name of an attribute is read, with the signs in front of the value. -/
theorem scanFrom_key {scan : Scan} (hscan : StandsBehind tag scan) {key : String}
    (hkey : IsName key) :
    scanFrom done scan ([' '] ++ key.toList ++ ['=', '"'] ++ rest) =
      scanFrom done (.value tag key.toList.reverse []) rest := by
  obtain ⟨c, cs, hcs, hstart, hchars⟩ := hkey.exists_cons
  have hblank : scanChar done ' ' scan = some (done, .inTag tag) := hscan done ' ' rfl
  have hfirst : scanChar done c (.inTag tag) = some (done, .key tag [c]) := by
    rw [scanChar, hstart]
    rfl
  have hothers := scanFrom_append done (.key tag) cs
    (fun d hd acc => by rw [scanChar, hchars d hd]; rfl) [c] ('=' :: '"' :: rest)
  rw [hcs, List.reverse_cons]
  simp only [List.append_assoc, List.cons_append, List.nil_append, scanFrom_cons _ _ ' ', hblank,
    scanFrom_cons _ _ c, hfirst, Option.bind_some, hothers]
  rfl

/-- The value of an attribute is read, with the quote behind it. -/
theorem scanFrom_value (key value : String) :
    scanFrom done (.value tag key.toList.reverse [])
        (value.toList.flatMap escapeInValue ++ ['"'] ++ rest) =
      scanFrom done (.behindValue { tag with attributes := (key, value) :: tag.attributes })
        rest := by
  have hchars := scanFrom_append done (.value tag key.toList.reverse)
    (value.toList.flatMap escapeInValue)
    (fun d hd acc => by
      obtain ⟨c, -, hc⟩ := List.mem_flatMap.1 hd
      obtain ⟨hquote, hless⟩ := mem_escapeInValue hc
      rw [scanChar, if_neg hquote, if_neg hless]) [] ('"' :: rest)
  have hpush : tag.push? key.toList.reverse (value.toList.flatMap escapeInValue).reverse =
      some { tag with attributes := (key, value) :: tag.attributes } := by
    simp [OpenTag.push?, isEscape_escapeInValue.unescape?_flatMap]
  rw [List.append_assoc, List.singleton_append, hchars, List.append_nil, scanFrom_cons, scanChar,
    if_pos rfl, hpush]
  rfl

/-- Attributes are read one after the other, up to a character that ends the tag. -/
theorem scanFrom_attributes {scan : Scan} (hscan : StandsBehind tag scan)
    {attributes : List (String × String)} (hkeys : ∀ pair ∈ attributes, IsName pair.1) {c : Char}
    (hc : isNameChar c = false) :
    scanFrom done scan (attributes.flatMap attributeChars ++ (c :: rest)) =
      (scanTag done { tag with attributes := attributes.reverse ++ tag.attributes } c).bind
        fun next => scanFrom next.1 next.2 rest := by
  induction attributes generalizing tag scan with
  | nil => rw [List.flatMap_nil, List.nil_append, scanFrom_cons, hscan done c hc]; rfl
  | cons pair attributes ih =>
    obtain ⟨hkey, hkeys⟩ := List.forall_mem_cons.1 hkeys
    have hbehind : StandsBehind { tag with attributes := pair :: tag.attributes }
        (.behindValue { tag with attributes := pair :: tag.attributes }) := fun _ _ _ => rfl
    have hrest := ih hbehind hkeys
    rw [List.flatMap_cons, attributeChars, List.append_assoc, List.append_assoc,
      List.append_assoc _ _ (_ ++ _), ← List.append_assoc _ ['"'], scanFrom_key hscan hkey,
      scanFrom_value, hrest]
    simp

/-- A tag is read up to a character that ends it. -/
theorem scanFrom_tagChars {name : String} {attributes : List (String × String)}
    (hname : IsName name) (hattributes : AreAttributes attributes) {c : Char}
    (hc : isNameChar c = false) :
    scanFrom done .markup (tagChars name attributes ++ (c :: rest)) =
      (scanTag done ⟨name, attributes.reverse⟩ c).bind
        fun next => scanFrom next.1 next.2 rest := by
  obtain ⟨scan, hscan, hscanFrom⟩ := exists_standsBehind_name hname
  rw [tagChars, List.append_assoc, hscanFrom, scanFrom_attributes hscan hattributes.1 hc,
    List.append_nil]

/-- The token of a tag has its attributes in order. -/
theorem token?_reverse {attributes : List (String × String)}
    (hattributes : AreAttributes attributes) (name : String)
    (token : String → List (String × String) → Token) :
    OpenTag.token? ⟨name, attributes.reverse⟩ token = some (token name attributes) := by
  have hnodup : (attributes.reverse.map Prod.fst).Nodup :=
    (attributes.reverse_perm.map Prod.fst).nodup_iff.2 hattributes.2
  rw [OpenTag.token?, if_pos hnodup, List.reverse_reverse]

/-- A start tag is one token. -/
theorem scanFrom_startTag {name : String} {attributes : List (String × String)}
    (hname : IsName name) (hattributes : AreAttributes attributes) :
    scanFrom done .markup (tagChars name attributes ++ (['>'] ++ rest)) =
      scanFrom (.start name attributes :: done) (.content []) rest := by
  have hend : scanTag done ⟨name, attributes.reverse⟩ '>' =
      some (.start name attributes :: done, .content []) := by
    rw [scanTag, token?_reverse hattributes]
    rfl
  rw [List.singleton_append, scanFrom_tagChars hname hattributes rfl, hend]
  rfl

/-- The tag of an element without content is one token. -/
theorem scanFrom_emptyTag {name : String} {attributes : List (String × String)}
    (hname : IsName name) (hattributes : AreAttributes attributes) :
    scanFrom done .markup (tagChars name attributes ++ (['/', '>'] ++ rest)) =
      scanFrom (.empty name attributes :: done) (.content []) rest := by
  have hslash : scanTag done ⟨name, attributes.reverse⟩ '/' =
      some (done, .slash ⟨name, attributes.reverse⟩) := rfl
  have hend : scanChar done '>' (.slash ⟨name, attributes.reverse⟩) =
      some (.empty name attributes :: done, .content []) := by
    rw [scanChar, token?_reverse hattributes]
    rfl
  rw [List.cons_append, List.singleton_append, scanFrom_tagChars hname hattributes rfl, hslash,
    Option.bind_some, scanFrom_cons, hend]
  rfl

/-- An end tag is one token. -/
theorem scanFrom_stopTag (done : List Token) (rest : List Char) {name : String}
    (hname : IsName name) :
    scanFrom done .markup (['/'] ++ name.toList ++ ['>'] ++ rest) =
      scanFrom (.stop name :: done) (.content []) rest := by
  have hchars := scanFrom_append done .stopName name.toList
    (fun d hd acc => by rw [scanChar, hname.2 d hd]; rfl) [] ('>' :: rest)
  have hend : scanChar done '>' (.stopName name.toList.reverse) =
      some (.stop name :: done, .content []) := by
    simp [scanChar, isNameChar, isNameStart]
  have hslash : scanChar done '/' .markup = some (done, .stopName []) := rfl
  simp only [List.append_assoc, List.cons_append, List.nil_append]
  rw [scanFrom_cons, hslash, Option.bind_some, hchars, List.append_nil, scanFrom_cons, hend]
  rfl

/-- A tag ends the text before it. -/
theorem scanFrom_less (text : List Char) :
    scanFrom done (.content text) ('<' :: rest) =
      (flush? done text).bind fun done => scanFrom done .markup rest := by
  rw [scanFrom_cons, scanChar, if_pos rfl, Option.bind_map]
  rfl

/-- Blanks before a tag do not count. -/
theorem scanFrom_less_of_blank {before : List Char} (hbefore : before.all isSpace = true) :
    scanFrom done (.content before) ('<' :: rest) = scanFrom done .markup rest := by
  rw [scanFrom_less, flush?, if_pos hbefore]
  rfl

/-- A text that is not blank is one token, found at the tag behind it. -/
theorem scanFrom_text {text : String} (htext : ∃ c ∈ text.toList, isSpace c = false) :
    scanFrom done (.content []) (text.toList.flatMap escapeInText ++ ('<' :: rest)) =
      scanFrom (.text text :: done) .markup rest := by
  have hchars := scanFrom_append done .content (text.toList.flatMap escapeInText)
    (fun d hd acc => by
      obtain ⟨c, -, hc⟩ := List.mem_flatMap.1 hd
      rw [scanChar, if_neg (mem_escapeInText hc)]) [] ('<' :: rest)
  have hsolid : ((text.toList.flatMap escapeInText).reverse.all isSpace) = false := by
    obtain ⟨c, hc, hspace⟩ := htext
    obtain ⟨d, hd, hdspace⟩ := List.all_eq_false.1 (all_isSpace_escapeInText hspace)
    refine List.all_eq_false.2 ⟨d, ?_, hdspace⟩
    exact List.mem_reverse.2 (List.mem_flatMap.2 ⟨c, hc, hd⟩)
  rw [hchars, List.append_nil, scanFrom_less, flush?, hsolid, List.reverse_reverse,
    isEscape_escapeInText.unescape?_flatMap]
  simp

end Tags

section Comments

variable {done : List Token} {rest : List Char}

/-- Inside of a comment nothing is found as long as no two hyphens stand in a row. -/
theorem scanFrom_comment {hyphens : ℕ} (hhyphens : hyphens ≤ 1) {cs : List Char}
    (hfirst : hyphens = 1 → cs.head? ≠ some '-') (hcs : ¬ ['-', '-'] <:+: cs) :
    scanFrom done (.comment hyphens) (cs ++ (' ' :: rest)) =
      scanFrom done (.comment 0) rest := by
  have hopen (hyphens : ℕ) (hhyphens : hyphens ≤ 1) (c : Char) :
      scanChar done c (.comment hyphens) =
        some (done, .comment (if c = '-' then hyphens + 1 else 0)) := by
    rw [scanChar, if_neg (by omega)]
  induction cs generalizing hyphens with
  | nil => rw [List.nil_append, scanFrom_cons, hopen hyphens hhyphens]; rfl
  | cons c cs ih =>
    rw [Text.pair_infix_cons_iff, not_or, not_and] at hcs
    rw [List.cons_append, scanFrom_cons, hopen hyphens hhyphens, Option.bind_some]
    by_cases hc : c = '-'
    · have hzero : hyphens = 0 := by
        by_contra hne
        exact hfirst (by omega) (by rw [hc]; rfl)
      rw [if_pos hc]
      exact ih (by omega) (fun _ => hcs.1 hc) hcs.2
    · rw [if_neg hc]
      exact ih (by omega) (fun h => absurd h (by omega)) hcs.2

/-- A comment is no token. -/
theorem scanFrom_commentChars {text : String} (htext : ¬ ['-', '-', '-'] <:+: text.toList) :
    scanFrom done .markup (['!', '-', '-'] ++ commentChars text ++ ['-', '-', '>'] ++ rest) =
      scanFrom done (.content []) rest := by
  simp only [commentChars, List.append_assoc, List.cons_append, List.nil_append]
  exact scanFrom_comment (Nat.zero_le 1) (fun h => absurd h (by omega))
    (Text.not_pair_infix_mergePairs htext)

end Comments

section Layout

/-- Whether scanning some characters behind blanks finds tokens and leaves blanks. -/
def Spells (cs : List Char) (found : List Token) : Prop :=
  ∀ done before, before.all isSpace = true → ∃ after, after.all isSpace = true ∧ ∀ rest,
    scanFrom done (.content before) (cs ++ rest) =
      scanFrom (found.reverse ++ done) (.content after) rest

variable {cs : List Char} {found : List Token}

/-- Nothing is spelled by no characters. -/
theorem Spells.nil : Spells [] [] :=
  fun _ before hbefore => ⟨before, hbefore, fun _ => rfl⟩

/-- Tokens are spelled one after the other. -/
theorem Spells.append {others : List Char} {more : List Token} (hcs : Spells cs found)
    (hothers : Spells others more) : Spells (cs ++ others) (found ++ more) := by
  intro done before hbefore
  obtain ⟨between, hbetween, hfirst⟩ := hcs done before hbefore
  obtain ⟨after, hafter, hsecond⟩ := hothers (found.reverse ++ done) between hbetween
  refine ⟨after, hafter, fun rest => ?_⟩
  rw [List.append_assoc, hfirst, hsecond, List.reverse_append, List.append_assoc]

/-- Blanks spell nothing. -/
theorem spells_blanks (hcs : cs.all isSpace = true) : Spells cs [] := by
  intro done before hbefore
  refine ⟨cs.reverse ++ before, by simp [hcs, hbefore], fun rest => ?_⟩
  refine scanFrom_append done .content cs (fun c hc acc => ?_) before rest
  have hless : c ≠ '<' := by
    rintro rfl
    exact absurd (List.all_eq_true.1 hcs _ hc) (by decide)
  rw [scanChar, if_neg hless]

/-- What stands on a line is spelled behind its indentation. -/
theorem Spells.line (hcs : Spells cs found) (level : ℕ) : Spells (line level cs) found := by
  have hindent : Spells (List.replicate (2 * level) ' ') [] :=
    spells_blanks (List.all_eq_true.2 fun c hc => by rw [List.eq_of_mem_replicate hc]; rfl)
  have hend : Spells ['\n'] [] := spells_blanks rfl
  have hline := (hindent.append hcs).append hend
  rwa [List.append_nil] at hline

/-- What stands between blanks and the end of a tag is spelled. -/
theorem spells_less (hcs : ∀ done rest, scanFrom done .markup (cs ++ rest) =
    scanFrom (found.reverse ++ done) (.content []) rest) : Spells (['<'] ++ cs) found := by
  intro done before hbefore
  refine ⟨[], rfl, fun rest => ?_⟩
  rw [List.append_assoc, List.singleton_append, scanFrom_less_of_blank hbefore, hcs]

/-- Nodes are spelled one after the other. -/
theorem spells_allChars {level : ℕ} {nodes : List Xml}
    (hnodes : ∀ node ∈ nodes, Spells (chars level node) (tokens node)) :
    Spells (allChars level nodes) (allTokens nodes) := by
  induction nodes with
  | nil => exact .nil
  | cons node rest ih =>
    obtain ⟨hnode, hrest⟩ := List.forall_mem_cons.1 hnodes
    exact hnode.append (ih hrest)

/-- A node is spelled by its lines. -/
theorem Readable.spells_chars {node : Xml} (hnode : Readable node) (level : ℕ) :
    Spells (chars level node) (tokens node) := by
  induction hnode generalizing level with
  | @element name attributes content hname hattributes _ ih =>
    have hstart : Spells (['<'] ++ (tagChars name attributes ++ ['>'])) [.start name attributes] :=
      spells_less fun done rest => by
        rw [List.append_assoc, scanFrom_startTag hname hattributes]
        rfl
    have hcontent := spells_allChars fun node hnode => ih node hnode (level + 1)
    have hstop : Spells (['<'] ++ (['/'] ++ name.toList ++ ['>'])) [.stop name] :=
      spells_less fun done rest => scanFrom_stopTag done rest hname
    exact ((hstart.line level).append hcontent).append (hstop.line level)
  | @leaf name attributes text hname hattributes htext =>
    have hleaf : Spells (['<'] ++ (tagChars name attributes ++ ['>'] ++
        text.toList.flatMap escapeInText ++ endTagChars name))
        [.start name attributes, .text text, .stop name] :=
      spells_less fun done rest => by
        have hstop := scanFrom_stopTag (.text text :: .start name attributes :: done) rest hname
        simp only [endTagChars, List.append_assoc, List.cons_append, List.nil_append] at hstop ⊢
        rw [← List.singleton_append (x := '>'), scanFrom_startTag hname hattributes,
          scanFrom_text htext, hstop]
        rfl
    exact hleaf.line level
  | @empty name attributes hname hattributes =>
    have hempty : Spells (['<'] ++ (tagChars name attributes ++ ['/', '>']))
        [.empty name attributes] :=
      spells_less fun done rest => by
        rw [List.append_assoc, scanFrom_emptyTag hname hattributes]
        rfl
    exact hempty.line level
  | @comment text htext =>
    have hcomment :
        Spells (['<'] ++ (['!', '-', '-'] ++ commentChars text ++ ['-', '-', '>'])) [] :=
      spells_less fun _ _ => scanFrom_commentChars htext
    exact hcomment.line level

/-- The tokens of a node are found in its text. -/
theorem Readable.tokens?_text {node : Xml} (hnode : Readable node) :
    tokens? node.text.toList = some (tokens node) := by
  obtain ⟨after, hafter, hscan⟩ := hnode.spells_chars 0 [] [] rfl
  have hdocument := hscan []
  rw [List.append_nil, List.append_nil] at hdocument
  rw [tokens?, text, String.toList_ofList, hdocument, scanFrom, flush?, if_pos hafter,
    Option.map_some, List.reverse_reverse]

end Layout

end EdiSchema.Xml
