import Mathlib.Data.List.Basic
import Mathlib.Tactic.SplitIfs
import EdiSchema.Json.Printer
import EdiSchema.Json.Token

/-!
# How values are spelled

A value that is written consists of its tokens with blanks between them. Scanning the text finds
these tokens again, whatever comes before and after the value.

Numbers and words end only at the character that follows, so the statements are about values that
are made up of strings; these are the values in which structures are saved.
-/

namespace EdiSchema.Json

mutual
/-- The tokens of a value. -/
def tokens : Json → List Token
  | .null => [.word .null]
  | .bool value => [.word (.bool value)]
  | .number value => [.number (some value)]
  | .text s => [.text (some s)]
  | .array items => [.openArray] ++ itemTokens items ++ [.closeArray]
  | .object members => [.openObject] ++ memberTokens members ++ [.closeObject]

/-- The tokens of the items of an array. -/
def itemTokens : List Json → List Token
  | [] => []
  | [item] => tokens item
  | item :: rest => tokens item ++ [.comma] ++ itemTokens rest

/-- The tokens of the members of an object. -/
def memberTokens : List (String × Json) → List Token
  | [] => []
  | [(key, value)] => [.text (some key), .colon] ++ tokens value
  | (key, value) :: rest =>
    [.text (some key), .colon] ++ tokens value ++ [.comma] ++ memberTokens rest
end

/-- Values that are made up of strings. -/
inductive Textual : Json → Prop
  | text (s : String) : Textual (.text s)
  | array {items : List Json} (hitems : ∀ item ∈ items, Textual item) : Textual (.array items)
  | object {members : List (String × Json)} (hmembers : ∀ member ∈ members, Textual member.2) :
      Textual (.object members)

/-- Whether scanning some characters between two tokens gives the tokens of a list. -/
def Spells (cs : List Char) (found : List Token) : Prop :=
  ∀ done rest, scanFrom done .between (cs ++ rest) = scanFrom (found.reverse ++ done) .between rest

/-- One character is scanned before the others. -/
theorem scanFrom_cons (done : List Token) (scan : Scan) (c : Char) (cs : List Char) :
    scanFrom done scan (c :: cs) =
      (scanChar done c scan).bind fun next => scanFrom next.1 next.2 cs := by
  cases scan <;> rfl

section Strings

/-- A string of which some characters have been scanned, in reverse. -/
def scanned (chars : List Char) : Scan :=
  .text ⟨chars, true, none⟩

/-- A hexadecimal digit has its value. -/
theorem hexValue?_hexDigit {n : ℕ} (hn : n < 16) : hexValue? (hexDigit n) = some n := by
  revert n
  decide

/-- A character below the surrogates is a code unit of its own. -/
theorem pushUnit_toNat (chars : List Char) {c : Char} (hc : c.toNat < 0xD800) :
    Partial.pushUnit ⟨chars, true, none⟩ c.toNat = ⟨c :: chars, true, none⟩ := by
  have hhigh : ¬ (0xD800 ≤ c.toNat ∧ c.toNat ≤ 0xDBFF) := by omega
  have hlow : ¬ (0xDC00 ≤ c.toNat ∧ c.toNat ≤ 0xDFFF) := by omega
  simp [Partial.pushUnit, hhigh, hlow, Partial.push]

/-- A character of a string is found by its escape. -/
theorem scanFrom_escapeChar (done : List Token) (chars : List Char) (c : Char) (rest : List Char) :
    scanFrom done (scanned chars) (escapeChar c ++ rest) =
      scanFrom done (scanned (c :: chars)) rest := by
  rw [escapeChar]
  split_ifs with hquote hslash hplain hline hreturn htab hback hfeed
  · subst hquote; rfl
  · subst hslash; rfl
  · simp [scanned, scanFrom_cons, scanChar, hquote, hslash, Nat.not_lt.2 hplain, Partial.push]
  · subst hline; rfl
  · subst hreturn; rfl
  · subst htab; rfl
  · obtain rfl : c = '\x08' := Char.toNat_inj.1 hback
    rfl
  · obtain rfl : c = '\x0c' := Char.toNat_inj.1 hfeed
    rfl
  · have hhigh := hexValue?_hexDigit (n := c.toNat / 16) (by omega)
    have hlow := hexValue?_hexDigit (n := c.toNat % 16) (by omega)
    have hvalue : c.toNat / 16 * 16 + c.toNat % 16 = c.toNat := by omega
    have hzero : hexValue? '0' = some 0 := rfl
    have hunit := pushUnit_toNat chars (c := c) (by omega)
    simp [scanned, scanFrom_cons, scanChar, hzero, hhigh, hlow, hvalue, hunit]

/-- The characters of a string are found by their escapes. -/
theorem scanFrom_flatMap_escapeChar (done : List Token) (chars : List Char) (cs rest : List Char) :
    scanFrom done (scanned chars) (cs.flatMap escapeChar ++ rest) =
      scanFrom done (scanned (cs.reverse ++ chars)) rest := by
  induction cs generalizing chars with
  | nil => rfl
  | cons c cs ih => simp [scanFrom_escapeChar, ih]

/-- A string between quotes is one token. -/
theorem spells_quote (s : String) : Spells (quote s) [.text (some s)] := by
  intro done rest
  have hopen : scanFrom done .between (quote s ++ rest) =
      scanFrom done (scanned []) (s.toList.flatMap escapeChar ++ ('"' :: rest)) := by
    simp [quote]
    rfl
  rw [hopen, scanFrom_flatMap_escapeChar]
  simp [scanned, scanFrom_cons, scanChar, Partial.finish]

end Strings

section Layout

/-- Nothing is spelled by no characters. -/
theorem Spells.nil : Spells [] [] :=
  fun _ _ => rfl

/-- Tokens are spelled one after the other. -/
theorem Spells.append {first second : List Char} {found others : List Token}
    (hfirst : Spells first found) (hsecond : Spells second others) :
    Spells (first ++ second) (found ++ others) := by
  intro done rest
  rw [List.append_assoc, hfirst, hsecond, List.reverse_append, List.append_assoc]

/-- Blanks spell nothing. -/
theorem spells_blanks {cs : List Char} (hcs : ∀ c ∈ cs, isSpace c = true) : Spells cs [] := by
  induction cs with
  | nil => exact .nil
  | cons c cs ih =>
    intro done rest
    have hspace : isSpace c = true := hcs c List.mem_cons_self
    have hrest := ih (fun d hd => hcs d (List.mem_cons_of_mem c hd)) done rest
    simpa [scanFrom_cons, scanChar, scanStart, hspace] using hrest

/-- The start of a line spells nothing. -/
theorem spells_lineStart (level : ℕ) : Spells (lineStart level) [] := by
  refine spells_blanks fun c hc => ?_
  rcases List.mem_cons.1 hc with rfl | hc
  · rfl
  · rw [List.eq_of_mem_replicate hc]
    rfl

/-- Brackets, commas and colons are tokens of one character. -/
theorem spells_ofChar? {c : Char} {token : Token} (htoken : Token.ofChar? c = some token) :
    Spells [c] [token] := by
  intro done rest
  unfold Token.ofChar? at htoken
  split_ifs at htoken with h h h h h h
  all_goals
    subst h
    obtain rfl := Option.some.inj htoken
    rfl

/-- The items of an array are spelled line by line. -/
theorem spells_prettyItems {items : List Json} (level : ℕ)
    (hitems : ∀ item ∈ items, Spells (prettyChars level item) (tokens item)) :
    Spells (prettyItems level items) (itemTokens items) := by
  induction items with
  | nil => exact .nil
  | cons item rest ih =>
    obtain ⟨hitem, hrest⟩ := List.forall_mem_cons.1 hitems
    have hline := (spells_lineStart level).append hitem
    have hcomma : Spells [','] [.comma] := spells_ofChar? rfl
    cases rest with
    | nil => exact hline
    | cons next rest => exact (hline.append hcomma).append (ih hrest)

/-- The members of an object are spelled line by line. -/
theorem spells_prettyMembers {members : List (String × Json)} (level : ℕ)
    (hmembers : ∀ member ∈ members, Spells (prettyChars level member.2) (tokens member.2)) :
    Spells (prettyMembers level members) (memberTokens members) := by
  induction members with
  | nil => exact .nil
  | cons member rest ih =>
    obtain ⟨key, value⟩ := member
    obtain ⟨hvalue, hrest⟩ := List.forall_mem_cons.1 hmembers
    have hblank : Spells [' '] [] := spells_blanks fun c hc => by rw [List.mem_singleton.1 hc]; rfl
    have hcolon : Spells [':', ' '] [.colon] := (spells_ofChar? rfl).append hblank
    have hcomma : Spells [','] [.comma] := spells_ofChar? rfl
    have hline := (((spells_lineStart level).append (spells_quote key)).append hcolon).append hvalue
    cases rest with
    | nil => exact hline
    | cons next rest => exact (hline.append hcomma).append (ih hrest)

/-- What brackets enclose is spelled between them, on lines of its own. -/
theorem spells_enclosed {start finish : Char} {first last : Token} {cs : List Char}
    {found : List Token} (hstart : Token.ofChar? start = some first)
    (hfinish : Token.ofChar? finish = some last) (hcs : Spells cs found) (level : ℕ) :
    Spells ([start] ++ cs ++ lineStart level ++ [finish]) ([first] ++ found ++ [last]) := by
  have hlines := ((spells_ofChar? hstart).append hcs).append (spells_lineStart level)
  rw [List.append_nil] at hlines
  exact hlines.append (spells_ofChar? hfinish)

/-- A value over several lines spells its tokens. -/
theorem Textual.spells_prettyChars {value : Json} (htextual : Textual value) (level : ℕ) :
    Spells (prettyChars level value) (tokens value) := by
  induction htextual generalizing level with
  | text s => exact spells_quote s
  | @array items _ ih =>
    have hitems := spells_prettyItems (level + 1) fun item hitem => ih item hitem (level + 1)
    cases items with
    | nil => exact (spells_ofChar? rfl).append (spells_ofChar? rfl)
    | cons item rest => exact spells_enclosed rfl rfl hitems level
  | @object members _ ih =>
    have hmembers := spells_prettyMembers (level + 1) fun member hmember =>
      ih member hmember (level + 1)
    cases members with
    | nil => exact (spells_ofChar? rfl).append (spells_ofChar? rfl)
    | cons member rest => exact spells_enclosed rfl rfl hmembers level

/-- Characters that spell some tokens are scanned as these. -/
theorem Spells.tokens?_eq {cs : List Char} {found : List Token} (h : Spells cs found) :
    tokens? cs = some found := by
  have hscan := h [] []
  rw [List.append_nil, List.append_nil] at hscan
  rw [tokens?, hscan, scanFrom, List.reverse_reverse]

/-- The tokens of a value are found in its text over several lines. -/
theorem Textual.tokens?_pretty {value : Json} (htextual : Textual value) :
    tokens? value.pretty.toList = some (tokens value) := by
  rw [pretty, String.toList_ofList]
  exact (htextual.spells_prettyChars 0).tokens?_eq

end Layout

section Compact

/-- The items of an array are spelled one after the other. -/
theorem spells_compactItems {items : List Json}
    (hitems : ∀ item ∈ items, Spells (compactChars item) (tokens item)) :
    Spells (compactItems items) (itemTokens items) := by
  induction items with
  | nil => exact .nil
  | cons item rest ih =>
    obtain ⟨hitem, hrest⟩ := List.forall_mem_cons.1 hitems
    have hcomma : Spells [','] [.comma] := spells_ofChar? rfl
    cases rest with
    | nil => exact hitem
    | cons next rest => exact (hitem.append hcomma).append (ih hrest)

/-- The members of an object are spelled one after the other. -/
theorem spells_compactMembers {members : List (String × Json)}
    (hmembers : ∀ member ∈ members, Spells (compactChars member.2) (tokens member.2)) :
    Spells (compactMembers members) (memberTokens members) := by
  induction members with
  | nil => exact .nil
  | cons member rest ih =>
    obtain ⟨key, value⟩ := member
    obtain ⟨hvalue, hrest⟩ := List.forall_mem_cons.1 hmembers
    have hcolon : Spells [':'] [.colon] := spells_ofChar? rfl
    have hcomma : Spells [','] [.comma] := spells_ofChar? rfl
    have hmember := ((spells_quote key).append hcolon).append hvalue
    cases rest with
    | nil => exact hmember
    | cons next rest => exact (hmember.append hcomma).append (ih hrest)

/-- A value without blanks spells its tokens. -/
theorem Textual.spells_compactChars {value : Json} (htextual : Textual value) :
    Spells (compactChars value) (tokens value) := by
  induction htextual with
  | text s => exact spells_quote s
  | array _ ih =>
    exact ((spells_ofChar? rfl).append (spells_compactItems ih)).append (spells_ofChar? rfl)
  | object _ ih =>
    exact ((spells_ofChar? rfl).append (spells_compactMembers ih)).append (spells_ofChar? rfl)

/-- The tokens of a value are found in its text without blanks. -/
theorem Textual.tokens?_compact {value : Json} (htextual : Textual value) :
    tokens? value.compact.toList = some (tokens value) := by
  rw [compact, String.toList_ofList]
  exact htextual.spells_compactChars.tokens?_eq

end Compact

end EdiSchema.Json
