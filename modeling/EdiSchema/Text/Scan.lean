/-!
# Searching text

Finding the first place where a piece of text occurs, and cutting or replacing it there.
-/

namespace EdiSchema.Text

/-- What follows the first suffix of a text for which `take?` succeeds, with its answer. -/
def findSuffix? {α : Type} (take? : List Char → Option α) : List Char → Option α
  | [] => take? []
  | c :: cs =>
    match take? (c :: cs) with
    | some a => some a
    | none => findSuffix? take? cs

/-- The text before and after the first occurrence of `piece`. -/
def splitAtFirst? (piece : List Char) : List Char → Option (List Char × List Char)
  | [] => if piece.isEmpty then some ([], []) else none
  | c :: cs =>
    match piece.isPrefixOf? (c :: cs) with
    | some rest => some ([], rest)
    | none => (splitAtFirst? piece cs).map fun (front, rest) => (c :: front, rest)

/-- Whether `piece` occurs in a text. -/
def contains (piece cs : List Char) : Bool :=
  (splitAtFirst? piece cs).isSome

/-- The text with the first occurrence of `piece` taken out. -/
def eraseFirst (piece cs : List Char) : List Char :=
  match splitAtFirst? piece cs with
  | some (front, rest) => front ++ rest
  | none => cs

/-- The text in front of a suffix, if it ends in that suffix. -/
def dropSuffix? (suffix cs : List Char) : Option (List Char) :=
  (suffix.reverse.isPrefixOf? cs.reverse).map List.reverse

/-- The text with every occurrence of two equal characters replaced by one, going from the left
over characters that have not been replaced. -/
def mergePairs (pair : Char) : List Char → List Char
  | [] => []
  | [c] => [c]
  | c :: d :: cs =>
    if c = pair ∧ d = pair then c :: mergePairs pair cs else c :: mergePairs pair (d :: cs)

end EdiSchema.Text
