import EdiSchema.Proofs.Xml.Spelling

/-!
# Written documents read back

What is written for a node is read as the same elements, attributes and texts in the same order,
with the comments gone: over the tokens that the scanner finds, the elements are put together
again.
-/

namespace EdiSchema.Xml

mutual
/-- What is read of a node: an element, or nothing for a comment. -/
def trees : Xml → List Tree
  | .element name attributes content => [.element name attributes (allTrees content)]
  | .leaf name attributes text => [.element name attributes [.text text]]
  | .empty name attributes => [.element name attributes []]
  | .comment _ => []

/-- What is read of some nodes. -/
def allTrees : List Xml → List Tree
  | [] => []
  | node :: rest => trees node ++ allTrees rest
end

mutual
/-- A node is put together from its tokens. -/
theorem build_tokens_append (opened : List Frame) (before : List Tree) (node : Xml)
    (rest : List Token) :
    build opened before (tokens node ++ rest) =
      build opened ((trees node).reverse ++ before) rest := by
  cases node with
  | element name attributes content =>
    rw [tokens, List.cons_append, build, List.append_assoc, build_allTokens_append,
      List.singleton_append, build, if_pos rfl, List.append_nil, List.reverse_reverse]
    rfl
  | leaf name attributes text => simp [tokens, build, trees]
  | empty name attributes => simp [tokens, build, trees]
  | comment text => rfl

/-- Nodes are put together from their tokens. -/
theorem build_allTokens_append (opened : List Frame) (before : List Tree) (nodes : List Xml)
    (rest : List Token) :
    build opened before (allTokens nodes ++ rest) =
      build opened ((allTrees nodes).reverse ++ before) rest := by
  cases nodes with
  | nil => rfl
  | cons node nodes =>
    rw [allTokens, List.append_assoc, build_tokens_append, build_allTokens_append, allTrees,
      List.reverse_append, List.append_assoc]
end

/-- An element that is written is read back with its content. -/
theorem Readable.read?_text {name : String} {attributes : List (String × String)}
    {content : List Xml} (hnode : Readable (.element name attributes content)) :
    read? (Xml.element name attributes content).text =
      some (.element name attributes (allTrees content)) := by
  have hbuild := build_tokens_append [] [] (.element name attributes content) []
  rw [List.append_nil] at hbuild
  rw [read?, hnode.tokens?_text, Option.bind_some, hbuild]
  rfl

end EdiSchema.Xml
