import Questionnaire.Proofs.Html.Tokens
import Mathlib.Data.List.Chain

/-! # Written trees read back

The written form of a tree is cut into the tokens it is made of, and these build the tree again.
Only texts without a character leave no trace.
-/

namespace Questionnaire.Html

/-! ## Trees as tokens -/

namespace Node

mutual
def tokens : Node → List Token
  | element tag attributes children =>
    .opening tag attributes :: tokensAll children ++ [.closing tag]
  | void tag attributes => [.opening tag attributes]
  | text content => content.toList.map .char

def tokensAll : List Node → List Token
  | [] => []
  | node :: rest => node.tokens ++ tokensAll rest
end

mutual
theorem write_eq_flatMap_tokens (node : Node) : node.write = node.tokens.flatMap Token.write := by
  cases node with
  | element tag attributes children =>
    simp [write, tokens, writeAll_eq_flatMap_tokensAll children, Token.write]
  | void tag attributes => simp [write, tokens, Token.write]
  | text content => rw [write, tokens, List.flatMap_map]; rfl

theorem writeAll_eq_flatMap_tokensAll (nodes : List Node) :
    writeAll nodes = (tokensAll nodes).flatMap Token.write := by
  cases nodes with
  | nil => rfl
  | cons node rest =>
    rw [writeAll, tokensAll, List.flatMap_append, write_eq_flatMap_tokens node,
      writeAll_eq_flatMap_tokensAll rest]
end

/-! ## Well-formed trees -/

def IsText : Node → Prop
  | text _ => True
  | _ => False

/-- Texts beside each other could not be told from one text. -/
def Apart (before after : Node) : Prop := before.IsText → ¬ after.IsText

mutual
/-- Trees of elements that HTML can tell apart: tags and attributes are called by names, no element
has two attributes of one name, the void elements are those without content, and no two texts stand
beside each other. -/
def WellFormed : Node → Prop
  | element tag attributes children =>
    (Token.opening tag attributes).Readable ∧ tag ∉ voidTags ∧ children.IsChain Apart ∧
      AllWellFormed children
  | void tag attributes => (Token.opening tag attributes).Readable ∧ tag ∈ voidTags
  | text _ => True

def AllWellFormed : List Node → Prop
  | [] => True
  | node :: rest => node.WellFormed ∧ AllWellFormed rest
end

mutual
/-- The tree without the empty texts in it. -/
def prune : Node → Node
  | element tag attributes children => element tag attributes (pruneAll children)
  | void tag attributes => void tag attributes
  | text content => text content

def pruneAll : List Node → List Node
  | [] => []
  | text content :: rest =>
    if content = "" then pruneAll rest else text content :: pruneAll rest
  | node :: rest => node.prune :: pruneAll rest
end

theorem allWellFormed_iff {nodes : List Node} :
    AllWellFormed nodes ↔ ∀ node ∈ nodes, node.WellFormed := by
  induction nodes with
  | nil => simp [AllWellFormed]
  | cons node rest ih => simp [AllWellFormed, ih]

mutual
theorem readable_of_mem_tokens {node : Node} (h : node.WellFormed) :
    ∀ token ∈ node.tokens, token.Readable := by
  intro token hm
  cases node with
  | element tag attributes children =>
    obtain ⟨ho, _, _, hc⟩ := h
    rw [tokens, List.cons_append, List.mem_cons, List.mem_append, List.mem_singleton] at hm
    rcases hm with rfl | hm | rfl
    · exact ho
    · exact readable_of_mem_tokensAll hc token hm
    · exact ho.1
  | void tag attributes =>
    rw [tokens, List.mem_singleton] at hm
    rw [hm]; exact h.1
  | text content =>
    obtain ⟨c, _, rfl⟩ := List.mem_map.mp hm
    trivial

theorem readable_of_mem_tokensAll {nodes : List Node} (h : AllWellFormed nodes) :
    ∀ token ∈ tokensAll nodes, token.Readable := by
  intro token hm
  cases nodes with
  | nil => cases hm
  | cons node rest =>
    obtain ⟨hn, hr⟩ := h
    rw [tokensAll, List.mem_append] at hm
    rcases hm with hm | hm
    · exact readable_of_mem_tokens hn token hm
    · exact readable_of_mem_tokensAll hr token hm
end

/-- The written form of a well-formed tree is cut into the tokens it was made of. -/
theorem readAll?_write {node : Node} (h : node.WellFormed) :
    readAll? readToken? node.write = some node.tokens := by
  rw [write_eq_flatMap_tokens, funext Token.write_eq_ofTrees]
  exact Spelling.ofTrees.readAll?_write (readable_of_mem_tokens h)

end Node

/-! ## Trees from tokens -/

namespace Builder

def pushAll (builder : Builder) (nodes : List Node) : Builder :=
  { builder with nodes := nodes.reverse ++ builder.nodes }

theorem pushAll_append (builder : Builder) (nodes more : List Node) :
    builder.pushAll (nodes ++ more) = (builder.pushAll nodes).pushAll more := by
  simp [pushAll]

/-- What is read last, directly before the next node, is not a text. -/
def BehindElement (builder : Builder) : Prop :=
  ∀ before ∈ builder.nodes.head?, ¬ before.IsText

/-- Behind a text, characters go on this text. -/
theorem foldlM_chars_behind_text (content : String) (before : List Node)
    (outer : List OpenElement) (chars : List Char) :
    (chars.map Token.char).foldlM step ⟨.text content :: before, outer⟩ =
      some ⟨.text (content ++ String.ofList chars) :: before, outer⟩ := by
  induction chars generalizing content with
  | nil => simp
  | cons c rest ih =>
    have joined : content.push c ++ String.ofList rest = content ++ String.ofList (c :: rest) := by
      rw [← String.toList_inj]
      simp
    rw [List.map_cons, List.foldlM_cons, ← joined]
    exact ih (content.push c)

/-- Behind anything else, the first character begins a text. -/
theorem pushChar_of_behindElement {builder : Builder} (h : builder.BehindElement) (c : Char) :
    builder.pushChar c = builder.push (.text (String.singleton c)) := by
  unfold pushChar
  split
  · next content before he =>
    exact absurd trivial (h (.text content) (by rw [he]; rfl))
  · rfl

theorem foldlM_tokens_text {builder : Builder} (h : builder.BehindElement) (content : String) :
    (Node.text content).tokens.foldlM step builder =
      some (builder.pushAll (Node.pruneAll [.text content])) := by
  rw [Node.tokens]
  cases hc : content.toList with
  | nil =>
    rw [Node.pruneAll, if_pos (String.toList_eq_nil_iff.mp hc)]
    rfl
  | cons c rest =>
    have occupied : content ≠ "" := by
      intro he
      rw [he] at hc
      cases hc
    have joined : String.singleton c ++ String.ofList rest = content := by
      rw [← String.toList_inj, hc]
      simp
    rw [Node.pruneAll, if_neg occupied, List.map_cons, List.foldlM_cons]
    change (rest.map Token.char).foldlM step (builder.pushChar c) = _
    rw [pushChar_of_behindElement h, push, foldlM_chars_behind_text, joined]
    rfl

/-- Behind a node that is not a text, nothing stands behind a text. -/
theorem behindElement_pushAll {node : Node} (h : ¬ node.IsText) (builder : Builder) :
    (builder.pushAll (Node.pruneAll [node])).BehindElement := by
  intro before hb
  cases node with
  | element tag attributes children => cases hb; exact id
  | void tag attributes => cases hb; exact id
  | text content => exact absurd trivial h

/-- In an element just opened nothing stands behind a text. -/
theorem behindElement_enter (builder : Builder) (tag : String) (attributes : List Attribute) :
    (builder.enter tag attributes).BehindElement := by
  intro before hb
  cases hb

/-- A closing tag puts the nodes read since the opening tag into one element. -/
theorem step_closing (builder : Builder) (tag : String) (attributes : List Attribute)
    (nodes : List Node) :
    ((builder.enter tag attributes).pushAll nodes).step (.closing tag) =
      some (builder.push (.element tag attributes nodes)) := by
  simp [step, enter, pushAll, push]

end Builder

namespace Node

theorem pruneAll_cons (node : Node) (rest : List Node) :
    pruneAll (node :: rest) = pruneAll [node] ++ pruneAll rest := by
  cases node with
  | element tag attributes children => rfl
  | void tag attributes => rfl
  | text content =>
    rw [pruneAll, pruneAll, pruneAll]
    split <;> rfl

/-- What comes from the nodes one by one, and from empty texts not at all. -/
theorem flatMap_pruneAll {α : Type} (f : Node → List α) (silent : f (.text "") = [])
    (nodes : List Node) : (pruneAll nodes).flatMap f = nodes.flatMap fun node => f node.prune := by
  induction nodes with
  | nil => rfl
  | cons node rest ih =>
    rw [pruneAll_cons, List.flatMap_append, ih, List.flatMap_cons]
    congr 1
    cases node with
    | element tag attributes children => exact List.append_nil _
    | void tag attributes => exact List.append_nil _
    | text content =>
      rw [pruneAll, prune]
      by_cases empty : content = ""
      · rw [if_pos empty, empty, silent]
        rfl
      · rw [if_neg empty]
        exact List.append_nil _

mutual
/-- The tokens of a node put it behind the nodes already read, without its empty texts. -/
theorem foldlM_tokens {node : Node} (h : node.WellFormed) {builder : Builder}
    (apart : node.IsText → builder.BehindElement) :
    node.tokens.foldlM Builder.step builder = some (builder.pushAll (pruneAll [node])) := by
  cases node with
  | element tag attributes children =>
    obtain ⟨_, hv, ha, hc⟩ := h
    have inside := foldlM_tokensAll hc ha fun _ _ _ => builder.behindElement_enter tag attributes
    have started : builder.step (.opening tag attributes) = some (builder.enter tag attributes) :=
      if_neg hv
    have ended := builder.step_closing tag attributes (pruneAll children)
    rw [tokens, List.cons_append, List.foldlM_cons, started]
    simp only [Option.bind_eq_bind, Option.bind_some, List.foldlM_append, inside,
      List.foldlM_cons, List.foldlM_nil, ended]
    rfl
  | void tag attributes =>
    rw [tokens, List.foldlM_cons, Builder.step, if_pos h.2]
    rfl
  | text content => exact Builder.foldlM_tokens_text (apart trivial) content

/-- So do the tokens of several nodes, unless a text among them meets one already read. -/
theorem foldlM_tokensAll {nodes : List Node} (h : AllWellFormed nodes)
    (chain : nodes.IsChain Apart) {builder : Builder}
    (apart : ∀ first ∈ nodes.head?, first.IsText → builder.BehindElement) :
    (tokensAll nodes).foldlM Builder.step builder = some (builder.pushAll (pruneAll nodes)) := by
  cases nodes with
  | nil => rfl
  | cons node rest =>
    obtain ⟨hn, hr⟩ := h
    obtain ⟨meets, chain⟩ := List.isChain_cons.mp chain
    rw [tokensAll, List.foldlM_append, foldlM_tokens hn (apart node rfl), pruneAll_cons node rest,
      Builder.pushAll_append]
    apply foldlM_tokensAll hr chain
    intro first hf ht
    have hne : ¬ node.IsText := fun hn => meets first hf hn ht
    exact Builder.behindElement_pushAll hne builder
end

end Node

/-- Written forms of well-formed trees read back. -/
theorem read?_render {node : Node} (h : node.WellFormed) (occupied : node ≠ .text "") :
    read? node.render = some node.prune := by
  have fresh : (Builder.mk [] []).BehindElement := by intro before hb; cases hb
  have alone : Node.pruneAll [node] = [node.prune] := by
    cases node with
    | element tag attributes children => rfl
    | void tag attributes => rfl
    | text content =>
      have hc : content ≠ "" := by intro he; rw [he] at occupied; exact occupied rfl
      rw [Node.pruneAll, if_neg hc]
      rfl
  unfold read? Node.render
  rw [String.toList_ofList, Node.readAll?_write h, Option.bind_eq_bind, Option.bind_some,
    Node.foldlM_tokens h fun _ => fresh, alone]
  rfl

/-- Text that was not escaped is not read. -/
example : (read? "<b>1 & 2</b>").isNone ∧ (read? "<b>1 < 2</b>").isNone := by cbv

end Questionnaire.Html
