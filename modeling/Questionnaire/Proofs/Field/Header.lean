import Questionnaire.Field.Header

/-! # What a header keeps of its block -/

namespace Questionnaire.FieldHeader

variable {header : FieldHeader} {scope : String}

/-- The id of a field is the scope and the code, joined by an underscore. -/
theorem id_of_read? {line : String} (h : read? line scope = some header) :
    header.id = scope ++ "_" ++ header.code := by
  unfold read? at h
  obtain ⟨⟨leftText, rhs⟩, -, h⟩ := Option.bind_eq_some_iff.mp h
  obtain ⟨-, -, h⟩ := Option.bind_eq_some_iff.mp h
  obtain ⟨left, -, h⟩ := Option.bind_eq_some_iff.mp h
  cases h
  rfl

/-- A block is read by its first line, and the header keeps the whole block. -/
theorem exists_read?_of_readBlock? {block : String} {body : List String}
    (h : readBlock? block scope = some (header, body)) :
    ∃ line rest read, Text.lines block.toList = line :: rest ∧
      read? (String.ofList line) scope = some read ∧ header = { read with source := block } ∧
      body = rest.map String.ofList := by
  unfold readBlock? at h
  split at h
  · cases h
  · rename_i line rest whole
    obtain ⟨read, hr, he⟩ := Option.map_eq_some_iff.mp h
    cases he
    exact ⟨line, rest, read, whole, hr, rfl, rfl⟩

/-- A header read off a block keeps the whole block, and its id is made of the scope and the code. -/
theorem of_readBlock? {block : String} {body : List String}
    (h : readBlock? block scope = some (header, body)) :
    header.source = block ∧ header.id = scope ++ "_" ++ header.code := by
  obtain ⟨line, rest, read, -, hr, rfl, -⟩ := exists_read?_of_readBlock? h
  have := id_of_read? hr
  exact ⟨rfl, this⟩

end Questionnaire.FieldHeader
