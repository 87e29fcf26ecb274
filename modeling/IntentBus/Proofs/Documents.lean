import IntentBus.Json.Document
import IntentBus.Proofs.Layouts
import IntentBus.Proofs.Tokens

/-! Data values as trees: the text of a value is read as the tree of the value, whatever its strings, numbers and keys are. -/

namespace IntentBus

namespace Json

def integerDocument (n : Int) : Document := .number ⟨n < 0, Nat.toDigits 10 n.natAbs, [], none⟩

def numberDocument : Binary64 → Document
  | .finite negative units _ => .number (NumberLayout.data.numeral negative units)
  | _ => .null

mutual

def document : Json → Document
  | null => .null
  | bool value => .bool value
  | integer value _ => integerDocument value
  | float value => numberDocument value
  | string text => .string (some text)
  | array items => .array (itemDocuments items)
  | object members => .object (memberDocuments members)

def itemDocuments : List Json → List Document
  | [] => []
  | item :: items => item.document :: itemDocuments items

def memberDocuments : List (String × Json) → List (Option String × Document)
  | [] => []
  | (key, value) :: members => (some key, value.document) :: memberDocuments members

end

/-- The trees of items are those of the items one by one. -/
theorem itemDocuments_eq (items : List Json) : itemDocuments items = items.map document := by
  induction items with
  | nil => rfl
  | cons item items ih => rw [itemDocuments, ih, List.map_cons]

/-- The trees of members are those of their values, under their keys. -/
theorem memberDocuments_eq (members : List (String × Json)) :
    memberDocuments members = members.map fun member => (some member.1, member.2.document) := by
  induction members with
  | nil => rfl
  | cons member members ih => rw [memberDocuments, ih, List.map_cons]

private theorem integerToken_eq (n : Int) : integerToken n = .number ⟨n < 0, Nat.toDigits 10 n.natAbs, [], none⟩ := by
  rw [integerToken, Nat.toString_eq_repr, Nat.toList_repr]

private theorem legible_integer (n : Int) : Legible [integerToken n] := by
  rw [integerToken_eq]
  exact .singleton (Numeral.regular_toDigits _ _)

private theorem legible_number (x : Binary64) : Legible [numberToken x] := by
  cases x with
  | finite negative units exact => exact .singleton (NumberLayout.shows_numeral negative units).regular
  | _ => exact .singleton trivial

private theorem separates_itemTokens (items : List Json) : ∀ token ∈ (itemTokens items).head?, token.Separates := by
  cases items <;> simp [itemTokens, Token.Separates]

private theorem separates_memberTokens (members : List (String × Json)) :
    ∀ token ∈ (memberTokens members).head?, token.Separates := by
  cases members <;> simp [memberTokens, Token.Separates]

private theorem legible_part {mark : Token} {value rest : List Token} (written : mark.Written) (ends : mark.Ends)
    (item : Legible value) (others : Legible rest) (separates : ∀ token ∈ rest.head?, token.Separates) :
    Legible (mark :: value ++ rest) :=
  .cons written ends (item.append others separates)

private theorem legible_member {mark : Token} {key : String} {value rest : List Token} (written : mark.Written)
    (ends : mark.Ends) (item : Legible value) (others : Legible rest) (separates : ∀ token ∈ rest.head?, token.Separates) :
    Legible (mark :: .string (some key) :: .colon :: value ++ rest) :=
  .cons written ends (.cons rfl trivial (.cons trivial trivial (item.append others separates)))

mutual

/-- The tokens of a value can be told apart in its text. -/
theorem legible_tokens (value : Json) : Legible value.tokens := by
  cases value with
  | null | bool => exact .singleton trivial
  | string => exact .singleton rfl
  | integer value => exact legible_integer value
  | float value => exact legible_number value
  | array items =>
    cases items with
    | nil => exact .cons trivial trivial (.singleton trivial)
    | cons item items =>
      rw [tokens]
      exact legible_part trivial trivial (legible_tokens item) (legible_itemTokens items) (separates_itemTokens items)
  | object members =>
    cases members with
    | nil => exact .cons trivial trivial (.singleton trivial)
    | cons member members =>
      rw [tokens]
      exact legible_member trivial trivial (legible_tokens member.2) (legible_memberTokens members)
        (separates_memberTokens members)

/-- The tokens of further items can be told apart in their text. -/
theorem legible_itemTokens (items : List Json) : Legible (itemTokens items) := by
  cases items with
  | nil => exact .singleton trivial
  | cons item items =>
    rw [itemTokens]
    exact legible_part trivial trivial (legible_tokens item) (legible_itemTokens items) (separates_itemTokens items)

/-- The tokens of further members can be told apart in their text. -/
theorem legible_memberTokens (members : List (String × Json)) : Legible (memberTokens members) := by
  cases members with
  | nil => exact .singleton trivial
  | cons member members =>
    rw [memberTokens]
    exact legible_member trivial trivial (legible_tokens member.2) (legible_memberTokens members)
      (separates_memberTokens members)

end

namespace Reading

private theorem foldlM_step {state next : Reading} {token : Token} {rest : List Token} (goes : step state token = some next) :
    (token :: rest).foldlM step state = rest.foldlM step next := by
  rw [List.foldlM_cons, goes]
  rfl

private theorem foldlM_reads {state next : Reading} {row rest : List Token} (reads : row.foldlM step state = some next) :
    (row ++ rest).foldlM step state = rest.foldlM step next := by
  rw [List.foldlM_append, reads]
  rfl

private theorem tokens_eq_cons (value : Json) : ∃ first rest, value.tokens = first :: rest ∧ first ≠ .arrayEnd := by
  cases value with
  | null | bool | integer | string => exact ⟨_, _, rfl, Token.noConfusion⟩
  | float value => cases value <;> exact ⟨_, _, rfl, Token.noConfusion⟩
  | array items =>
    cases items with
    | nil => exact ⟨_, _, rfl, Token.noConfusion⟩
    | cons item items => exact ⟨.arrayStart, item.tokens ++ itemTokens items, rfl, Token.noConfusion⟩
  | object members =>
    cases members with
    | nil => exact ⟨_, _, rfl, Token.noConfusion⟩
    | cons member members => exact ⟨.objectStart, _ :: _ :: (member.2.tokens ++ memberTokens members), rfl, Token.noConfusion⟩

private theorem foldlM_firstItem (value : Json) (frames : List Frame) :
    value.tokens.foldlM step (.firstItem frames) = value.tokens.foldlM step (.value (.item [] :: frames)) := by
  obtain ⟨first, rest, same, other⟩ := tokens_eq_cons value
  have goes : step (.firstItem frames) first = step (.value (.item [] :: frames)) first := by
    cases first <;> first | rfl | exact absurd rfl other
  rw [same, List.foldlM_cons, List.foldlM_cons, goes]

mutual

/-- Behind the tokens of a value its tree is read, in whatever containers it stands. -/
theorem reads_tokens (value : Json) (frames : List Frame) :
    value.tokens.foldlM step (.value frames) = some (.after value.document frames) := by
  cases value with
  | null | bool | string => rfl
  | integer value => rw [tokens, integerToken_eq]; rfl
  | float value => cases value <;> rfl
  | array items =>
    cases items with
    | nil => rfl
    | cons item items =>
      have first := (foldlM_firstItem item frames).trans (reads_tokens item _)
      rw [tokens, List.cons_append, foldlM_step rfl, foldlM_reads first, reads_itemTokens items]
      rfl
  | object members =>
    cases members with
    | nil => rfl
    | cons member members =>
      rw [tokens, List.cons_append, List.cons_append, List.cons_append, foldlM_step rfl, foldlM_step rfl, foldlM_step rfl,
        foldlM_reads (reads_tokens member.2 _), reads_memberTokens members]
      rfl

/-- At the end of an array stand the items that were read before and those to come. -/
theorem reads_itemTokens (items : List Json) (document : Document) (before : List Document) (frames : List Frame) :
    (itemTokens items).foldlM step (.after document (.item before :: frames)) =
      some (.after (.array ((document :: before).reverse ++ itemDocuments items)) frames) := by
  cases items with
  | nil =>
    rw [itemTokens, foldlM_step rfl, itemDocuments, List.append_nil]
    rfl
  | cons item items =>
    rw [itemTokens, List.cons_append, foldlM_step rfl, foldlM_reads (reads_tokens item _), reads_itemTokens items,
      List.reverse_cons, List.append_assoc]
    rfl

/-- The tokens of further members are read into the object that is open, after those it has. -/
theorem reads_memberTokens (members : List (String × Json)) (document : Document) (before : List (Option String × Document))
    (key : Option String) (frames : List Frame) :
    (memberTokens members).foldlM step (.after document (.member before key :: frames)) =
      some (.after (.object (((key, document) :: before).reverse ++ memberDocuments members)) frames) := by
  cases members with
  | nil =>
    rw [memberTokens, foldlM_step rfl, memberDocuments, List.append_nil]
    rfl
  | cons member members =>
    rw [memberTokens, List.cons_append, List.cons_append, List.cons_append, foldlM_step rfl, foldlM_step rfl, foldlM_step rfl,
      foldlM_reads (reads_tokens member.2 _), reads_memberTokens members, List.reverse_cons, List.append_assoc]
    rfl

end

end Reading

/-- A text that was written from a value is read as the tree of the value. -/
theorem ofText?_render (value : Json) : Document.ofText? value.render = some value.document := by
  have reads : Document.ofTokens? value.tokens = some value.document := by
    rw [Document.ofTokens?, Reading.reads_tokens]
    rfl
  rw [Document.ofText?, render, String.toList_ofList, (legible_tokens value).lex_eq]
  exact reads

end Json

end IntentBus
