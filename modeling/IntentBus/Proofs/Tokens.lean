import IntentBus.Proofs.Numerals
import Mathlib.Data.List.Chain

/-! Tokens that are written one behind the other are read back as the same row, if each can be written and no numeral is
followed by a token that it could run into. -/

namespace IntentBus

namespace Json

namespace Token

def Written : Token → Prop
  | number numeral => numeral.Regular
  | string content => content.isSome = true
  | _ => True

def Separates : Token → Prop
  | comma | arrayEnd | objectEnd => True
  | _ => False

def Ends : Token → Prop
  | number _ => False
  | _ => True

def Follows (before token : Token) : Prop := ∀ numeral, before = number numeral → token.Separates

end Token

/-- A hexadecimal digit is read as its value. -/
theorem hexValue?_hexDigit (digit : Fin 16) : Uuid.hexValue? (Uuid.hexDigit digit) = some digit := by
  revert digit
  decide

private theorem pushUnit_toNat (read : StringRead) {c : Char} (small : c.toNat < 0x20) :
    read.pushUnit c.toNat = read.push c := by
  rw [StringRead.pushUnit, if_neg, if_neg, Char.ofNat_toNat]
  · simp; omega
  · simp; omega

private theorem reads_escapeCode {c : Char} (small : c.toNat < 0x20) (before : List Char) (tokens : List Token) :
    (escapeCode c).foldlM lexStep (.string ⟨.plain, before, none, true⟩, tokens) =
      some (.string ⟨.plain, c :: before, none, true⟩, tokens) := by
  have code : 16 * (Uuid.lastDigit (c.toNat / 16)).val + (Uuid.lastDigit c.toNat).val = c.toNat := by
    simp only [Uuid.lastDigit]
    omega
  have zero : Uuid.hexValue? '0' = some 0 := by decide
  simp [escapeCode, lexStep, StringRead.extend, hexValue?_hexDigit, zero, code, pushUnit_toNat _ small, StringRead.push]

private theorem reads_quotedChar (c : Char) (before : List Char) (tokens : List Token) :
    (quotedChar c).foldlM lexStep (.string ⟨.plain, before, none, true⟩, tokens) =
      some (.string ⟨.plain, c :: before, none, true⟩, tokens) := by
  unfold quotedChar
  -- Seven characters have short escapes.
  iterate 7
    split
    · next same => rw [same]; rfl
  split
  · next small => exact reads_escapeCode small before tokens
  · next noQuote noSlash _ _ _ _ _ noControl =>
    simp [lexStep, StringRead.extend, StringRead.push, noQuote, noSlash, noControl]

private theorem reads_quotedChars (row before : List Char) (tokens : List Token) :
    (row.flatMap quotedChar).foldlM lexStep (.string ⟨.plain, before, none, true⟩, tokens) =
      some (.string ⟨.plain, row.reverse ++ before, none, true⟩, tokens) := by
  induction row generalizing before with
  | nil => rfl
  | cons c rest ih =>
    rw [List.flatMap_cons, List.foldlM_append, reads_quotedChar, List.reverse_cons, List.append_assoc]
    exact ih (c :: before)

/-- A quoted text is read as the text. -/
theorem reads_quoted (text : String) (tokens : List Token) :
    (quoted text).foldlM lexStep (.between, tokens) = some (.between, .string (some text) :: tokens) := by
  have start : lexStep (.between, tokens) '"' = some (.string ⟨.plain, [], none, true⟩, tokens) := rfl
  have close : lexStep (.string ⟨.plain, text.toList.reverse, none, true⟩, tokens) '"' =
      some (.between, .string (some text) :: tokens) := by
    simp [lexStep, StringRead.content]
  rw [quoted, List.foldlM_append, List.foldlM_cons, start]
  refine (congrArg (Option.bind · _) (reads_quotedChars text.toList [] tokens)).trans ?_
  rw [List.append_nil]
  exact (congrArg (Option.bind · _) close)

private theorem foldlM_numeral {read after : NumeralRead} {row : List Char}
    (reads : row.foldlM NumeralRead.extend read = some after) (tokens : List Token) :
    row.foldlM lexStep (.numeral read, tokens) = some (.numeral after, tokens) := by
  induction row generalizing read with
  | nil =>
    cases reads
    rfl
  | cons c rest ih =>
    rw [List.foldlM_cons] at reads ⊢
    obtain ⟨next, goes, rest⟩ := Option.bind_eq_some_iff.1 reads
    have step : lexStep (.numeral read, tokens) c = some (.numeral next, tokens) := by
      simp [lexStep, goes]
    rw [step]
    exact ih rest

private theorem startToken_of_isDigit {c : Char} (digit : c.isDigit = true) (tokens : List Token) :
    startToken c tokens = ((NumeralRead.start false).extend c).map fun read => (.numeral read, tokens) := by
  have other {d : Char} (noDigit : d.isDigit = false) : c ≠ d := by
    rintro rfl
    exact absurd digit (Bool.eq_false_iff.1 noDigit)
  have noSpace : isSpace c = false := by
    simp [isSpace, other (d := ' '), other (d := '\n'), other (d := '\t'), other (d := '\r')]
  unfold startToken
  rw [noSpace, if_neg Bool.false_ne_true]
  split <;> first | rfl | exact absurd digit (by decide)

private theorem foldlM_unsigned {numeral : Numeral} (regular : numeral.Regular) {after : NumeralRead}
    (reads : { numeral with negative := false }.chars.foldlM NumeralRead.extend (.start false) = some after)
    (tokens : List Token) :
    { numeral with negative := false }.chars.foldlM lexStep (.between, tokens) = some (.numeral after, tokens) := by
  obtain ⟨first, rest, same, digit⟩ : ∃ first rest,
      { numeral with negative := false }.chars = first :: rest ∧ first.isDigit = true := by
    obtain ⟨first, rest, same⟩ : ∃ first rest, numeral.whole = first :: rest := by
      obtain zero | ⟨first, rest, same, _⟩ := regular.lead
      · exact ⟨_, _, zero⟩
      · exact ⟨first, rest, same⟩
    have digit : first.isDigit = true := regular.whole first (same ▸ .head _)
    rw [Numeral.chars, same]
    exact ⟨first, _, rfl, digit⟩
  rw [same] at reads ⊢
  rw [List.foldlM_cons] at reads ⊢
  obtain ⟨next, goes, rest⟩ := Option.bind_eq_some_iff.1 reads
  have step : lexStep (.between, tokens) first = some (.numeral next, tokens) := by
    rw [lexStep, startToken_of_isDigit digit, goes]
    rfl
  rw [step]
  exact foldlM_numeral rest tokens

/-- Lexing stands behind the last of the tokens that it has met: a numeral may go on, but may as well be over. -/
inductive Settled : LexMode × List Token → List Token → Prop
  | between (tokens : List Token) : Settled (.between, tokens) tokens
  | numeral {read : NumeralRead} {numeral : Numeral} (ends : read.finish = some numeral) (tokens : List Token) :
    Settled (.numeral read, tokens) (.number numeral :: tokens)

namespace Settled

variable {state : LexMode × List Token}

private theorem finish {tokens : List Token} (settled : Settled state tokens) : lexFinish state = some tokens.reverse := by
  cases settled with
  | between => rfl
  | numeral ends tokens => rw [lexFinish, ends, Option.map_some]

private theorem lexStep_of_ends {read : NumeralRead} {numeral : Numeral} (ends : read.finish = some numeral)
    (tokens : List Token) {c : Char} (foreign : c.isDigit = false ∧ c ≠ '.' ∧ c ≠ 'e' ∧ c ≠ 'E') :
    lexStep (.numeral read, tokens) c = startToken c (.number numeral :: tokens) := by
  rw [lexStep, NumeralRead.extend_eq_none ends foreign, ends]
  rfl

/-- A token that may follow ends what could have gone on. -/
theorem follow {before token : Token} {tokens : List Token} (settled : Settled state (before :: tokens))
    (follows : before.Follows token) :
    token.chars.foldlM lexStep state = token.chars.foldlM lexStep (.between, before :: tokens) := by
  cases settled with
  | between => rfl
  | numeral ends tokens =>
    have separates : token.Separates := follows _ rfl
    cases token with
    | comma | arrayEnd | objectEnd => exact congrArg (Option.bind · _) (lexStep_of_ends ends tokens (by decide))
    | _ => exact separates.elim

end Settled

private theorem reads_number {numeral : Numeral} (regular : numeral.Regular) (tokens : List Token) :
    ∃ state, numeral.chars.foldlM lexStep (.between, tokens) = some state ∧ Settled state (.number numeral :: tokens) := by
  obtain ⟨read, reads, ends⟩ := NumeralRead.reads_regular regular
  refine ⟨_, ?_, .numeral ends tokens⟩
  rw [Numeral.chars_eq]
  cases sign : numeral.negative with
  | true =>
    rw [sign] at reads
    exact foldlM_numeral reads tokens
  | false =>
    rw [sign] at reads
    exact foldlM_unsigned regular reads tokens

private theorem reads_token {token : Token} (written : token.Written) (tokens : List Token) :
    ∃ state, token.chars.foldlM lexStep (.between, tokens) = some state ∧ Settled state (token :: tokens) := by
  cases token with
  | number numeral => exact reads_number written tokens
  | string content =>
    obtain ⟨text, rfl⟩ := Option.isSome_iff_exists.1 written
    exact ⟨_, reads_quoted text tokens, .between _⟩
  | bool value => cases value <;> exact ⟨_, rfl, .between _⟩
  | _ => exact ⟨_, rfl, .between _⟩

private theorem reads_row {row : List Token} (written : ∀ token ∈ row, token.Written) (apart : row.IsChain Token.Follows)
    (tokens : List Token) : ∃ state, (row.flatMap Token.chars).foldlM lexStep (.between, tokens) = some state ∧
      Settled state (row.reverse ++ tokens) := by
  induction row generalizing tokens with
  | nil => exact ⟨_, rfl, .between tokens⟩
  | cons token rest ih =>
    obtain ⟨state, reads, settled⟩ := reads_token (written token (.head _)) tokens
    rw [List.flatMap_cons, List.foldlM_append, reads, List.reverse_cons, List.append_assoc]
    cases rest with
    | nil => exact ⟨state, rfl, settled⟩
    | cons next others =>
      have follows : token.Follows next := (List.isChain_cons_cons.1 apart).1
      obtain ⟨last, goes, ended⟩ := ih (fun other mem => written other (.tail _ mem)) apart.tail (token :: tokens)
      refine ⟨last, ?_, ended⟩
      change ((next :: others).flatMap Token.chars).foldlM lexStep state = some last
      rw [← goes, List.flatMap_cons, List.foldlM_append, List.foldlM_append, settled.follow follows]

/-- A row of tokens of which each can be written and may follow the one before it. -/
structure Legible (row : List Token) : Prop where
  written : ∀ token ∈ row, token.Written
  apart : row.IsChain Token.Follows

namespace Legible

/-- One token that can be written is a legible row. -/
theorem singleton {token : Token} (written : token.Written) : Legible [token] :=
  ⟨fun _ mem => List.mem_singleton.1 mem ▸ written, .singleton token⟩

/-- A token that ends with itself may stand before any other. -/
theorem cons {token : Token} {row : List Token} (written : token.Written) (ends : token.Ends) (legible : Legible row) :
    Legible (token :: row) where
  written := List.forall_mem_cons.2 ⟨written, legible.written⟩
  apart := List.isChain_cons.2 ⟨fun _ _ _ same => (same ▸ ends).elim, legible.apart⟩

/-- A row may go on with any token that ends numerals. -/
theorem append {first second : List Token} (legible : Legible first) (others : Legible second)
    (separates : ∀ token ∈ second.head?, token.Separates) : Legible (first ++ second) where
  written := List.forall_mem_append.2 ⟨legible.written, others.written⟩
  apart := List.isChain_append.2 ⟨legible.apart, others.apart, fun _ _ token mem _ _ => separates token mem⟩

/-- A legible row is read as it was written. -/
theorem lex_eq {row : List Token} (legible : Legible row) : lex (row.flatMap Token.chars) = some row := by
  obtain ⟨state, reads, settled⟩ := reads_row legible.written legible.apart []
  rw [lex, reads, Option.bind_some, settled.finish, List.append_nil, List.reverse_reverse]

end Legible

end Json

end IntentBus
