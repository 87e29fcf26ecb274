import IntentBus.Text.Extender
import IntentBus.Text.Printable

/-! Quoted texts: between quotation marks, with an escape for each mark that would not be seen as itself. -/

namespace IntentBus.Text

/-- A character inside a quoted text. What has no short escape and cannot be printed alone is written by its
code point. -/
def quotedChar (c : Char) : List Char :=
  if c = '"' || c = '\\' then ['\\', c]
  else if c = '\n' then ['\\', 'n']
  else if c = '\r' then ['\\', 'r']
  else if c = '\t' then ['\\', 't']
  else if c = '\x00' then ['\\', '0']
  else if isPrintable c && !isExtender c then [c]
  else ['\\', 'u', '\x7b'] ++ Nat.toDigits 16 c.toNat ++ ['\x7d']

def quoted (text : String) : String := "\"" ++ String.ofList (text.toList.flatMap quotedChar) ++ "\""

/-- Letters and digits of the ASCII range stand for themselves. -/
theorem quotedChar_of_isAlphanum {c : Char} (h : c.isAlphanum = true) : quotedChar c = [c] := by
  have low : 0x20 ≤ c.toNat ∧ c.toNat ≤ 0x7E := by
    rcases code_of_isAlphanum h with inside | inside | inside <;> omega
  have plain : isPrintable c = true ∧ isExtender c = false :=
    ⟨isPrintable_of_ascii low.1 low.2, isExtender_eq_false (by omega)⟩
  have noMark : c ≠ '"' ∧ c ≠ '\\' ∧ c ≠ '\n' ∧ c ≠ '\r' ∧ c ≠ '\t' ∧ c ≠ '\x00' := by
    refine ⟨?_, ?_, ?_, ?_, ?_, ?_⟩ <;> (rintro rfl; exact absurd h (by decide))
  simp [quotedChar, plain, noMark]

end IntentBus.Text
