import IntentBus.Json.Printer

/-! Numerals as data writes them. Digit rows stand for the numbers that they were made from, and a numeral that is read
character by character is the one that was written. -/

namespace IntentBus

namespace Numeral

/-- The digits of a whole number are read as the number. -/
theorem ofDigits_toDigits (n : Nat) : ofDigits (Nat.toDigits 10 n) = n := Nat.ofDigitChars_ten_toDigits

/-- Leading zeros count for nothing. -/
theorem ofDigits_zeros_append (count : Nat) (row : List Char) : ofDigits (List.replicate count '0' ++ row) = ofDigits row := by
  refine (Nat.ofDigitChars_append 0).trans ?_
  rw [Nat.ofDigitChars_replicate_zero, Nat.mul_zero]
  rfl

/-- Zeros at the end multiply by powers of ten. -/
theorem ofDigits_append_zeros (row : List Char) (count : Nat) :
    ofDigits (row ++ List.replicate count '0') = Nat.pow 10 count * ofDigits row :=
  (Nat.ofDigitChars_append 0).trans Nat.ofDigitChars_replicate_zero

/-- The digits of a number are digits. -/
theorem isDigit_of_mem_toDigits {n : Nat} {c : Char} (mem : c ∈ Nat.toDigits 10 n) : c.isDigit = true :=
  Nat.isDigit_of_mem_toDigits (by decide) (by decide) mem

/-- The digits of a number other than zero do not begin with a zero. -/
theorem toDigits_eq_cons {n : Nat} (nonzero : n ≠ 0) : ∃ first rest, Nat.toDigits 10 n = first :: rest ∧ first ≠ '0' := by
  induction n using Nat.strongRecOn with
  | ind n ih =>
    rw [Nat.toDigits_eq_if (by decide)]
    split
    · exact ⟨_, [], rfl, fun zero => nonzero (Nat.digitChar_eq_zero.1 zero)⟩
    · obtain ⟨first, rest, same, nonzero⟩ := ih (n / 10) (by omega) (by omega)
      exact ⟨first, rest ++ [Nat.digitChar (n % 10)], by rw [same, List.cons_append], nonzero⟩

/-- A numeral of digits: some stand before the point, and none of them is a zero that could be left out. -/
structure Regular (numeral : Numeral) : Prop where
  whole : ∀ c ∈ numeral.whole, c.isDigit = true
  fraction : ∀ c ∈ numeral.fraction, c.isDigit = true
  lead : numeral.whole = ['0'] ∨ ∃ first rest, numeral.whole = first :: rest ∧ first ≠ '0'

/-- The numeral of a whole number is regular. -/
theorem regular_toDigits (negative : Bool) (n : Nat) : Regular ⟨negative, Nat.toDigits 10 n, [], none⟩ where
  whole := fun _ => isDigit_of_mem_toDigits
  fraction := fun _ mem => nomatch mem
  lead := by
    by_cases zero : n = 0
    · subst zero
      exact .inl (Nat.toDigits_zero 10)
    · exact .inr (toDigits_eq_cons zero)

/-- The text of a numeral is its sign, if it has one, before the text without it. -/
theorem chars_eq (numeral : Numeral) :
    numeral.chars = (if numeral.negative then ['-'] else []) ++ { numeral with negative := false }.chars := by
  simp only [chars, Bool.false_eq_true, if_false, List.nil_append, List.append_assoc]

end Numeral

namespace Json

namespace NumeralRead

def start (negative : Bool) : NumeralRead := ⟨.sign, negative, [], [], false, []⟩

private theorem foldlM_row (into : List Char → NumeralRead) {row : List Char}
    (step : ∀ c ∈ row, ∀ before, (into before).extend c = some (into (c :: before))) (before : List Char) :
    row.foldlM extend (into before) = some (into (row.reverse ++ before)) := by
  induction row generalizing before with
  | nil => rfl
  | cons c rest ih =>
    rw [List.foldlM_cons, step c (.head _) before, List.reverse_cons, List.append_assoc]
    exact ih (fun d mem => step d (.tail _ mem)) (c :: before)

private theorem reads_whole {numeral : Numeral} (regular : numeral.Regular) (negative : Bool) :
    ∃ part, (part = .zero ∨ part = .whole) ∧ numeral.whole.foldlM extend (start negative) =
      some ⟨part, negative, numeral.whole.reverse, [], false, []⟩ := by
  obtain zero | ⟨first, rest, same, nonzero⟩ := regular.lead
  · exact ⟨.zero, .inl rfl, by rw [zero]; rfl⟩
  · have digits := regular.whole
    rw [same] at digits ⊢
    have lead : extend (start negative) first = some ⟨.whole, negative, [first], [], false, []⟩ := by
      simp [extend, start, nonzero, digits first (.head _)]
    refine ⟨.whole, .inr rfl, ?_⟩
    rw [List.foldlM_cons, lead, List.reverse_cons]
    exact foldlM_row (⟨.whole, negative, ·, [], false, []⟩)
      (fun c mem before => by simp [extend, digits c (.tail _ mem)]) [first]

private theorem reads_fraction {part : NumeralPart} (ends : part = .zero ∨ part = .whole) {fraction : List Char}
    (digits : ∀ c ∈ fraction, c.isDigit = true) (negative : Bool) (whole : List Char) :
    ∃ later, (later = .zero ∨ later = .whole ∨ later = .fraction) ∧
      (if fraction.isEmpty then [] else '.' :: fraction).foldlM extend ⟨part, negative, whole, [], false, []⟩ =
        some ⟨later, negative, whole, fraction.reverse, false, []⟩ := by
  cases fraction with
  | nil => exact ⟨part, ends.imp_right .inl, rfl⟩
  | cons first rest =>
    have point : extend ⟨part, negative, whole, [], false, []⟩ '.' = some ⟨.point, negative, whole, [], false, []⟩ := by
      rcases ends with rfl | rfl <;> rfl
    have lead : extend ⟨.point, negative, whole, [], false, []⟩ first =
        some ⟨.fraction, negative, whole, [first], false, []⟩ := by
      simp [extend, digits first (.head _)]
    refine ⟨.fraction, .inr (.inr rfl), ?_⟩
    rw [List.isEmpty_cons, if_neg Bool.false_ne_true, List.foldlM_cons, point, List.reverse_cons]
    refine (congrArg (Option.bind · _) lead).trans ?_
    exact foldlM_row (⟨.fraction, negative, whole, ·, false, []⟩)
      (fun c mem before => by simp [extend, digits c (.tail _ mem)]) [first]

section

variable {part : NumeralPart} (ends : part = .zero ∨ part = .whole ∨ part = .fraction)

include ends

private theorem reads_exponent (negative : Bool) (whole fraction : List Char) (exponent : Int) : ∃ read,
    ('e' :: (if exponent < 0 then '-' else '+') :: Nat.toDigits 10 exponent.natAbs).foldlM extend
      ⟨part, negative, whole, fraction, false, []⟩ = some read ∧
        read.finish = some ⟨negative, whole.reverse, fraction.reverse, some exponent⟩ := by
  have mark : extend ⟨part, negative, whole, fraction, false, []⟩ 'e' =
      some ⟨.mark, negative, whole, fraction, false, []⟩ := by
    rcases ends with rfl | rfl | rfl <;> rfl
  have sign : extend ⟨.mark, negative, whole, fraction, false, []⟩ (if exponent < 0 then '-' else '+') =
      some ⟨.exponentSign, negative, whole, fraction, exponent < 0, []⟩ := by
    by_cases down : exponent < 0 <;> simp [extend, down]
  have value := Numeral.ofDigits_toDigits exponent.natAbs
  have digits (c : Char) (mem : c ∈ Nat.toDigits 10 exponent.natAbs) : c.isDigit = true :=
    Numeral.isDigit_of_mem_toDigits mem
  have filled : Nat.toDigits 10 exponent.natAbs ≠ [] := Nat.toDigits_ne_nil
  generalize Nat.toDigits 10 exponent.natAbs = row at value digits filled
  obtain ⟨first, rest, rfl⟩ := List.exists_cons_of_ne_nil filled
  have lead : extend ⟨.exponentSign, negative, whole, fraction, exponent < 0, []⟩ first =
      some ⟨.exponent, negative, whole, fraction, exponent < 0, [first]⟩ := by
    simp [extend, digits first (.head _)]
  refine ⟨⟨.exponent, negative, whole, fraction, exponent < 0, (first :: rest).reverse⟩, ?_, ?_⟩
  · rw [List.foldlM_cons, mark, List.reverse_cons]
    refine (congrArg (Option.bind · _) sign).trans ((congrArg (Option.bind · _) lead).trans ?_)
    exact foldlM_row (⟨.exponent, negative, whole, fraction, exponent < 0, ·⟩)
      (fun c mem before => by simp [extend, digits c (.tail _ mem)]) [first]
  · have signed : (if exponent < 0 then -(exponent.natAbs : Int) else exponent.natAbs) = exponent := by
      split <;> omega
    simp only [finish, List.reverse_reverse, value, decide_eq_true_eq, signed]

private theorem finish_of_ends (negative : Bool) (whole fraction : List Char) :
    finish ⟨part, negative, whole, fraction, false, []⟩ = some ⟨negative, whole.reverse, fraction.reverse, none⟩ := by
  rcases ends with rfl | rfl | rfl <;> rfl

end

/-- Behind its sign a regular numeral is read to its end, and is the one that was written. -/
theorem reads_regular {numeral : Numeral} (regular : numeral.Regular) : ∃ read,
    { numeral with negative := false }.chars.foldlM extend (start numeral.negative) = some read ∧
      read.finish = some numeral := by
  obtain ⟨part, early, before⟩ := reads_whole regular numeral.negative
  obtain ⟨later, ends, behind⟩ := reads_fraction early regular.fraction numeral.negative numeral.whole.reverse
  have front : (numeral.whole ++ if numeral.fraction.isEmpty then [] else '.' :: numeral.fraction).foldlM extend
      (start numeral.negative) =
        some ⟨later, numeral.negative, numeral.whole.reverse, numeral.fraction.reverse, false, []⟩ := by
    rw [List.foldlM_append, before]
    exact behind
  rw [Numeral.chars, if_neg Bool.false_ne_true, List.nil_append, List.foldlM_append, front]
  obtain ⟨negative, whole, fraction, exponent⟩ := numeral
  cases exponent with
  | none =>
    refine ⟨_, rfl, (finish_of_ends ends negative whole.reverse fraction.reverse).trans ?_⟩
    rw [List.reverse_reverse, List.reverse_reverse]
  | some exponent =>
    obtain ⟨read, reads, ended⟩ := reads_exponent ends negative whole.reverse fraction.reverse exponent
    rw [List.reverse_reverse, List.reverse_reverse] at ended
    exact ⟨read, reads, ended⟩

/-- What ends where it is does not go on with a character that no numeral holds. -/
theorem extend_eq_none {read : NumeralRead} {numeral : Numeral} (ends : read.finish = some numeral) {c : Char}
    (foreign : c.isDigit = false ∧ c ≠ '.' ∧ c ≠ 'e' ∧ c ≠ 'E') : read.extend c = none := by
  obtain ⟨noDigit, noPoint, noMark, noCapital⟩ := foreign
  obtain ⟨part, negative, whole, fraction, down, exponent⟩ := read
  cases part with
  | sign | point | mark | exponentSign => nomatch ends
  | zero | whole | fraction | exponent => simp [extend, noDigit, noPoint, noMark, noCapital]

end NumeralRead

end Json

end IntentBus
