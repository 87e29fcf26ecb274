import IntentBus.Text.CodeRange

/-! Blank characters: the code points with the `White_Space` property, and texts made of them. -/

namespace IntentBus.Text

/-- The ranges of the `White_Space` property, ends included. -/
def blankRanges : CodeRanges :=
  [(0x9, 0xD), (0x20, 0x20), (0x85, 0x85), (0xA0, 0xA0), (0x1680, 0x1680), (0x2000, 0x200A),
    (0x2028, 0x2029), (0x202F, 0x202F), (0x205F, 0x205F), (0x3000, 0x3000)]

/-- A blank character separates words and shows no mark of its own. -/
def isBlank (c : Char) : Bool := inRanges blankRanges c.toNat

/-- A text is blank when it holds blank characters only; the empty text is blank. -/
def allBlank (text : String) : Bool := text.toList.all isBlank

/-- Whether a blank character occurs in a text. -/
def anyBlank (text : String) : Bool := text.toList.any isBlank

/-- Every character that core counts as white space is blank. -/
theorem isBlank_of_isWhitespace {c : Char} (h : c.isWhitespace = true) : isBlank c = true := by
  simp only [Char.isWhitespace, Bool.or_eq_true, decide_eq_true_eq] at h
  rcases h with ((rfl | rfl) | rfl) | rfl <;> decide

/-- The empty text alone is blank without holding a blank character. -/
theorem anyBlank_of_allBlank {text : String} (h : allBlank text = true) (nonempty : text ≠ "") :
    anyBlank text = true := by
  simp only [allBlank, anyBlank, List.all_eq_true, List.any_eq_true] at h ⊢
  cases chars : text.toList with
  | nil => exact absurd (by simpa using chars) nonempty
  | cons c rest => exact ⟨c, by simp, h c (by simp [chars])⟩

end IntentBus.Text
