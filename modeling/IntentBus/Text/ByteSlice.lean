/-! Parts of a text between positions that are counted in bytes of its UTF-8 form. -/

namespace IntentBus.Text

/-- How many bytes some characters take. -/
def byteLength : List Char → Nat
  | [] => 0
  | c :: rest => c.utf8Size + byteLength rest

/-- The characters after a position; none if it lies inside a character or beyond the end. -/
def dropBytes? : Nat → List Char → Option (List Char)
  | 0, chars => some chars
  | _ + 1, [] => none
  | n + 1, c :: rest => if c.utf8Size ≤ n + 1 then dropBytes? (n + 1 - c.utf8Size) rest else none

/-- The characters before a position; none if it lies inside a character or beyond the end. -/
def takeBytes? : Nat → List Char → Option (List Char)
  | 0, _ => some []
  | _ + 1, [] => none
  | n + 1, c :: rest =>
    if c.utf8Size ≤ n + 1 then (takeBytes? (n + 1 - c.utf8Size) rest).map (c :: ·) else none

/-- The characters between two positions. -/
def byteSlice? (chars : List Char) (start stop : Nat) : Option (List Char) :=
  (dropBytes? start chars).bind (takeBytes? (stop - start))

/-- The place where two texts meet is a position of their concatenation. -/
theorem dropBytes?_append (before after : List Char) :
    dropBytes? (byteLength before) (before ++ after) = some after := by
  induction before with
  | nil => simp [byteLength, dropBytes?]
  | cons c rest ih =>
    have size := c.utf8Size_pos
    obtain ⟨n, total⟩ : ∃ n, byteLength (c :: rest) = n + 1 := ⟨byteLength (c :: rest) - 1, by
      rw [byteLength]; omega⟩
    rw [byteLength] at total
    rw [byteLength, total, List.cons_append, dropBytes?, if_pos (by omega)]
    rw [show n + 1 - c.utf8Size = byteLength rest by omega]
    exact ih

theorem takeBytes?_append (before after : List Char) :
    takeBytes? (byteLength before) (before ++ after) = some before := by
  induction before with
  | nil => simp [byteLength, takeBytes?]
  | cons c rest ih =>
    have size := c.utf8Size_pos
    obtain ⟨n, total⟩ : ∃ n, byteLength (c :: rest) = n + 1 := ⟨byteLength (c :: rest) - 1, by
      rw [byteLength]; omega⟩
    rw [byteLength] at total
    rw [byteLength, total, List.cons_append, takeBytes?, if_pos (by omega)]
    rw [show n + 1 - c.utf8Size = byteLength rest by omega, ih]
    rfl

end IntentBus.Text
