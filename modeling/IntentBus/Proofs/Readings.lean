import IntentBus.Proofs.Layouts
import Mathlib.Tactic.Ring

/-! Numerals read as numbers. A whole number is read exactly, and the numeral of a finite number is read as a finite number
of the same sign: the roundings on the way never lead beyond the largest one. -/

namespace IntentBus

namespace Rounding

@[irreducible]
def widest : Nat := Nat.pow 2 2045

/-- The magnitude so many of the widest steps below `2 ^ 1024`; the largest one is the first of them. -/
@[irreducible]
def fromTop (steps : Nat) : Nat := (Nat.pow 2 53 - steps) * widest

private theorem largest_eq : largest = fromTop 1 := by
  unfold largest fromTop widest
  rfl

private theorem widest_eq : ∃ exponent, widest = Nat.pow 2 exponent := by
  unfold widest
  exact ⟨_, Eq.refl _⟩

private theorem fromTop_le {fewer more : Nat} (le : fewer ≤ more) : fromTop more ≤ fromTop fewer := by
  unfold fromTop
  exact Nat.mul_le_mul_right widest (Nat.sub_le_sub_left le _)

/-- Products with magnitudes near the top are compared by the steps. -/
theorem fromTop_mul_le {steps other first second : Nat}
    (room : (Nat.pow 2 53 - steps) * first ≤ (Nat.pow 2 53 - other) * second) :
    fromTop steps * first ≤ fromTop other * second := by
  unfold fromTop
  rw [Nat.mul_right_comm, Nat.mul_right_comm _ widest]
  exact Nat.mul_le_mul_right widest room

private theorem largest_exact : gap largest ∣ largest := by
  obtain ⟨exponent, same⟩ := widest_eq
  rw [largest_eq]
  unfold fromTop
  rw [same]
  exact gap_dvd_mul_two_pow exponent (Nat.sub_le _ _)

private theorem one_exact : gap one ∣ one := by
  have short : Short 1 := short_of_le (by decide)
  rwa [Short, Nat.one_mul] at short

private theorem widest_dvd_gap {units : Nat} (above : fromTop 5 ≤ units) : widest ∣ gap units := by
  obtain ⟨exponent, same⟩ := widest_eq
  have least : Nat.pow 2 (52 + exponent) ≤ units := by
    unfold fromTop at above
    rw [← two_pow_mul, ← same]
    exact Nat.le_trans (Nat.mul_le_mul_right widest (by decide)) above
  have positive : 0 < Nat.pow 2 (52 + exponent) := Nat.pow_pos (by decide)
  have order : 52 + exponent ≤ units.log2 := (Nat.le_log2 (by omega)).2 least
  rw [same]
  exact Nat.pow_dvd_pow 2 (by omega)

private theorem le_or_eq_of_step {top unit steps : Nat} (enough : 5 ≤ top) (most : unit * steps ≤ (top - 1) * unit) :
    unit * steps ≤ (top - 5) * unit ∨ ∃ down < 4, unit * steps = (top - (down + 1)) * unit := by
  rcases Nat.eq_zero_or_pos unit with rfl | positive
  · exact .inl (by omega)
  rw [Nat.mul_comm unit] at most ⊢
  have few : steps ≤ top - 1 := Nat.le_of_mul_le_mul_right most positive
  rcases Nat.lt_or_ge (top - 5) steps with above | below
  · exact .inr ⟨top - 1 - steps, by omega, by congr 1; omega⟩
  · exact .inl (Nat.mul_le_mul_right unit below)

/-- Every magnitude but the four greatest is at least five steps below `2 ^ 1024`. -/
theorem le_or_eq_fromTop {units : Nat} (exact : Exact units) : units ≤ fromTop 5 ∨ ∃ down < 4, units = fromTop (down + 1) := by
  refine (Nat.le_total units (fromTop 5)).elim .inl fun above => ?_
  have most := exact.1
  obtain ⟨steps, rfl⟩ := Nat.dvd_trans (widest_dvd_gap above) exact.2
  rw [largest_eq] at most
  unfold fromTop at most ⊢
  exact le_or_eq_of_step (by decide) most

end Rounding

namespace Binary64

/-- A whole number no greater than the largest number is finite. -/
theorem ofNat_of_le {n : Nat} (small : n * Rounding.one ≤ Rounding.largest) :
    ∃ exact, ofNat n = finite false (Rounding.nearest (n * Rounding.one) 1) exact := by
  have fits := Rounding.nearest_le_of_le Nat.one_pos Rounding.largest_exact ((Nat.mul_one Rounding.largest).symm ▸ small)
  exact ⟨Rounding.exact_nearest fits, dif_pos fits⟩

private theorem isFinite_div {x : Binary64} (finite : x.isFinite = true) {n : Nat} (nonzero : 0 < n)
    (small : n * Rounding.one ≤ Rounding.largest) : (x / ofNat n).isFinite = true := by
  obtain ⟨_, same⟩ := ofNat_of_le small
  cases x with
  | nan | infinity => exact absurd finite Bool.false_ne_true
  | finite negative units exact =>
    have least : Rounding.one ≤ Rounding.nearest (n * Rounding.one) 1 :=
      Rounding.le_nearest_of_le Nat.one_pos Rounding.one_exact (by rw [Nat.mul_one]; exact Nat.le_mul_of_pos_left _ nonzero)
    have positive := Nat.lt_of_lt_of_le Rounding.one_pos least
    have fits := Rounding.nearest_le_of_le positive Rounding.largest_exact (Nat.mul_le_mul exact.1 least)
    rw [same]
    change (if Rounding.nearest (n * Rounding.one) 1 = 0 then _ else ofRatio _ units _).isFinite = true
    rw [if_neg (Nat.ne_of_gt positive), ofRatio, round, dif_pos fits]
    rfl

private theorem mul_le_of_room {a b f s unit p top most : Nat} (parts : 0 < p) (left : a * p ≤ f * unit * p + f * unit)
    (right : b * p ≤ s * unit * p + s * unit) (fits : f * s * unit ≤ top)
    (room : top * ((p + 1) * (p + 1)) ≤ most * (p * p)) : a * b ≤ most * unit := by
  refine Nat.le_of_mul_le_mul_right ?_ (Nat.mul_pos parts parts)
  calc a * b * (p * p)
    _ = a * p * (b * p) := by ring
    _ ≤ (f * unit * p + f * unit) * (s * unit * p + s * unit) := Nat.mul_le_mul left right
    _ = f * s * unit * ((p + 1) * (p + 1)) * unit := by ring
    _ ≤ top * ((p + 1) * (p + 1)) * unit := Nat.mul_le_mul_right _ (Nat.mul_le_mul_right _ fits)
    _ ≤ most * (p * p) * unit := Nat.mul_le_mul_right _ room
    _ = most * unit * (p * p) := by ring

/-- A product of whole numbers that stays three steps below the largest number is not rounded beyond it. -/
theorem isFinite_mul {first second : Nat} (former : first * Rounding.one ≤ Rounding.largest)
    (latter : second * Rounding.one ≤ Rounding.largest) (fits : first * second * Rounding.one ≤ Rounding.fromTop 4) :
    (ofNat first * ofNat second).isFinite = true := by
  obtain ⟨_, left⟩ := ofNat_of_le former
  obtain ⟨_, right⟩ := ofNat_of_le latter
  have product : Rounding.nearest (first * Rounding.one) 1 * Rounding.nearest (second * Rounding.one) 1 ≤
      Rounding.largest * Rounding.one := by
    have room : Rounding.fromTop 4 * ((Nat.pow 2 53 + 1) * (Nat.pow 2 53 + 1)) ≤
        Rounding.largest * (Nat.pow 2 53 * Nat.pow 2 53) := by
      rw [Rounding.largest_eq]
      exact Rounding.fromTop_mul_le (by decide)
    exact mul_le_of_room (by decide) (Rounding.nearest_close first).1 (Rounding.nearest_close second).1 fits room
  have small := Rounding.nearest_le_of_le Rounding.one_pos Rounding.largest_exact product
  rw [left, right]
  change (round _ _ _).isFinite = true
  rw [round, dif_pos small]
  rfl

end Binary64

namespace Json

private theorem le_ofDigitChars (row : List Char) (n : Nat) : n ≤ Nat.ofDigitChars 10 row n := by
  induction row generalizing n with
  | nil => exact Nat.le_refl n
  | cons c rest ih =>
    rw [Nat.ofDigitChars_cons]
    exact Nat.le_trans (by omega) (ih _)

/-- Digits whose number fits 64 bits are taken to the last. -/
theorem takeDigits_of_fits {row : List Char} {n : Nat} (fits : Nat.ofDigitChars 10 row n < UInt64.size) :
    takeDigits n row = (Nat.ofDigitChars 10 row n, []) := by
  induction row generalizing n with
  | nil => rfl
  | cons c rest ih =>
    rw [Nat.ofDigitChars_cons] at fits ⊢
    have next : 10 * n + Numeral.digit c < UInt64.size := Nat.lt_of_le_of_lt (le_ofDigitChars rest _) fits
    rw [takeDigits, if_pos next]
    exact ih fits

/-- Digits that fit 64 bits together are all read, and the numeral has its sign on what their scaling gives. -/
theorem floatOfNumeral?_of_scale {numeral : Numeral} (fits : numeral.significand < UInt64.size) {x : Binary64}
    (finite : x.isFinite = true) (scaled : scale (.ofNat numeral.significand) numeral.power = some x) :
    ∃ units exact, floatOfNumeral? numeral = some (.finite numeral.negative units exact) := by
  have split : Nat.ofDigitChars 10 numeral.fraction (Nat.ofDigitChars 10 numeral.whole 0) = numeral.significand :=
    (Nat.ofDigitChars_append _).symm
  have whole := takeDigits_of_fits (Nat.lt_of_le_of_lt (le_ofDigitChars numeral.fraction _) (split ▸ fits))
  have fraction := takeDigits_of_fits (split ▸ fits)
  have place : (0 : Int) - (numeral.fraction.length - 0 : Nat) + numeral.exponent.getD 0 = numeral.power := by
    rw [Numeral.power]
    omega
  cases x with
  | nan | infinity => exact absurd finite Bool.false_ne_true
  | finite _ units exact =>
    refine ⟨units, exact, ?_⟩
    simp only [floatOfNumeral?, whole, fraction, split, List.length_nil, Int.natCast_zero, place, scaled, Option.map_some]

private theorem powTen_pos (places : Nat) : 0 < Nat.pow 10 places := Nat.pow_pos (by decide)

private theorem powTen_le {few many : Nat} (low : few ≤ many) : Nat.pow 10 few ≤ Nat.pow 10 many :=
  Nat.pow_le_pow_right (by decide) low

private theorem powTen_bounds : ∃ last, last = 308 ∧ Nat.pow 10 last * Rounding.one ≤ Rounding.fromTop 4 ∧
    Rounding.fromTop 4 < Nat.pow 10 (last + 1) * Rounding.one :=
  ⟨308, rfl, by decide +kernel⟩

private theorem powTen_below {places : Nat} (low : places ≤ 308) : Nat.pow 10 places * Rounding.one ≤ Rounding.fromTop 4 := by
  obtain ⟨last, same, below, _⟩ := powTen_bounds
  exact Nat.le_trans (Nat.mul_le_mul_right _ (powTen_le (same ▸ low))) below

private theorem powTen_fits {places : Nat} (low : places ≤ 308) : Nat.pow 10 places * Rounding.one ≤ Rounding.largest := by
  rw [Rounding.largest_eq]
  exact Nat.le_trans (powTen_below low) (Rounding.fromTop_le (by decide))

/-- Division by powers of ten stays among the finite numbers. -/
theorem isFinite_scaleDown {x : Binary64} (finite : x.isFinite = true) (places : Nat) :
    (scaleDown x places).isFinite = true := by
  have power {places : Nat} (few : places ≤ 308) (x : Binary64) (finite : x.isFinite = true) :
      (x / Binary64.ofNat (Nat.pow 10 places)).isFinite = true :=
    Binary64.isFinite_div finite (powTen_pos places) (powTen_fits few)
  induction x, places using scaleDown.induct with
  | case1 x places few =>
    rw [scaleDown, if_pos few]
    exact power few x finite
  | case2 x places many zero =>
    rw [scaleDown, if_neg many, if_pos zero]
    exact finite
  | case3 x places many nonzero ih =>
    rw [scaleDown, if_neg many, if_neg nonzero]
    exact ih (@power 308 (Nat.le_refl _) x finite)

/-- A finite number is scaled to nothing but finite numbers. -/
theorem isFinite_of_scale {x y : Binary64} (finite : x.isFinite = true) {exponent : Int} (scaled : scale x exponent = some y) :
    y.isFinite = true := by
  rw [scale] at scaled
  split at scaled
  · cases scaled
    exact isFinite_scaleDown finite _
  · split at scaled
    · cases scaled
      exact finite
    · split at scaled
      · nomatch scaled
      · dsimp only at scaled
        split at scaled
        · next fits =>
          cases scaled
          exact fits
        · nomatch scaled

private theorem exists_scale_of_neg (x : Binary64) {exponent : Int} (down : exponent < 0) :
    ∃ y, scale x exponent = some y := by
  rw [scale, if_pos down]
  exact ⟨_, rfl⟩

/-- A few digits are scaled by any power of ten that does not take them to the largest numbers. -/
theorem exists_scale_ofNat {n places : Nat} (few : n ≤ Nat.pow 10 17)
    (fits : n * Nat.pow 10 places * Rounding.one ≤ Rounding.fromTop 4) :
    ∃ x, scale (.ofNat n) places = some x := by
  rw [scale, if_neg (by omega)]
  split
  · exact ⟨_, rfl⟩
  · next more =>
    have positive : n ≠ 0 := fun zero => more (by rw [zero]; decide +kernel)
    have power : places ≤ 308 := by
      obtain ⟨last, same, _, beyond⟩ := powTen_bounds
      refine same ▸ Nat.le_of_not_lt fun many => ?_
      have most : Nat.pow 10 (last + 1) ≤ n * Nat.pow 10 places :=
        Nat.le_trans (powTen_le many) (Nat.le_mul_of_pos_left _ (Nat.pos_of_ne_zero positive))
      exact absurd beyond (Nat.not_lt_of_le (Nat.le_trans (Nat.mul_le_mul_right Rounding.one most) fits))
    have digits := Nat.le_trans (Nat.mul_le_mul_right Rounding.one few) (powTen_fits (by decide))
    have product := Binary64.isFinite_mul digits (powTen_fits power) fits
    rw [if_neg (by omega)]
    dsimp only
    rw [Int.natAbs_natCast, if_pos product]
    exact ⟨_, rfl⟩

private theorem shortest_fits {units : Nat} (below : units ≤ Rounding.fromTop 5) {places : Nat}
    (up : (Decimal.shortest .toEven units).exponent = places) : (Decimal.shortest .toEven units).significand ≤ Nat.pow 10 17 ∧
      (Decimal.shortest .toEven units).significand * Nat.pow 10 places * Rounding.one ≤ Rounding.fromTop 4 := by
  by_cases zero : units = 0
  · rw [zero, Decimal.shortest, if_pos rfl, Nat.zero_mul, Nat.zero_mul]
    exact ⟨Nat.zero_le _, Nat.zero_le _⟩
  · have stands := Decimal.standsFor_shortest zero
    refine ⟨stands.few, ?_⟩
    rcases stands.whole up with close | moderate
    · have room : Rounding.fromTop 5 * Nat.pow 2 53 ≤ Rounding.fromTop 4 * (Nat.pow 2 53 - 1) :=
        Rounding.fromTop_mul_le (by decide)
      refine Nat.le_of_mul_le_mul_right (Nat.le_trans close ?_) (by decide : 0 < Nat.pow 2 53 - 1)
      exact Nat.le_trans (Nat.mul_le_mul_right _ below) room
    · exact Nat.le_trans (Nat.mul_le_mul_right Rounding.one moderate) (powTen_below (by decide))

private theorem isSome_scale_greatest : ∀ down < 4,
    (scale (.ofNat (Decimal.shortest .toEven (Rounding.fromTop (down + 1))).significand)
      (Decimal.shortest .toEven (Rounding.fromTop (down + 1))).exponent).isSome = true := by
  decide +kernel

private theorem exists_scale_shortest {units : Nat} (exact : Rounding.Exact units) {places : Nat}
    (up : (Decimal.shortest .toEven units).exponent = places) :
    ∃ x, scale (.ofNat (Decimal.shortest .toEven units).significand) places = some x := by
  rcases Rounding.le_or_eq_fromTop exact with below | ⟨down, less, rfl⟩
  · obtain ⟨few, fits⟩ := shortest_fits below up
    exact exists_scale_ofNat few fits
  · rw [← up]
    exact Option.isSome_iff_exists.1 (isSome_scale_greatest down less)

private theorem exists_scale_numeral (negative : Bool) {units : Nat} (exact : Rounding.Exact units) :
    ∃ x, scale (.ofNat (NumberLayout.data.numeral negative units).significand)
      (NumberLayout.data.numeral negative units).power = some x := by
  rcases Int.lt_or_le (NumberLayout.data.numeral negative units).power 0 with down | up
  · exact exists_scale_of_neg _ down
  · obtain ⟨places, same⟩ := Int.eq_ofNat_of_zero_le up
    rcases (NumberLayout.shows_numeral negative units).place with down | ⟨digits, power⟩
    · exact absurd down (Int.not_lt.2 up)
    · rw [digits, same]
      exact exists_scale_shortest exact (power ▸ same)

/-- The digits of a whole number that fits are read as that number, those of a zero without a sign. -/
theorem ofNumeral?_toDigits {n : Int} (fits : FitsWord n) :
    ofNumeral? ⟨n < 0, Nat.toDigits 10 n.natAbs, [], none⟩ = some (integer n fits) := by
  have signed : (if n < 0 then -(n.natAbs : Int) else n.natAbs) = n := by
    split <;> omega
  have plain : ¬(n < 0 ∧ n.natAbs = 0) := by omega
  simp only [ofNumeral?, Numeral.ofDigits_toDigits, decide_eq_true_eq, signed]
  rw [dif_pos ⟨fits, rfl, plain⟩]

/-- The text of a finite number is read as a finite number of the same sign. -/
theorem ofNumeral?_numeral (negative : Bool) {units : Nat} (exact : Rounding.Exact units) :
    ∃ near held, ofNumeral? (NumberLayout.data.numeral negative units) = some (float (.finite negative near held)) := by
  obtain ⟨_, fractional, fits, _⟩ := NumberLayout.shows_numeral negative units
  obtain ⟨x, scaled⟩ := exists_scale_numeral negative exact
  have finite : (Binary64.ofNat (NumberLayout.data.numeral negative units).significand).isFinite = true := by
    have word : UInt64.size ≤ Nat.pow 10 20 := by decide
    have most := Nat.mul_le_mul_right Rounding.one (Nat.le_trans (Nat.le_of_lt fits) word)
    obtain ⟨_, same⟩ := Binary64.ofNat_of_le (Nat.le_trans most (powTen_fits (by decide)))
    rw [same]
    rfl
  obtain ⟨near, held, read⟩ := floatOfNumeral?_of_scale fits (isFinite_of_scale finite scaled) scaled
  rw [NumberLayout.negative_numeral] at read
  refine ⟨near, held, ?_⟩
  rw [ofNumeral?, dif_neg (by rw [fractional]; simp), read]
  rfl

end Json

end IntentBus
