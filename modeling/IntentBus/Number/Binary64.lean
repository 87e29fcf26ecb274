import IntentBus.Number.Rounding

/-! Double-precision numbers as exact magnitudes with a sign. Every operation is the exact result,
rounded once; comparison with a number that is not a number is false. -/

namespace IntentBus

/-- A finite number is a signed count of units of `2 ^ -1074`; zero has two signs. -/
inductive Binary64
  | nan
  | infinity (negative : Bool)
  | finite (negative : Bool) (units : Nat) (exact : Rounding.Exact units)
deriving DecidableEq

namespace Binary64

/-- The number nearest to `num / den` units; beyond the largest magnitude it is infinite. -/
def round (negative : Bool) (num den : Nat) : Binary64 :=
  if fits : Rounding.nearest num den ≤ Rounding.largest then
    finite negative (Rounding.nearest num den) (Rounding.exact_nearest fits)
  else infinity negative

/-- The number nearest to a quotient of natural numbers. -/
def ofRatio (negative : Bool) (num den : Nat) : Binary64 := round negative (num * Rounding.one) den

def ofNat (n : Nat) : Binary64 := ofRatio false n 1

def ofInt (n : Int) : Binary64 := ofRatio (n < 0) n.natAbs 1

instance {n : Nat} : OfNat Binary64 n := ⟨ofNat n⟩

instance : Inhabited Binary64 := ⟨0⟩

/-- Zero has two signs. -/
def zero (negative : Bool) : Binary64 := finite negative 0 Rounding.exact_zero

def isZero : Binary64 → Bool
  | finite _ units _ => units = 0
  | _ => false

def isFinite : Binary64 → Bool
  | finite .. => true
  | _ => false

/-- The signed count of units. -/
def signed (negative : Bool) (units : Nat) : Int := if negative then -units else units

/-- Order on the extended number line; false as soon as one side is not a number. -/
def le : Binary64 → Binary64 → Bool
  | nan, _ => false
  | _, nan => false
  | infinity true, _ => true
  | _, infinity false => true
  | infinity false, _ => false
  | _, infinity true => false
  | finite s a _, finite t b _ => signed s a ≤ signed t b

def lt (x y : Binary64) : Bool := le x y && !le y x

instance : LE Binary64 := ⟨fun x y => le x y = true⟩
instance : LT Binary64 := ⟨fun x y => lt x y = true⟩
instance (x y : Binary64) : Decidable (x ≤ y) := inferInstanceAs (Decidable (_ = true))
instance (x y : Binary64) : Decidable (x < y) := inferInstanceAs (Decidable (_ = true))

/-- An infinity times zero is not a number. -/
def mul : Binary64 → Binary64 → Binary64
  | nan, _ => nan
  | _, nan => nan
  | infinity s, infinity t => infinity (s != t)
  | infinity s, finite t b _ => if b = 0 then nan else infinity (s != t)
  | finite s a _, infinity t => if a = 0 then nan else infinity (s != t)
  | finite s a _, finite t b _ => round (s != t) (a * b) Rounding.one

/-- A number other than zero over zero is infinite; zero over zero is not a number. -/
def div : Binary64 → Binary64 → Binary64
  | nan, _ => nan
  | _, nan => nan
  | infinity _, infinity _ => nan
  | infinity s, finite t _ _ => infinity (s != t)
  | finite s _ _, infinity t => zero (s != t)
  | finite s a _, finite t b _ =>
    if b = 0 then if a = 0 then nan else infinity (s != t) else ofRatio (s != t) a b

/-- Opposite infinities have no sum; a sum that vanishes is negative only if both terms are. -/
def add : Binary64 → Binary64 → Binary64
  | nan, _ => nan
  | _, nan => nan
  | infinity s, infinity t => if s = t then infinity s else nan
  | infinity s, _ => infinity s
  | _, infinity t => infinity t
  | finite s a _, finite t b _ =>
    let sum := signed s a + signed t b
    round (if sum = 0 then s && t else decide (sum < 0)) sum.natAbs 1

instance : Mul Binary64 := ⟨mul⟩
instance : Div Binary64 := ⟨div⟩
instance : Add Binary64 := ⟨add⟩

/-- One round of repeated squaring: the lowest bit of the exponent decides whether the square enters. -/
def powFrom (product square : Binary64) (exponent : Nat) : Binary64 :=
  let product := if exponent % 2 = 1 then product * square else product
  if exponent / 2 = 0 then product else powFrom product (square * square) (exponent / 2)
termination_by exponent
decreasing_by omega

/-- A power by repeated squaring, rounded after every product. -/
def pow (base : Binary64) (exponent : Nat) : Binary64 := powFrom 1 base exponent

/-- The whole number nearest to the magnitude, a half going away from zero, and none below zero; a number
that is not one counts as zero, and what exceeds the limit becomes the limit. -/
def toNatCapped (limit : Nat) : Binary64 → Nat
  | nan => 0
  | infinity negative => if negative then 0 else limit
  | finite negative units _ =>
    if negative then 0 else min limit ((2 * units + Rounding.one) / (2 * Rounding.one))

end Binary64

end IntentBus
