import Mathlib.Algebra.Order.Field.Power
import Mathlib.Algebra.Order.Field.Rat
import Mathlib.Tactic.Linarith
import Mathlib.Tactic.Positivity
import Mathlib.Tactic.Ring

set_option autoImplicit false

/-! The binary floating-point values that `cvss_base` and `severity` pass through.

`atof` rounds the decimal it reads to a `double`; storing it in the `float` field rounds it
again; SQLite keeps the `double` the `float` widens to; `%.1f` prints the exact binary value
rounded to tenths. Every rounding is to nearest with ties to even, glibc's default mode, and a
value past a format's range becomes an infinity (C11 Annex F). The arithmetic is on the
mantissa and exponent as naturals and integers, so that a datum can be evaluated. -/

namespace GvmAgent

/-- A `float` or `double` datum: a finite `±mantissa · 2^exponent`, an infinity or a NaN, each
with its sign bit. The rounding functions write a finite value with an odd mantissa (zero as
`0 · 2^0`), so two of their results are equal exactly when their values and signs are. -/
inductive CFloat where
  | finite (negative : Bool) (mantissa : Nat) (exponent : Int)
  | infinite (negative : Bool)
  | nan (negative : Bool)
  deriving DecidableEq, Repr

namespace CFloat

/-- `0.0`. -/
def zero : CFloat := .finite false 0 0

/-- `isfinite`. -/
def isFinite : CFloat → Bool
  | .finite .. => true
  | _ => false

/-- `x > 0`; false on a NaN, as every ordered comparison with one is. -/
def isPositive : CFloat → Bool
  | .finite negative m _ => !negative && 0 < m
  | .infinite negative => !negative
  | .nan _ => false

/-- `x >= k` for a natural `k`, as `create_scan_result` compares with `7.0` and `4.0`. -/
def geNat : CFloat → Nat → Bool
  | .finite false m e, k => if 0 ≤ e then k ≤ m * 2 ^ e.toNat else k * 2 ^ (-e).toNat ≤ m
  | .finite true m _, k => m == 0 && k == 0
  | .infinite negative, _ => !negative
  | .nan _, _ => false

end CFloat

/-- An IEEE 754 binary format: the bits of the significand and the normal exponents. -/
structure BinaryFormat where
  precision : Nat
  emin : Int
  emax : Int

/-- `double`. -/
def binary64 : BinaryFormat := ⟨53, -1022, 1023⟩

/-- `float`. -/
def binary32 : BinaryFormat := ⟨24, -126, 127⟩

/-- `⌊log₂ n⌋` counted onto `acc`, one halving per unit of fuel. -/
def log2Go : Nat → Nat → Nat → Nat
  | 0, _, acc => acc
  | fuel + 1, n, acc => if n < 2 then acc else log2Go fuel (n / 2) (acc + 1)

/-- `⌊log₂ n⌋`, and `0` for `n = 0`. -/
def log2Of (n : Nat) : Nat := log2Go n n 0

/-- Whether `n / d < 2^k`. -/
def ltTwoPow (n d : Nat) (k : Int) : Bool :=
  if 0 ≤ k then n < d * 2 ^ k.toNat else n * 2 ^ (-k).toNat < d

/-- `⌊log₂ (n / d)⌋` for positive `n` and `d`: the difference of the two logarithms, or one
less. -/
def floorLog2 (n d : Nat) : Int :=
  let k : Int := (log2Of n : Int) - log2Of d
  if ltTwoPow n d k then k - 1 else k

/-- `n / d` rounded to a natural, ties to even. -/
def roundHalfEven (n d : Nat) : Nat :=
  let whole := n / d
  let twice := 2 * (n % d)
  if twice < d then whole else if d < twice then whole + 1
  else if whole % 2 = 0 then whole else whole + 1

/-- The finite datum `±m · 2^e`, with at most `fuel` factors of two moved from `m` into `e`. -/
def normalize (negative : Bool) : Nat → Nat → Int → CFloat
  | 0, m, e => .finite negative m e
  | fuel + 1, m, e =>
    if m = 0 then .finite negative 0 0
    else if m % 2 = 0 then normalize negative fuel (m / 2) (e + 1) else .finite negative m e

/-- `±n / d` rounded to nearest, ties to even, in `fmt`. The value is counted in quanta
`2^e` of its binade (of the subnormal range, below `emin`) and rounded to a whole count; a
count that reaches `2^(emax + 1)` is an infinity. -/
def BinaryFormat.round (fmt : BinaryFormat) (negative : Bool) (n d : Nat) : CFloat :=
  let e := max (floorLog2 n d) fmt.emin - (fmt.precision - 1 : Nat)
  let m := if 0 ≤ e then roundHalfEven n (d * 2 ^ e.toNat) else roundHalfEven (n * 2 ^ (-e).toNat) d
  if m ≠ 0 ∧ fmt.emax + 1 ≤ e + log2Of m then .infinite negative
  else normalize negative fmt.precision m e

/-- `±m · 2^e` rounded in `fmt`. -/
def BinaryFormat.roundPow2 (fmt : BinaryFormat) (negative : Bool) (m : Nat) (e : Int) : CFloat :=
  if 0 ≤ e then fmt.round negative (m * 2 ^ e.toNat) 1 else fmt.round negative m (2 ^ (-e).toNat)

/-- The conversion of a `double` to `float`: a finite value is rounded, an infinity or a NaN
keeps its kind and its sign. -/
def CFloat.toFloat32 : CFloat → CFloat
  | .finite negative m e => binary32.roundPow2 negative m e
  | x => x

/-- A `double` bound with `sqlite3_bind_double` to a `REAL` column and read back with
`sqlite3_column_double`. A NaN is bound as NULL, which reads as `0.0`; `-0.0` equals the
integer `0`, which the column stores as an integer and reads back as `+0.0`. -/
def sqliteReal : CFloat → CFloat
  | .nan _ => .zero
  | .finite _ 0 _ => .zero
  | x => x

/-- The tenths `%.1f` rounds `m · 2^e` to, ties to even: glibc prints the exact binary
value. -/
def fixed1Tenths (m : Nat) (e : Int) : Nat :=
  if 0 ≤ e then 10 * m * 2 ^ e.toNat else roundHalfEven (10 * m) (2 ^ (-e).toNat)

theorem sqliteReal_ne_nan (x : CFloat) (negative : Bool) : sqliteReal x ≠ .nan negative := by
  rcases x with ⟨_, _ | _, _⟩ | _ | _ <;> simp [sqliteReal, CFloat.zero]

theorem toFloat32_of_not_isFinite {x : CFloat} (infinite : x.isFinite = false) : x.toFloat32 = x := by
  cases x <;> simp_all [CFloat.isFinite, CFloat.toFloat32]

section Error

end Error

end GvmAgent
