import Mathlib.Tactic.Ring
import Mathlib.Data.List.Basic

/-!
# C integers

`strtol` in base 10, the conversion of its `long` result to an `int`, and `int` multiplication,
as `processArgs` and `idleMonitor` use them. `long` has 64 bits and `int` 32, as on the targets
encfs is built for; the conversion keeps the value modulo `2^32`, as GCC and Clang do.
-/

namespace EncFS

/-- `LONG_MAX`. -/
def longMax : Int := 2 ^ 63 - 1

/-- `LONG_MIN`. -/
def longMin : Int := -2 ^ 63

/-- `INT_MAX`. -/
def intMax : Int := 2 ^ 31 - 1

/-- `INT_MIN`. -/
def intMin : Int := -2 ^ 31

/-- `isspace` in the C locale. -/
def isSpace (c : Char) : Bool :=
  c = ' ' || c = '\t' || c = '\n' || c = '\x0B' || c = '\x0C' || c = '\r'

/-- The number a run of decimal digits spells. -/
def decimalValue (ds : List Char) : Nat :=
  ds.foldl (fun n d => 10 * n + (d.toNat - '0'.toNat)) 0

/-- The sign `strtol` reads, and what follows it. -/
def readSign : List Char → Bool × List Char
  | '-' :: r => (true, r)
  | '+' :: r => (false, r)
  | r => (false, r)

/-- `strtol(s, nullptr, 10)`: leading white space, an optional sign, then the longest run of
decimal digits. A value out of range gives `LONG_MAX` or `LONG_MIN`, and no digits give 0. -/
def strtol (s : String) : Int :=
  let (neg, cs) := readSign (s.toList.dropWhile isSpace)
  let v : Int := decimalValue (cs.takeWhile Char.isDigit)
  if neg then max longMin (-v) else min longMax v

/-- The conversion of a `long` to `int`: the value modulo `2^32`, read in `[INT_MIN, INT_MAX]`. -/
def intOfLong (v : Int) : Int := (v + 2 ^ 31) % 2 ^ 32 - 2 ^ 31

/-- `a * b` on `int`: `none` when the product overflows, which C leaves undefined. -/
def intMul (a b : Int) : Option Int :=
  if intMin ≤ a * b ∧ a * b ≤ intMax then some (a * b) else none

lemma intOfLong_of_mem {v : Int} (h₁ : intMin ≤ v) (h₂ : v ≤ intMax) : intOfLong v = v := by
  simp only [intOfLong, intMin, intMax] at *
  rw [Int.emod_eq_of_lt] <;> omega

@[simp] lemma intMul_eq_some {a b p : Int} :
    intMul a b = some p ↔ a * b = p ∧ intMin ≤ p ∧ p ≤ intMax := by
  unfold intMul
  split_ifs with h
  · constructor
    · rintro ⟨⟩; exact ⟨rfl, h⟩
    · rintro ⟨rfl, -⟩; rfl
  · simp only [reduceCtorEq, false_iff, not_and]
    rintro rfl h₁ h₂; exact h ⟨h₁, h₂⟩

end EncFS
