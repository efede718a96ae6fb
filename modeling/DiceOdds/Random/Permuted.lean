import DiceOdds.Random.Seed
import DiceOdds.Random.Source
import DiceOdds.Random.Wide

/-!
# A Permuted Congruential Generator

A linear congruential generator of 128 bits whose output is a 64-bit word: the two
halves of the state are combined and rotated by an amount that the top bits select.
Halves of output words are used one after the other.
-/

namespace DiceOdds.Random

/-- State, increment, and the half of an output word that has not been used yet. -/
structure Permuted where
  state : Wide
  increment : Wide
  half : Option UInt32
  deriving DecidableEq, Repr

namespace Permuted

/-- The multiplier of the congruence. -/
def multiplier : Wide := ⟨0x2360ED051FC65DA4, 0x4385DF649FCCF645⟩

/-- The state after the given one. -/
@[inline] def advance (increment state : Wide) : Wide := state * multiplier + increment

/-- A step is an affine map modulo `2 ^ 128`. -/
theorem toNat_advance (increment state : Wide) :
    (advance increment state).toNat =
      (state.toNat * multiplier.toNat + increment.toNat)
        % 340282366920938463463374607431768211456 := by
  rw [advance, Wide.toNat_add, Wide.toNat_mul, Nat.mod_add_mod]

/-- Rotates a word to the right. -/
@[inline] def rotateRight (w : UInt64) (amount : UInt64) : UInt64 :=
  (w >>> amount) ||| (w <<< ((64 - amount) % 64))

/-- The output word of a state. -/
@[inline] def output (state : Wide) : UInt64 :=
  -- the top six bits select the amount
  rotateRight (state.high ^^^ state.low) (state.high >>> 58)

/-- The generator started from a seed. -/
def ofSeed (seed : Nat) : Permuted :=
  match keyWords seed with
  | [a, b, c, d, e, f, g, h] =>
    -- words come in pairs with the lower half first, pairs with the upper one first
    let start := Wide.ofNat (joinWords [c, d, a, b])
    let increment := Wide.ofNat (2 * joinWords [g, h, e, f] + 1)
    { state := advance increment (advance increment (Wide.ofNat 0) + start)
      increment
      half := none }
  | _ => { state := Wide.ofNat 0, increment := Wide.ofNat 1, half := none }

/-- The generator started from an integer, which must not be below nought. -/
def ofInt? (seed : Int) : Option Permuted :=
  if seed < 0 then none else some (ofSeed seed.toNat)

/-- A fresh word of 64 bits. -/
@[inline] def next64 (p : Permuted) : UInt64 × Permuted :=
  let state := advance p.increment p.state
  (output state, { p with state })

/-- The unused half of the last word, or else the lower half of a fresh one. -/
@[inline] def next32 (p : Permuted) : UInt32 × Permuted :=
  match p.half with
  | some w => (w, { p with half := none })
  | none =>
    let (w, q) := p.next64
    (w.toUInt32, { q with half := some (w >>> 32).toUInt32 })

/-- A word of 32 bits as a number. -/
@[inline] def word32 (p : Permuted) : Fin 4294967296 × Permuted :=
  let (w, q) := p.next32
  (⟨w.toNat, w.toNat_lt⟩, q)

/-- A word of 64 bits as a number. -/
@[inline] def word64 (p : Permuted) : Fin 18446744073709551616 × Permuted :=
  let (w, q) := p.next64
  (⟨w.toNat, w.toNat_lt⟩, q)

/-- How often a word may be refused before one is taken as it is. -/
def patience : Nat := 4096

/-- A number below a bound.  A bound of one needs no word; bounds up to `2 ^ 32` are met
by half words, larger ones by whole words. -/
def below (n : Nat) (h : 0 < n) (p : Permuted) : Fin n × Permuted :=
  if n = 1 then (⟨0, h⟩, p)
  else if n ≤ 4294967296 then Source.scaled word32 n h patience p
  else Source.scaled word64 n h patience p

instance : Source Permuted := ⟨below⟩

end Permuted

end DiceOdds.Random
