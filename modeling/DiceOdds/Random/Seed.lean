/-!
# Spreading a Seed

A seed of any size is cut into 32-bit words, which are hashed into a pool of four words;
the pool is stirred until every word depends on every other, and then drawn out into as
much key material as a generator needs.
-/

namespace DiceOdds.Random

/-! ## §1 Words of the seed -/

/-- The digits of a number in base `2 ^ 32`, the least significant one first. -/
def seedWords (n : Nat) : List UInt32 :=
  if n < 4294967296 then [n.toUInt32]
  else n.toUInt32 :: seedWords (n / 4294967296)
termination_by n
decreasing_by omega

/-! ## §2 Hashing -/

/-- Folds the upper half of a word into the lower half. -/
def foldHalf (v : UInt32) : UInt32 := v ^^^ (v >>> 16)

/-- Hashes a word and moves on to the next hash constant. -/
def hashWord (constant v : UInt32) : UInt32 × UInt32 :=
  let next := constant * 0x931e8875
  (foldHalf ((v ^^^ constant) * next), next)

/-- Combines two words of the pool. -/
def combine (x y : UInt32) : UInt32 :=
  foldHalf (0xca01f9dd * x - 0x4973f715 * y)

/-- A pool of words under a running hash constant. -/
structure Pool where
  words : List UInt32
  constant : UInt32

/-- Puts the hash of a word at the end of the pool. -/
def Pool.push (p : Pool) (v : UInt32) : Pool :=
  let (h, constant) := hashWord p.constant v
  { words := p.words ++ [h], constant }

/-- Stirs the hash of a word into one word of the pool. -/
def Pool.stir (p : Pool) (v : UInt32) (target : Nat) : Pool :=
  let (h, constant) := hashWord p.constant v
  { words := p.words.modify target (combine · h), constant }

/-- Stirs one word of the pool into the three others. -/
def Pool.spread (p : Pool) (source : Nat) : Pool :=
  ([0, 1, 2, 3].filter (· != source)).foldl
    (fun q target => q.stir (q.words.getD source 0) target) p

/-- Stirs a further word of the seed into all words of the pool. -/
def Pool.absorb (p : Pool) (v : UInt32) : Pool :=
  [0, 1, 2, 3].foldl (fun q target => q.stir v target) p

/-- The pool of a seed. -/
def Pool.ofSeed (n : Nat) : Pool :=
  let words := seedWords n
  let start : Pool := { words := [], constant := 0x43b0d7e5 }
  -- a short seed is filled up with zeros
  let filled := [0, 1, 2, 3].foldl (fun p i => p.push (words.getD i 0)) start
  let stirred := [0, 1, 2, 3].foldl Pool.spread filled
  (words.drop 4).foldl Pool.absorb stirred

/-! ## §3 Key material -/

/-- Hashes the words in turn, each under the next output constant. -/
def outputWords (constant : UInt32) : List UInt32 → List UInt32
  | [] => []
  | v :: vs =>
    let next := constant * 0x58f38ded
    foldHalf ((v ^^^ constant) * next) :: outputWords next vs

/-- Eight words drawn from the pool of a seed. -/
def keyWords (n : Nat) : List UInt32 :=
  let pool := (Pool.ofSeed n).words
  outputWords 0x8b51f9dd (pool ++ pool)

/-- The number with the given digits in base `2 ^ 32`, the least significant one first. -/
def joinWords (ws : List UInt32) : Nat :=
  ws.foldr (fun w n => w.toNat + 4294967296 * n) 0

end DiceOdds.Random
