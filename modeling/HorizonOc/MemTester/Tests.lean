import Mathlib.Logic.Function.Iterate
import HorizonOc.Data.WordRam

namespace HorizonOc.MemTester

open HorizonOc.Data

/-! `tests.c`, on a memory that is read and written by words.  A buffer is the address of its first
word; all pointers step by the size of a word. -/

/-- `ul`. -/
abbrev Word := BitVec 64

def ulLen : Nat := 64
def ulOnebits : Word := BitVec.allOnes 64
def checkerboard1 : Word := 0x5555555555555555
def checkerboard2 : Word := 0xAAAAAAAAAAAAAAAA

def ulByte (x : Word) : Word :=
  x ||| x <<< 8 ||| x <<< 16 ||| x <<< 24 ||| x <<< 32 ||| x <<< 40 ||| x <<< 48 ||| x <<< 56

/-- `ONE << n`; the machine takes the count modulo the length of a word. -/
def oneShl (n : Nat) : Word := 1#64 <<< (n % ulLen)

def wordAt (buf i : Nat) : Nat := buf + 8 * i

/-- The memory, and how many random words were drawn. -/
structure World (σ : Type) where
  memory : σ
  drawn : Nat

section

variable {σ : Type} (ram : Ram σ Word) (dividend : Nat) (random : Nat → Word)

def compareRegions (bufa bufb count : Nat) (memory : σ) : Int :=
  if (List.range count).all fun i =>
      ram.load memory (wordAt bufa i) = ram.load memory (wordAt bufb i) then 0
  else -1

/-- The updates of two buffers in a loop, with the one that comes first in each round. -/
def both (first second count : Nat) (change : Nat → Word → Word) : List (Nat × (Word → Word)) :=
  (List.range count).flatMap fun i =>
    [(wordAt first i, change i), (wordAt second i, change i)]

/-- The same pattern in both buffers; the second of an assignment chain is written first. -/
def fill (bufa bufb count : Nat) (pattern : Nat → Word) (memory : σ) : σ :=
  ram.updateAll (both bufb bufa count fun i _ => pattern i) memory

/-- The outer loop over the rounds that are left. -/
def fillRounds (pattern : Nat → Nat → Word) (bufa bufb count : Nat) :
    List Nat → World σ → Int × World σ
  | [], world => (0, world)
  | j :: rest, world =>
      let world := { world with memory := fill ram bufa bufb count (pattern j) world.memory }
      if compareRegions ram bufa bufb count world.memory ≠ 0 then (-1, world)
      else fillRounds pattern bufa bufb count rest world

def solidbits (j i : Nat) : Word :=
  let q := if j % 2 = 0 then ulOnebits else 0
  if i % 2 = 0 then q else ~~~q

def checkerboard (j i : Nat) : Word :=
  let q := if j % 2 = 0 then checkerboard1 else checkerboard2
  if i % 2 = 0 then q else ~~~q

def blockseq (j _ : Nat) : Word := ulByte (.ofNat 64 j)

def walkbits0 (j _ : Nat) : Word :=
  if j < ulLen then oneShl j else oneShl (ulLen * 2 - j - 1)

def walkbits1 (j _ : Nat) : Word :=
  if j < ulLen then ulOnebits ^^^ oneShl j else ulOnebits ^^^ oneShl (ulLen * 2 - j - 1)

def bitspread (j i : Nat) : Word :=
  if j < ulLen then
    if i % 2 = 0 then oneShl j ||| oneShl (j + 2) else ulOnebits ^^^ (oneShl j ||| oneShl (j + 2))
  else
    if i % 2 = 0 then oneShl (ulLen * 2 - 1 - j) ||| oneShl (ulLen * 2 + 1 - j)
    else ulOnebits ^^^ (oneShl (ulLen * 2 - 1 - j) ||| oneShl (ulLen * 2 + 1 - j))

/-- The word of round `8 * k + j`: it was flipped `j + 1` times. -/
def bitflip (round i : Nat) : Word :=
  let q := if round % 8 % 2 = 0 then ~~~oneShl (round / 8) else oneShl (round / 8)
  if i % 2 = 0 then q else ~~~q

def testSolidbitsComparison (bufa bufb count : Nat) : World σ → Int × World σ :=
  fillRounds ram solidbits bufa bufb count (List.range (64 / dividend / dividend))

def testCheckerboardComparison (bufa bufb count : Nat) : World σ → Int × World σ :=
  fillRounds ram checkerboard bufa bufb count (List.range (64 / dividend / dividend))

def testBlockseqComparison (bufa bufb count : Nat) : World σ → Int × World σ :=
  fillRounds ram blockseq bufa bufb count (List.range (64 / dividend / dividend))

def testWalkbits0Comparison (bufa bufb count : Nat) : World σ → Int × World σ :=
  fillRounds ram walkbits0 bufa bufb count (List.range (ulLen * 2 / dividend / dividend))

def testWalkbits1Comparison (bufa bufb count : Nat) : World σ → Int × World σ :=
  fillRounds ram walkbits1 bufa bufb count (List.range (ulLen * 2 / dividend / dividend))

def testBitspreadComparison (bufa bufb count : Nat) : World σ → Int × World σ :=
  fillRounds ram bitspread bufa bufb count (List.range (ulLen * 2 / dividend / dividend))

/-- The two outer loops as one. -/
def testBitflipComparison (bufa bufb count : Nat) : World σ → Int × World σ :=
  fillRounds ram bitflip bufa bufb count (List.range (ulLen / dividend / dividend * 8))

/-- A random word for each place; `rand_ul` is the next of the random words. -/
def testRandomValue (bufa bufb count : Nat) (world : World σ) : Int × World σ :=
  let memory := fill ram bufa bufb count (fun i => random (world.drawn + i)) world.memory
  (compareRegions ram bufa bufb count memory, { memory, drawn := world.drawn + count })

def testSeqincComparison (bufa bufb count : Nat) (world : World σ) : Int × World σ :=
  let q := random world.drawn
  let memory := fill ram bufa bufb count (fun i => .ofNat 64 i + q) world.memory
  (compareRegions ram bufa bufb count memory, { memory, drawn := world.drawn + 1 })

/-- The tests that change both buffers in place. -/
def changeComparison (change : Word → Word → Word) (bufa bufb count : Nat) (world : World σ) :
    Int × World σ :=
  let q := random world.drawn
  let memory := ram.updateAll (both bufa bufb count fun _ word => change word q) world.memory
  (compareRegions ram bufa bufb count memory, { memory, drawn := world.drawn + 1 })

def testXorComparison (bufa bufb count : Nat) : World σ → Int × World σ :=
  changeComparison ram random (· ^^^ ·) bufa bufb count

def testSubComparison (bufa bufb count : Nat) : World σ → Int × World σ :=
  changeComparison ram random (· - ·) bufa bufb count

def testMulComparison (bufa bufb count : Nat) : World σ → Int × World σ :=
  changeComparison ram random (· * ·) bufa bufb count

/-- A divisor of zero is made one. -/
def testDivComparison (bufa bufb count : Nat) : World σ → Int × World σ :=
  changeComparison ram random (fun word q => word / if q = 0 then 1 else q) bufa bufb count

def testOrComparison (bufa bufb count : Nat) : World σ → Int × World σ :=
  changeComparison ram random (· ||| ·) bufa bufb count

def testAndComparison (bufa bufb count : Nat) : World σ → Int × World σ :=
  changeComparison ram random (· &&& ·) bufa bufb count

def stuckAddressWord (j bufa i : Nat) : Word :=
  if (j + i) % 2 = 0 then .ofNat 64 (wordAt bufa i) else ~~~.ofNat 64 (wordAt bufa i)

/-- The outer loop over the rounds that are left. -/
def stuckAddressRounds (bufa count : Nat) : List Nat → World σ → Int × World σ
  | [], world => (0, world)
  | j :: rest, world =>
      let memory := ram.updateAll
        ((List.range count).map fun i => (wordAt bufa i, fun _ => stuckAddressWord j bufa i))
        world.memory
      if (List.range count).all fun i =>
          ram.load memory (wordAt bufa i) = stuckAddressWord j bufa i then
        stuckAddressRounds bufa count rest { world with memory }
      else (-1, { world with memory })

def testStuckAddress (bufa count : Nat) : World σ → Int × World σ :=
  stuckAddressRounds ram bufa count (List.range (16 / dividend))

/-- The word that `memset` leaves: the low byte everywhere. -/
def memsetWord (q : Word) : Word := ulByte (q &&& 0xFF)

def memset (buf count : Nat) (q : Word) (memory : σ) : σ :=
  ram.updateAll ((List.range count).map fun i => (wordAt buf i, fun _ => memsetWord q)) memory

def memcpy (buf source count : Nat) (memory : σ) : σ :=
  (List.range count).foldl
    (fun memory i => ram.store memory (wordAt buf i) (ram.load memory (wordAt source i))) memory

def testStressMemcpy (bufa bufb count : Nat) (world : World σ) : Int × World σ :=
  let q := random world.drawn
  let memory := memset ram bufb count q (memset ram bufa count q world.memory)
  let memory := (memcpy ram bufa bufb count)^[128] memory
  (compareRegions ram bufa bufb count memory, { memory, drawn := world.drawn + 1 })

/-- The rounds of `test_stress_memset` that are left. -/
def stressMemset (bufa bufb count : Nat) : Nat → World σ → World σ
  | 0, world => world
  | rounds + 1, world =>
      let q := random world.drawn
      stressMemset bufa bufb count rounds
        { memory := memset ram bufb count q (memset ram bufa count q world.memory)
          drawn := world.drawn + 1 }

def testStressMemset (bufa bufb count : Nat) (world : World σ) : Int × World σ :=
  let world := stressMemset ram random bufa bufb count 128 world
  (compareRegions ram bufa bufb count world.memory, world)

/-- The rounds of `test_stress_memcmp` from `j` on; of what `memcmp` returns only zero is told apart. -/
def stressMemcmp (bufa bufb count : Nat) : List Nat → World σ → Int × World σ
  | [], world => (0, world)
  | j :: rest, world =>
      let q := random world.drawn
      let memory := ram.store (ram.store world.memory (wordAt bufb j) q) (wordAt bufa j) q
      let world := { memory, drawn := world.drawn + 1 : World σ }
      if compareRegions ram bufa bufb count memory ≠ 0 then (-1, world)
      else stressMemcmp bufa bufb count rest world

def testStressMemcmp (bufa bufb count : Nat) (world : World σ) : Int × World σ :=
  let q := random world.drawn
  stressMemcmp ram random bufa bufb count (List.range 32)
    { memory := memset ram bufb count q (memset ram bufa count q world.memory)
      drawn := world.drawn + 1 }

/-- A test on two buffers of so many words. -/
abbrev Test (σ : Type) := Nat → Nat → Nat → World σ → Int × World σ

def tests : List (Test σ) :=
  [testRandomValue ram random, testXorComparison ram random, testSubComparison ram random,
   testMulComparison ram random, testDivComparison ram random, testOrComparison ram random,
   testAndComparison ram random, testSeqincComparison ram random,
   testSolidbitsComparison ram dividend, testBlockseqComparison ram dividend,
   testCheckerboardComparison ram dividend, testBitspreadComparison ram dividend,
   testBitflipComparison ram dividend, testWalkbits1Comparison ram dividend,
   testWalkbits0Comparison ram dividend]

def stressTests : List (Test σ) :=
  [testStressMemcpy ram random, testStressMemset ram random, testStressMemcmp ram random]

/-- The inner loop of `testWorker`; the second buffer is the second half of the first. -/
def runTests (aligned bufsize : Nat) : List (Test σ) → World σ → Int × World σ
  | [], world => (0, world)
  | test :: rest, world =>
      let ran := test aligned (aligned + bufsize / 2) (bufsize / 8 / 2) world
      if ran.1 = 0 then runTests aligned bufsize rest ran.2 else ran

/-- One turn of `testWorker` through the stuck address test and the others. -/
def runLoop (selected : List (Test σ)) (aligned bufsize : Nat) (world : World σ) :
    Int × World σ :=
  let ran := testStuckAddress ram dividend aligned (bufsize / 8) world
  if ran.1 = 0 then runTests aligned bufsize selected ran.2 else ran

/-- The turns of a worker, until one fails. -/
def runLoops (selected : List (Test σ)) (aligned bufsize : Nat) : Nat → World σ → Int × World σ
  | 0, world => (0, world)
  | loops + 1, world =>
      let ran := runLoop ram dividend selected aligned bufsize world
      if ran.1 = 0 then runLoops selected aligned bufsize loops ran.2 else ran

end

end HorizonOc.MemTester
