import HorizonOc.Loader.MtcFields

namespace HorizonOc.Loader

open HorizonOc.Data

/-! `oc_common.hpp`: a patcher is tried wherever the word, or the pattern, that it searches for
is found.  Addresses count words from the start of the image. -/

inductive LdrResult where
  | invalidMemPllmEntry | invalidMtcTable | invalidDvbTable | invalidCpuFreqVddEntry
  | invalidCpuVoltDfllEntry | invalidCpuDvfs | invalidCpuMinVolt | invalidGpuDvfs
  | invalidGpuFreqMaxPattern | invalidGpuPllEntry | invalidRegulatorEntry | unsuccessfulPatcher
  | i2c
  /-- A null pointer is followed, which ends the process. -/
  | nullTable
deriving DecidableEq, Repr

/-- What lives beside the image: the static `maxEmcClocks`, and how often the regulator was set. -/
structure PatchState where
  maxEmcClocks : List Word
  i2cCalls : Nat
deriving DecidableEq, Repr

/-- What lies outside: the floating-point timings of a table, and the I2C bus. -/
structure Platform where
  eristaTimings : MtcTable eristaMtcWords → Nat → Word
  marikoAutoAdjust : MtcTable marikoMtcWords → MtcTable marikoMtcWords
  i2cSucceeds : Nat → Bool

/-- `MemMtcTableAutoAdjust` of `pcv_erista.cpp`. -/
def Platform.eristaAutoAdjust (platform : Platform) :
    MtcTable eristaMtcWords → MtcTable eristaMtcWords :=
  writeWords eristaAdjustedWords platform.eristaTimings

abbrev Image := Store Word PatchState

abbrev Patcher := Tracked Word PatchState LdrResult

/-- A word to search for, or a pattern that holds of the word. -/
inductive Search where
  | value (searched : Word)
  | pattern (holds : Word → Bool)

structure PatcherEntry where
  description : String
  patcher : Int → Patcher PUnit
  maximumPatchedCount : Nat
  search : Search

def Search.found (search : Search) (word : Word) : Bool :=
  match search with
  | .value searched => word = searched
  | .pattern holds => holds word

def Search.run (search : Search) (ptr : Int) : Patcher Bool :=
  match search with
  | .value searched => Tracked.compare ptr searched
  | .pattern holds => do
      let word ← Tracked.read ptr
      pure (holds word)

def PatcherEntry.searchAndApply (entry : PatcherEntry) (ptr : Int) : Patcher PUnit := do
  if ← entry.search.run ptr then entry.patcher ptr else Tracked.fail .unsuccessfulPatcher

/-- The first patcher that succeeds at a position, by its index. -/
def applyFirst (entries : List PatcherEntry) (ptr : Int) : Patcher (Option Nat) :=
  match entries with
  | [] => pure none
  | entry :: rest => do
      if ← Tracked.attempt (entry.searchAndApply ptr) then pure (some 0)
      else
        let index ← applyFirst rest ptr
        pure (index.map (· + 1))

/-- The counts after a scan of the first positions. -/
def scan (entries : List PatcherEntry) : Nat → Patcher (List Nat)
  | 0 => pure (entries.map fun _ => 0)
  | positions + 1 => do
      let counts ← scan entries positions
      let index ← applyFirst entries positions
      pure (match index with
        | some index => counts.modify index (· + 1)
        | none => counts)

def PatcherEntry.checkResult (entry : PatcherEntry) (patchedCount : Nat) : Bool :=
  entry.maximumPatchedCount = 0 || patchedCount ≤ entry.maximumPatchedCount

/-- How many positions the loop of `Patch` visits, in the arithmetic of 64-bit addresses.  Where
the bound wraps around it lies past the end of the image. -/
def scanPositions (mappedNso nsoSize mtcWords : Nat) : Nat :=
  let bound := (mappedNso + nsoSize + (2 ^ 64 - 4 * mtcWords)) % 2 ^ 64
  if bound < mappedNso then 0 else (bound - mappedNso) / 4 + 1

/-- The scan, and whether no patcher was applied too often. -/
def patch (entries : List PatcherEntry) (mappedNso nsoSize mtcWords : Nat) : Patcher Bool := do
  let counts ← scan entries (scanPositions mappedNso nsoSize mtcWords)
  pure ((entries.zip counts).all fun counted => counted.1.checkResult counted.2)

/-- Words at consecutive offsets. -/
def fieldsFrom (offset : Int) (words : List Word) : List (Int × Word) :=
  words.zipIdx.map fun indexed => (offset + indexed.2, indexed.1)

def addressed (ptr : Int) (fields : List (Int × Word)) : List (Int × Word) :=
  fields.map fun field => (ptr + field.1, field.2)

/-- Compares fields one after another, up to the first that differs. -/
def compareFields (ptr : Int) (fields : List (Int × Word)) : Patcher Bool :=
  Tracked.compareEach (addressed ptr fields)

def comparePattern (ptr offset : Int) (pattern : List Word) : Patcher Bool :=
  Tracked.compareBlock (ptr + offset) pattern.length fun index => pattern.getD index 0

/-- The words that a setting goes to, unless it is 0. -/
def patchesOf (value : Word) (offsets : List Int) : List (Int × Word) :=
  if value = 0 then [] else offsets.map fun offset => (offset, value)

def patchOffsets (ptr : Int) (patches : List (Int × Word)) : Patcher PUnit :=
  patches.forM fun patch => Tracked.write (ptr + patch.1) patch.2

def patchAfter (compared : Patcher Bool) (error : LdrResult) (ptr : Int)
    (patches : List (Int × Word)) : Patcher PUnit := do
  let matched ← compared
  Tracked.require matched error
  patchOffsets ptr patches

end HorizonOc.Loader
