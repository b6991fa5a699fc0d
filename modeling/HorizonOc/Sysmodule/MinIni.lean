import Mathlib.Data.List.DropRight
import HorizonOc.Data.BoundedLines

namespace HorizonOc.Sysmodule.MinIni

open HorizonOc.Data

/-! `minIni.c`: INI files as text.  A character stands for a byte, a list for what a pointer into a
string sees up to its terminator, and a position in the file for what lies behind it. -/

/-- `INI_BUFFERSIZE`. -/
def bufferSize : Nat := 512

/-- `INI_LINETERM`. -/
def lineTerm : List Char := ['\n']

def terminator : Char := '\x00'

def quoteMark : Char := '\x22'

def backslash : Char := '\x5c'

def isNewline (char : Char) : Bool := char = '\n'

/-- `fgets`, which reads nothing into less than two bytes. -/
def fgets (size : Nat) (ahead : List Char) : Option (List Char × List Char) :=
  if ahead = [] ∨ size < 2 then none
  else
    let line := chunk isNewline (size - 1) ahead
    some (line, ahead.drop line.length)

def isBlank (char : Char) : Bool := 0 < char.toNat && char.toNat ≤ 32

def skipleading (text : List Char) : List Char := text.dropWhile isBlank

def striptrailing (text : List Char) : List Char := text.rdropWhile isBlank

def strnicmp (first second : List Char) (count : Nat) : Bool :=
  (first.take count).map Char.toUpper = (second.take count).map Char.toUpper

/-- `strrchr`, as an index. -/
def strrchr (text : List Char) (char : Char) : Option Nat :=
  (text.reverse.idxOf? char).map fun index => text.length - 1 - index

inductive QuoteOption where
  | none | enquote | dequote
deriving DecidableEq, Repr

/-- The loop of `QUOTE_ENQUOTE`, with so many bytes left before the closing quote. -/
def enquoted : Nat → List Char → List Char
  | 0, _ => []
  | _, [] => []
  | room + 1, char :: rest =>
      if char = quoteMark then
        match room with
        | 0 => []
        | room + 1 => backslash :: char :: enquoted room rest
      else char :: enquoted room rest

/-- Whether `QUOTE_DEQUOTE` leaves a byte out. -/
def escapes (char next : Char) : Bool := (char = quoteMark || char = backslash) && next = quoteMark

/-- The loop of `QUOTE_DEQUOTE`, with so many bytes left. -/
def dequoted : Nat → List Char → List Char
  | 0, _ => []
  | _, [] => []
  | _ + 1, [char] => [char]
  | room + 1, char :: next :: rest =>
      if escapes char next then next :: dequoted room rest else char :: dequoted room (next :: rest)

def iniStrncpy (source : List Char) (maxlen : Nat) (option : QuoteOption) : List Char :=
  match if option = .enquote ∧ maxlen < 3 then .none else option with
  | .none => source.take (maxlen - 1)
  | .enquote => quoteMark :: enquoted (maxlen - 3) source ++ [quoteMark]
  | .dequote => dequoted (maxlen - 1) source

def startsComment (char : Char) : Bool := char = ';' || char = '#'

/-- The loop of `cleanstring` that looks for a comment, whether or not it is inside a string. -/
def withoutComment : Bool → List Char → List Char
  | _, [] => []
  | isstring, [char] => if startsComment char && !isstring then [] else [char]
  | isstring, char :: next :: rest =>
      if startsComment char && !isstring then []
      else if escapes char next then char :: next :: withoutComment isstring rest
      else char :: withoutComment (isstring != decide (char = quoteMark)) (next :: rest)

def cleanstring (text : List Char) : List Char × QuoteOption :=
  let text := striptrailing (withoutComment false text)
  if text.head? = some quoteMark ∧ text.getLast? = some quoteMark then
    ((text.drop 1).dropLast, .dequote)
  else (text, .none)

/-- The name in a line of the form `[name]`, from its first byte that is not blank. -/
def heading (sp : List Char) : Option (List Char) :=
  if sp.head? = some '[' then (strrchr sp ']').map fun ep => (sp.take ep).drop 1 else none

/-- Where a key ends: at an equal sign, or else at a colon. -/
def keyEnd (sp : List Char) : Option Nat :=
  match sp.idxOf? '=' with
  | some ep => some ep
  | none => sp.idxOf? ':'

inductive BrowsedLine where
  | ignored
  | heading (name : List Char)
  | entry (key value : List Char)
deriving DecidableEq, Repr

/-- What `ini_browse` makes of a line that lies behind `lenSec` bytes of the buffer. -/
def browseLine (lenSec : Nat) (line : List Char) : BrowsedLine :=
  let sp := skipleading line
  if sp = [] ∨ sp.head? = some ';' ∨ sp.head? = some '#' then .ignored
  else
    match heading sp with
    | some name => .heading (iniStrncpy name bufferSize .none)
    | none =>
        match keyEnd sp with
        | none => .ignored
        | some ep =>
            let key := iniStrncpy (striptrailing (sp.take ep)) (bufferSize - lenSec) .none
            let lenKey := key.length + 1
            let cleaned := cleanstring (skipleading (sp.drop (ep + 1)))
            .entry key (iniStrncpy cleaned.1 (bufferSize - lenSec - lenKey) cleaned.2)

/-- `ini_browse` from a place in a section on; none where it takes more rounds. -/
def browseFrom {α : Type} (callback : α → List Char → List Char → List Char → Bool × α) :
    Nat → List Char → List Char → α → Option α
  | 0, _, _, _ => none
  | rounds + 1, name, ahead, state =>
      let lenSec := name.length + 1
      match fgets (bufferSize - lenSec) ahead with
      | none => some state
      | some (line, behind) =>
          match browseLine lenSec line with
          | .ignored => browseFrom callback rounds name behind state
          | .heading name => browseFrom callback rounds name behind state
          | .entry key value =>
              let (goesOn, state) := callback state name key value
              if goesOn then browseFrom callback rounds name behind state else some state

def iniBrowse {α : Type} (rounds : Nat) (callback : α → List Char → List Char → List Char → Bool × α)
    (state : α) (file : Option (List Char)) : Option (Bool × α) :=
  match file with
  | none => some (false, state)
  | some text => (browseFrom callback rounds [] text state).map fun state => (true, state)

/-- The file that is read and the one that is written, with `mark`, `cachelen` and `LocalBuffer`. -/
structure IniCopy where
  ahead : List Char
  written : List Char
  mark : List Char
  size : Nat
  buffer : List Char

/-- The string at a place of the buffer. -/
def stringAt (buffer : List Char) (pos : Nat) : List Char :=
  (buffer.drop pos).takeWhile fun char => char ≠ terminator

def storeString (buffer : List Char) (pos : Nat) (text : List Char) : List Char :=
  buffer.take pos ++ text ++ terminator :: buffer.drop (pos + text.length + 1)

namespace IniCopy

/-- `ini_read` to a place in the buffer; none at the end of the file, where nothing changes. -/
def read (copy : IniCopy) (pos : Nat) : Option IniCopy :=
  (fgets (bufferSize - pos) copy.ahead).map fun (line, behind) =>
    { copy with ahead := behind, buffer := storeString copy.buffer pos line }

/-- `ini_read` where the result is not looked at. -/
def readAnyway (copy : IniCopy) (pos : Nat) : IniCopy := (copy.read pos).getD copy

def put (copy : IniCopy) (text : List Char) : IniCopy := { copy with written := copy.written ++ text }

def cacheAccum (copy : IniCopy) : Bool × IniCopy :=
  let len := (stringAt copy.buffer 0).length
  if copy.size + len ≥ bufferSize then (false, copy)
  else (true, { copy with size := copy.size + len })

/-- The loop of `cache_flush`; none where it takes more rounds. -/
def flushLoop : Nat → Nat → IniCopy → Option (Nat × IniCopy)
  | 0, pos, copy => if pos < copy.size then none else some (pos, copy)
  | rounds + 1, pos, copy =>
      if pos < copy.size then
        let copy := copy.readAnyway pos
        flushLoop rounds (pos + min (copy.size - pos) (stringAt copy.buffer pos).length) copy
      else some (pos, copy)

/-- What `cache_flush` does behind its loop; whether the cached text ended with the end of a line. -/
def finishFlush (pos : Nat) (copy : IniCopy) : Bool × IniCopy :=
  let (pos, copy) :=
    if copy.buffer.head? = some terminator then (pos, copy)
    else
      let pos := if pos = bufferSize then pos - 1 else pos
      let buffer := storeString copy.buffer pos []
      (pos, { copy with buffer }.put (stringAt buffer 0))
  (pos > lineTerm.length && stringAt copy.buffer (pos - lineTerm.length) = lineTerm,
    { copy with mark := copy.ahead, size := 0 })

def cacheFlush (rounds : Nat) (copy : IniCopy) : Option (Bool × IniCopy) :=
  (flushLoop rounds 0
    { copy with ahead := copy.mark, buffer := storeString copy.buffer 0 [] }).map fun looped =>
      finishFlush looped.1 looped.2

/-- The line that was read goes to the cache, which is flushed where it is full. -/
def keepLine (rounds : Nat) (copy : IniCopy) : Option IniCopy :=
  match copy.cacheAccum with
  | (true, copy) => some copy
  | (false, copy) => do
      let (_, copy) ← cacheFlush rounds copy
      some (copy.readAnyway 0).cacheAccum.2

/-- The loop up to the heading of the section, with where it starts in the buffer. -/
def findSection (rounds : Nat) (name : List Char) : Nat → IniCopy → Option (Option Nat × IniCopy)
  | 0, _ => none
  | left + 1, copy =>
      match copy.read 0 with
      | none => some (none, copy)
      | some copy =>
          let line := stringAt copy.buffer 0
          let sp := skipleading line
          let matched := match heading sp with
            | some found => found.length = name.length && strnicmp (sp.drop 1) name name.length
            | none => false
          if matched then some (some (line.length - sp.length), copy)
          else do
            let copy ← keepLine rounds copy
            findSection rounds name left copy

/-- The loop over what is in the section, with where `sp` points in the end. -/
def skipSection (rounds : Nat) : Nat → Option Nat → IniCopy → Option (Option Nat × IniCopy)
  | 0, _, _ => none
  | left + 1, sp, copy =>
      match copy.read 0 with
      | none => do
          let (_, copy) ← cacheFlush rounds copy
          some (sp, { copy with mark := copy.ahead })
      | some copy =>
          let line := stringAt copy.buffer 0
          let text := skipleading line
          let sp := some (line.length - text.length)
          if text.head? = some '[' then some (sp, copy)
          else skipSection rounds left sp { copy with mark := copy.ahead }

/-- The loop over what follows the section. -/
def copyRest (rounds : Nat) : Nat → IniCopy → Option IniCopy
  | 0, _ => none
  | left + 1, copy =>
      match copy.read 0 with
      | none => some copy
      | some copy => do
          let copy ← keepLine rounds copy
          copyRest rounds left copy

def printLine (copy : IniCopy) (line : List Char) : IniCopy :=
  { copy with buffer := storeString copy.buffer 0 line }.put line

end IniCopy

def checkEnquote (value : List Char) : QuoteOption :=
  if value.any (fun char => char = quoteMark || startsComment char) ∨ value.getLast? = some ' ' then
    .enquote
  else .none

def headingLine (name : List Char) : List Char :=
  '[' :: iniStrncpy name (bufferSize - 4) .none ++ ']' :: lineTerm

def keyLine (key value : List Char) : List Char :=
  let key := iniStrncpy key (bufferSize - 3) .none
  key ++ '=' :: iniStrncpy value (bufferSize - (key.length + 1) - 2) (checkEnquote value) ++ lineTerm

namespace IniCopy

def writesection (copy : IniCopy) (name : List Char) : IniCopy :=
  if name = [] then copy else copy.printLine (headingLine name)

def writekey (copy : IniCopy) (pair : List Char × List Char) : IniCopy :=
  copy.printLine (keyLine pair.1 pair.2)

def putsection (copy : IniCopy) (name : List Char) (pairs : List (List Char × List Char)) : IniCopy :=
  if pairs = [] then copy else (pairs.foldl writekey (copy.writesection name)).put lineTerm

/-- `ini_putsection` on a file that exists, from the opened files to `close_rename`. -/
def replaceSection (rounds : Nat) (name : List Char) (pairs : List (List Char × List Char))
    (copy : IniCopy) : Option IniCopy := do
  let (sp, copy) ← if 0 < name.length then findSection rounds name rounds copy else some (some 0, copy)
  match sp with
  | none =>
      let (ended, copy) ← cacheFlush rounds copy
      some ((if ended then copy else copy.put lineTerm).putsection name pairs)
  | some start =>
      let sp := if 0 < name.length then some start else none
      let (_, copy) ← cacheFlush rounds copy
      let copy := copy.readAnyway 0
      let copy := { copy with mark := copy.ahead }
      let (sp, copy) ← skipSection rounds rounds sp copy
      let flag := sp.any fun pos => copy.buffer[pos]? = some '['
      let (_, copy) ← cacheFlush rounds copy
      let copy := (copy.putsection name pairs).readAnyway 0
      let copy := if flag then copy.cacheAccum.2 else { copy with mark := copy.ahead }
      let copy ← copyRest rounds rounds copy
      let (_, copy) ← cacheFlush rounds copy
      some copy

end IniCopy

/-- The files as they are opened. -/
def openCopy (text : List Char) : IniCopy :=
  { ahead := text, written := [], mark := text, size := 0, buffer := [] }

/-- The result and the file afterwards; none where a loop takes more rounds. -/
def iniPutsection (rounds : Nat) (name : List Char) (pairs : List (List Char × List Char))
    (writable : Bool) (file : Option (List Char)) : Option (Bool × Option (List Char)) :=
  if !writable then some (false, file)
  else
    match file with
    | none => some (true, some ((openCopy []).putsection name pairs).written)
    | some text =>
        ((openCopy text).replaceSection rounds name pairs).map fun copy => (true, some copy.written)

end HorizonOc.Sysmodule.MinIni
