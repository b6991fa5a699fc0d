import HorizonOc.Sysmodule.MinIni

namespace HorizonOc.Sysmodule.MinIni

open HorizonOc.Data

/-- A string without a terminator inside. -/
def Plain (text : List Char) : Prop := terminator ∉ text

instance (text : List Char) : Decidable (Plain text) := inferInstanceAs (Decidable (_ ∉ _))

/-- The lines as they are read from the start of the buffer. -/
def pieces (text : List Char) : List (List Char) := chunks isNewline (bufferSize - 1) text

def isSection (name line : List Char) : Bool :=
  match heading (skipleading line) with
  | some found =>
      found.length = name.length && strnicmp ((skipleading line).drop 1) name name.length
  | none => false

/-- A line that ends a section, whether or not its bracket is closed. -/
def opensSection (line : List Char) : Bool := (skipleading line).head? = some '['

/-- Where the first byte that is not blank lies. -/
def lineStart (line : List Char) : Nat := line.length - (skipleading line).length

def sectionText (name : List Char) (pairs : List (List Char × List Char)) : List Char :=
  if pairs = [] then []
  else headingLine name ++ pairs.flatMap (fun pair => keyLine pair.1 pair.2) ++ lineTerm

section

variable {text other line block rest buffer stale : List Char} {pos rounds : Nat} {copy : IniCopy}

theorem Plain.append (first : Plain text) (second : Plain other) : Plain (text ++ other) := by
  simp_all [Plain]

theorem Plain.of_append_left (plain : Plain (text ++ other)) : Plain text := by
  simp_all [Plain]

theorem Plain.of_append_right (plain : Plain (text ++ other)) : Plain other := by
  simp_all [Plain]

theorem Plain.head_ne (plain : Plain text) (filled : text ≠ []) :
    (text ++ rest).head? ≠ some terminator := by
  obtain ⟨char, more, rfl⟩ := List.exists_cons_of_ne_nil filled
  intro same
  rw [List.cons_append, List.head?_cons, Option.some.injEq] at same
  exact plain (same ▸ List.mem_cons_self)

theorem stringAt_of_append (text stale : List Char) (plain : Plain line) :
    stringAt (text ++ line ++ terminator :: stale) text.length = line := by
  have inside : ∀ char ∈ line, decide (char ≠ terminator) = true := by
    intro char member
    exact decide_eq_true (ne_of_mem_of_not_mem member plain)
  rw [stringAt, List.append_assoc, List.drop_left, List.takeWhile_append_of_pos inside]
  simp

theorem stringAt_zero (stale : List Char) (plain : Plain line) : stringAt (line ++ terminator :: stale) 0 = line := by
  simpa using stringAt_of_append [] stale plain

theorem storeString_append (line : List Char) (behind : buffer = text ++ stale) :
    storeString buffer text.length line =
      text ++ line ++ terminator :: stale.drop (line.length + 1) := by
  rw [storeString, behind, List.take_left, Nat.add_assoc, ← List.drop_drop, List.drop_left]

theorem storeString_zero (buffer line : List Char) :
    storeString buffer 0 line = line ++ terminator :: buffer.drop (line.length + 1) := by
  have nothing : buffer = [] ++ buffer := rfl
  simpa using storeString_append line nothing

theorem fgets_nil (size : Nat) : fgets size [] = none := if_pos (.inl rfl)

theorem fgets_of_ne_nil {size : Nat} (filled : text ≠ []) (room : 2 ≤ size) :
    fgets size text = some (chunk isNewline (size - 1) text,
      text.drop (chunk isNewline (size - 1) text).length) :=
  if_neg (not_or.mpr ⟨filled, by omega⟩)

namespace IniCopy

theorem readAnyway_nil (ended : copy.ahead = []) (pos : Nat) : copy.readAnyway pos = copy := by
  rw [readAnyway, read, ended, fgets_nil]
  rfl

end IniCopy

theorem fgets_inside (size : Nat) (filled : block ≠ []) (room : 2 ≤ size)
    (closes : Closes isNewline (size - 1) block rest) :
    ∃ line more, line ≠ [] ∧ block = line ++ more ∧
      fgets size (block ++ rest) = some (line, more ++ rest) := by
  have split := chunk_splits isNewline (size - 1) block
  have inside : (chunk isNewline (size - 1) block).length ≤ block.length := by
    have lengths := congrArg List.length split
    rw [List.length_append] at lengths
    omega
  refine ⟨chunk isNewline (size - 1) block, _, chunk_ne_nil isNewline (by omega) filled, split.symm, ?_⟩
  rw [fgets_of_ne_nil (by simp [filled]) room, chunk_append closes,
    List.drop_append_of_le_length inside]

/-- What is left of a block that closes closes, with what is left of the buffer. -/
theorem Closes.drop {limit : Nat} (closes : Closes isNewline limit (text ++ block) rest)
    (filled : block ≠ []) : Closes isNewline (limit - text.length) block rest := by
  rcases closes with ⟨symbol, last, ends⟩ | ended | full
  · refine .inl ⟨symbol, ?_, ends⟩
    rwa [List.getLast?_append_of_ne_nil text filled] at last
  · exact .inr (.inl ended)
  · refine .inr (.inr ?_)
    rw [List.length_append] at full
    omega

namespace IniCopy

theorem flushLoop_done (rounds : Nat) (copy : IniCopy) (done : copy.size ≤ pos) :
    flushLoop rounds pos copy = some (pos, copy) := by
  cases rounds with
  | zero => exact if_neg (Nat.not_lt.mpr done)
  | succ rounds => exact if_neg (Nat.not_lt.mpr done)

/-- Reading the cached block again goes through it line by line and stops at its end. -/
theorem flushLoop_cached (copy : IniCopy) (text : List Char) (plain : Plain (text ++ block)) (size : copy.size = (text ++ block).length)
    (ahead : copy.ahead = block ++ rest) (buffer : copy.buffer = text ++ terminator :: stale)
    (closes : Closes isNewline (bufferSize - 1) (text ++ block) rest)
    (room : (text ++ block).length < bufferSize) (enough : block.length ≤ rounds) :
    ∃ stale, flushLoop rounds text.length copy = some ((text ++ block).length,
      { copy with ahead := rest, buffer := text ++ block ++ terminator :: stale }) := by
  induction rounds generalizing text block stale copy with
  | zero =>
      have empty := List.eq_nil_of_length_eq_zero (Nat.le_zero.mp enough)
      subst empty
      have rest_eq : copy.ahead = rest := ahead
      rw [List.append_nil] at size
      rw [flushLoop_done 0 copy (Nat.le_of_eq size)]
      exact ⟨stale, by rw [List.append_nil, ← buffer, ← rest_eq]⟩
  | succ rounds ih =>
      by_cases empty : block = []
      · subst empty
        have rest_eq : copy.ahead = rest := ahead
        rw [List.append_nil] at size
        rw [flushLoop_done (rounds + 1) copy (Nat.le_of_eq size)]
        exact ⟨stale, by rw [List.append_nil, ← buffer, ← rest_eq]⟩
      · have more := List.length_pos_iff.mpr empty
        have inside : text.length + block.length < bufferSize := by rwa [← List.length_append]
        have closesBlock := Closes.drop closes empty
        rw [Nat.sub_right_comm] at closesBlock
        obtain ⟨line, behind, taken, split, got⟩ := fgets_inside (bufferSize - text.length) empty
          (by omega) closesBlock
        have lineLength := List.length_pos_iff.mpr taken
        subst split
        have plainLine : Plain line := plain.of_append_right.of_append_left
        have readAt : copy.readAnyway text.length =
            { copy with
              ahead := behind ++ rest
              buffer := text ++ line ++ terminator :: (terminator :: stale).drop (line.length + 1) } := by
          have stored := storeString_append line buffer
          rw [readAnyway, read, ahead, got, ← stored]
          rfl
        have step : text.length + min ((copy.readAnyway text.length).size - text.length)
            (stringAt (copy.readAnyway text.length).buffer text.length).length =
              (text ++ line).length := by
          rw [readAt, stringAt_of_append text _ plainLine]
          simp only [size, List.length_append]
          omega
        rw [← List.append_assoc] at plain size closes room
        obtain ⟨left, done⟩ := ih (copy.readAnyway text.length) (text ++ line) plain (by rw [readAt, size])
          (by rw [readAt]) (by rw [readAt]) closes room
          (by simp only [List.length_append] at enough; omega)
        refine ⟨left, ?_⟩
        rw [flushLoop, if_pos (by rw [size, List.length_append, List.length_append]; omega)]
        change flushLoop rounds (text.length + min ((copy.readAnyway text.length).size - text.length)
          (stringAt (copy.readAnyway text.length).buffer text.length).length)
          (copy.readAnyway text.length) = _
        rw [step, done, readAt, List.append_assoc]

/-- Between lines, what was copied is what was written and what is cached. -/
structure Copies (copied : List Char) (copy : IniCopy) : Prop where
  cache : ∃ cached, copy.written ++ cached = copied ∧ copy.mark = cached ++ copy.ahead ∧
    copy.size = cached.length ∧ cached.length < bufferSize ∧
    (cached = [] ∨ Closes isNewline (bufferSize - 1) cached copy.ahead)

theorem cacheFlush_ahead (rounds : Nat) (copy : IniCopy) (ahead : List Char) :
    cacheFlush rounds { copy with ahead } = cacheFlush rounds copy := rfl

theorem finishFlush_empty (empty : copy.buffer.head? = some terminator) :
    finishFlush 0 copy = (false, { copy with mark := copy.ahead, size := 0 }) := by
  simp [finishFlush, empty]

theorem finishFlush_cached (copy : IniCopy) (plain : Plain text) (filled : text ≠ []) (room : text.length < bufferSize)
    (buffer : copy.buffer = text ++ terminator :: stale) :
    ∃ ended buffer, finishFlush text.length copy = (ended,
        { copy with written := copy.written ++ text, mark := copy.ahead, size := 0, buffer }) ∧
      (ended = true → text.getLast? = some '\n') := by
  obtain ⟨before, last, rfl⟩ := (List.eq_nil_or_concat text).resolve_left filled
  rw [List.concat_eq_append] at plain room buffer ⊢
  have first : copy.buffer.head? ≠ some terminator := by
    rw [buffer]
    exact plain.head_ne (by simp)
  have whole : stringAt (storeString copy.buffer (before ++ [last]).length []) 0 = before ++ [last] := by
    rw [storeString_append [] buffer, List.append_nil]
    exact stringAt_zero _ plain
  have ending : stringAt (storeString copy.buffer (before ++ [last]).length [])
      ((before ++ [last]).length - lineTerm.length) = [last] := by
    rw [storeString_append [] buffer, List.append_nil, List.length_append, List.length_singleton,
      lineTerm, List.length_singleton, Nat.add_sub_cancel]
    exact stringAt_of_append before _ plain.of_append_right
  refine ⟨decide ((before ++ [last]).length > lineTerm.length) && decide ([last] = lineTerm),
    storeString copy.buffer (before ++ [last]).length [], ?_, fun ends => ?_⟩
  · simp only [finishFlush, if_neg first, if_neg (Nat.ne_of_lt room), whole, put, ending]
  · rw [Bool.and_eq_true, decide_eq_true_eq, decide_eq_true_eq] at ends
    rw [ends.2]
    simp [lineTerm]

theorem cacheFlush_empty (rounds : Nat) (empty : copy.size = 0) :
    cacheFlush rounds copy = some (false,
      { copy with ahead := copy.mark, size := 0, buffer := storeString copy.buffer 0 [] }) := by
  have looped := flushLoop_done rounds
    { copy with ahead := copy.mark, buffer := storeString copy.buffer 0 [] } (Nat.le_of_eq empty)
  rw [cacheFlush, looped, Option.map_some, finishFlush_empty (by rw [storeString_zero]; rfl)]

/-- A flush writes what is cached and goes back to the line that was read last. -/
theorem cacheFlush_copies (copies : Copies text copy) (plain : Plain text)
    (enough : bufferSize ≤ rounds) :
    ∃ ended buffer, cacheFlush rounds copy = some (ended,
        { ahead := copy.ahead, written := text, mark := copy.ahead, size := 0, buffer }) ∧
      (ended = true → text.getLast? = some '\n') := by
  obtain ⟨cached, rfl, mark, size, room, closes⟩ := copies.cache
  by_cases empty : cached = []
  · subst empty
    refine ⟨false, storeString copy.buffer 0 [], ?_, by simp⟩
    rw [cacheFlush_empty rounds size, mark]
    simp
  · have plain := plain.of_append_right
    have within : cached.length ≤ rounds := by omega
    obtain ⟨stale, looped⟩ := flushLoop_cached
      { copy with ahead := copy.mark, buffer := storeString copy.buffer 0 [] } []
      plain size mark (storeString_zero copy.buffer []) (closes.resolve_left empty) room within
    obtain ⟨ended, buffer, finished, newline⟩ := finishFlush_cached
      { copy with buffer := cached ++ terminator :: stale } plain empty room rfl
    refine ⟨ended, buffer, ?_, fun ends => ?_⟩
    · rw [List.length_nil, List.nil_append] at looped
      rw [cacheFlush, looped, Option.map_some, finished]
    · rw [List.getLast?_append_of_ne_nil _ empty]
      exact newline ends

end IniCopy

/-- What one read takes of a text. -/
structure Piece (line behind : List Char) : Prop where
  filled : line ≠ []
  got : fgets bufferSize (line ++ behind) = some (line, behind)

variable {behind : List Char}

theorem piece_chunk (filled : text ≠ []) :
    Piece (chunk isNewline (bufferSize - 1) text)
      (text.drop (chunk isNewline (bufferSize - 1) text).length) where
  filled := chunk_ne_nil isNewline (by decide) filled
  got := by
    rw [chunk_splits]
    exact fgets_of_ne_nil filled (by decide)

theorem Piece.eq_chunk (piece : Piece line behind) :
    line = chunk isNewline (bufferSize - 1) (line ++ behind) := by
  have got := piece.got
  rw [fgets_of_ne_nil (by simp [piece.filled]) (by decide), Option.some.injEq, Prod.mk.injEq] at got
  exact got.1.symm

theorem Piece.pieces (piece : Piece line behind) :
    pieces (line ++ behind) = line :: pieces behind := by
  rw [MinIni.pieces, chunks_of_ne_nil (by decide) (by simp [piece.filled]), ← piece.eq_chunk,
    List.drop_left]
  rfl

theorem Piece.room (piece : Piece line behind) : line.length < bufferSize := by
  have short := chunk_length_le isNewline (bufferSize - 1) (line ++ behind)
  rw [← piece.eq_chunk] at short
  exact Nat.lt_of_le_of_lt short (by decide)

theorem Piece.closes (piece : Piece line behind) (text : List Char) :
    Closes isNewline (bufferSize - 1) (text ++ line) behind := by
  have closes := chunk_closes isNewline (bufferSize - 1) (line ++ behind)
  rw [← piece.eq_chunk, List.drop_left] at closes
  rcases closes with ⟨symbol, last, ends⟩ | ended | full
  · refine .inl ⟨symbol, ?_, ends⟩
    rwa [List.getLast?_append_of_ne_nil text piece.filled]
  · exact .inr (.inl ended)
  · refine .inr (.inr ?_)
    rw [List.length_append]
    omega

theorem pieces_induct {motive : List Char → Prop} (nil : motive [])
    (read : ∀ line behind, Piece line behind → motive behind → motive (line ++ behind))
    (text : List Char) : motive text := by
  have room : 0 < bufferSize - 1 := by decide
  induction text using chunks_induct isNewline room with
  | nil => exact nil
  | read text filled ih =>
      have whole := read _ _ (piece_chunk filled) ih
      rwa [chunk_splits] at whole

theorem pieces_flatten (text : List Char) : (pieces text).flatten = text :=
  chunks_flatten (by decide) text

namespace IniCopy

theorem read_piece (piece : Piece line behind) (ahead : copy.ahead = line ++ behind) :
    copy.read 0 = some { copy with
      ahead := behind, buffer := line ++ terminator :: copy.buffer.drop (line.length + 1) } := by
  rw [read, ahead, Nat.sub_zero, piece.got, Option.map_some, ← storeString_zero]

theorem read_nil (ended : copy.ahead = []) (pos : Nat) : copy.read pos = none := by
  rw [read, ended, fgets_nil]
  rfl

theorem cacheAccum_line (plain : Plain line) (buffer : copy.buffer = line ++ terminator :: stale) :
    copy.cacheAccum =
      if copy.size + line.length ≥ bufferSize then (false, copy)
      else (true, { copy with size := copy.size + line.length }) := by
  rw [cacheAccum, buffer, stringAt_zero _ plain]

/-- A line on its own is cached. -/
theorem copies_line (copy : IniCopy) (piece : Piece line behind) (plain : Plain line)
    (ahead : copy.ahead = behind) (mark : copy.mark = line ++ behind) (size : copy.size = 0)
    (buffer : copy.buffer = line ++ terminator :: stale) :
    Copies (copy.written ++ line) copy.cacheAccum.2 ∧ copy.cacheAccum.2.ahead = behind := by
  have room := piece.room
  rw [cacheAccum_line plain buffer, if_neg (by rw [size]; omega)]
  refine ⟨⟨line, rfl, ?_, ?_, room, ?_⟩, ahead⟩
  · simp only [mark, ahead]
  · simp only [size, Nat.zero_add]
  · simp only [ahead]
    exact .inr (piece.closes [])

/-- Keeping a line adds it to what was copied. -/
theorem keepLine_copies (copy : IniCopy) (piece : Piece line behind)
    (copies : Copies text { copy with ahead := line ++ behind }) (plain : Plain (text ++ line))
    (ahead : copy.ahead = behind) (buffer : copy.buffer = line ++ terminator :: stale)
    (enough : bufferSize ≤ rounds) :
    ∃ kept, keepLine rounds copy = some kept ∧ Copies (text ++ line) kept ∧ kept.ahead = behind := by
  have plainLine := plain.of_append_right
  by_cases full : copy.size + line.length ≥ bufferSize
  · obtain ⟨ended, after, flushed, -⟩ := cacheFlush_copies copies plain.of_append_left enough
    rw [cacheFlush_ahead] at flushed
    let clean : IniCopy := ⟨line ++ behind, text, line ++ behind, 0, after⟩
    have again : clean.read 0 = _ := read_piece piece rfl
    obtain ⟨cached, left⟩ := copies_line
      ⟨behind, text, line ++ behind, 0, line ++ terminator :: after.drop (line.length + 1)⟩
      piece plainLine rfl rfl rfl rfl
    refine ⟨_, ?_, cached, left⟩
    rw [keepLine, cacheAccum_line plainLine buffer, if_pos full]
    change (cacheFlush rounds copy).bind _ = _
    rw [flushed, Option.bind_some]
    change some (clean.readAnyway 0).cacheAccum.2 = _
    rw [readAnyway, again]
    rfl
  · obtain ⟨cached, written, mark, size, room, closes⟩ := copies.cache
    simp only at written mark size
    refine ⟨{ copy with size := copy.size + line.length }, ?_, ⟨cached ++ line, ?_, ?_, ?_, ?_, ?_⟩, ahead⟩
    · rw [keepLine, cacheAccum_line plainLine buffer, if_neg full]
    · rw [← List.append_assoc, written]
    · rw [mark, ahead, List.append_assoc]
    · rw [List.length_append, size]
    · rw [List.length_append, ← size]
      omega
    · exact .inr (ahead ▸ piece.closes cached)

/-- What was copied does not depend on the buffer. -/
theorem Copies.buffered (copies : Copies text copy) (ahead : copy.ahead = rest)
    (buffer : List Char) : Copies text { copy with ahead := rest, buffer } :=
  ⟨by rw [← ahead]; exact copies.cache⟩

variable {name : List Char} {left : Nat}

theorem copyRest_copies (piecewise : copy.ahead = rest) (copies : Copies text copy)
    (plain : Plain (text ++ rest)) (fuel : rest.length < left) (enough : bufferSize ≤ rounds) :
    ∃ done, copyRest rounds left copy = some done ∧ Copies (text ++ rest) done ∧ done.ahead = [] := by
  induction rest using pieces_induct generalizing left copy text with
  | nil =>
      obtain ⟨left, rfl⟩ := Nat.exists_eq_add_one_of_ne_zero (Nat.ne_of_gt fuel)
      refine ⟨copy, ?_, by rwa [List.append_nil], piecewise⟩
      rw [copyRest, read_nil piecewise]
  | read line behind piece ih =>
      obtain ⟨left, rfl⟩ := Nat.exists_eq_add_one_of_ne_zero (Nat.ne_of_gt (Nat.zero_lt_of_lt fuel))
      have taken := List.length_pos_iff.mpr piece.filled
      rw [← List.append_assoc] at plain
      obtain ⟨kept, keeps, copies, ahead⟩ := keepLine_copies
        { copy with
          ahead := behind, buffer := line ++ terminator :: copy.buffer.drop (line.length + 1) }
        piece (copies.buffered piecewise _) plain.of_append_left rfl rfl enough
      have fuelBehind : behind.length < left := by
        rw [List.length_append] at fuel
        omega
      obtain ⟨done, loop, all, ended⟩ := ih ahead copies plain fuelBehind
      refine ⟨done, ?_, by rwa [← List.append_assoc], ended⟩
      rw [copyRest, read_piece piece piecewise]
      exact (congrArg (Option.bind · (copyRest rounds left)) keeps).trans loop

end IniCopy

end

end HorizonOc.Sysmodule.MinIni
