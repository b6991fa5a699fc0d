import HorizonOc.Sysmodule.MinIniCopy

namespace HorizonOc.Sysmodule.MinIni

open HorizonOc.Data

/-- The lines from the heading of a section on. -/
def fromSection (name text : List Char) : List (List Char) :=
  (pieces text).dropWhile fun line => !isSection name line

def beforeSection (name text : List Char) : List Char :=
  ((pieces text).takeWhile fun line => !isSection name line).flatten

/-- The text from the section that follows on. -/
def behindSection (name text : List Char) : List Char :=
  ((fromSection name text).tail.dropWhile fun line => !opensSection line).flatten

/-- Whether the section is a last line on its own whose bracket is not its first byte. -/
def endsIndented (name text : List Char) : Bool :=
  match fromSection name text with
  | [header] => 0 < lineStart header
  | _ => false

section

variable {text rest line behind name stale : List Char} {pairs : List (List Char × List Char)}
  {copy : IniCopy} {rounds left : Nat} {sp : Option Nat}

theorem pieces_nil : pieces [] = [] := chunks_nil

theorem Piece.append_ne_nil (piece : Piece line behind) : line ++ behind ≠ [] := by
  simp [piece.filled]

/-- What is read from a line on does not depend on the lines before. -/
theorem pieces_suffix {before after : List (List Char)} (split : pieces text = before ++ after) :
    pieces after.flatten = after := by
  induction text using pieces_induct generalizing before with
  | nil =>
      rw [pieces_nil] at split
      rw [(List.append_eq_nil_iff.mp split.symm).2]
      exact pieces_nil
  | read line behind piece ih =>
      cases before with
      | nil =>
          rw [List.nil_append] at split
          rw [← split, pieces_flatten]
      | cons first before =>
          rw [piece.pieces, List.cons_append, List.cons.injEq] at split
          exact ih split.2

theorem pieces_split {before after : List (List Char)} (split : pieces text = before ++ line :: after) :
    before.flatten ++ (line ++ after.flatten) = text ∧ pieces after.flatten = after := by
  refine ⟨?_, ?_⟩
  · rw [← pieces_flatten text, split, List.flatten_append, List.flatten_cons]
  · rw [List.append_cons] at split
    exact pieces_suffix split

namespace IniCopy

/-- The lines up to the heading are copied. -/
theorem findSection_absent (copy : IniCopy) (text : List Char) (left : Nat) (piecewise : copy.ahead = rest) (copies : Copies text copy)
    (plain : Plain (text ++ rest)) (fuel : rest.length < left) (enough : bufferSize ≤ rounds)
    (absent : ∀ line ∈ pieces rest, isSection name line = false) :
    ∃ done, findSection rounds name left copy = some (none, done) ∧ Copies (text ++ rest) done ∧
      done.ahead = [] := by
  induction rest using pieces_induct generalizing left copy text with
  | nil =>
      obtain ⟨left, rfl⟩ := Nat.exists_eq_add_one_of_ne_zero (Nat.ne_of_gt fuel)
      refine ⟨copy, ?_, by rwa [List.append_nil], piecewise⟩
      rw [findSection, read_nil piecewise]
  | read line behind piece ih =>
      obtain ⟨left, rfl⟩ := Nat.exists_eq_add_one_of_ne_zero (Nat.ne_of_gt (Nat.zero_lt_of_lt fuel))
      have taken := List.length_pos_iff.mpr piece.filled
      rw [← List.append_assoc] at plain
      rw [piece.pieces] at absent
      obtain ⟨kept, keeps, copies, ahead⟩ := keepLine_copies
        { copy with
          ahead := behind, buffer := line ++ terminator :: copy.buffer.drop (line.length + 1) }
        piece (copies.buffered piecewise _) plain.of_append_left rfl rfl enough
      obtain ⟨done, loop, all, ended⟩ := ih kept (text ++ line) left ahead copies plain
        (by rw [List.length_append] at fuel; omega)
        (fun other member => absent other (List.mem_cons_of_mem line member))
      refine ⟨done, ?_, by rwa [← List.append_assoc], ended⟩
      have other : isSection name line = false := absent line List.mem_cons_self
      rw [findSection, read_piece piece piecewise]
      simp only [stringAt_zero _ plain.of_append_left.of_append_right]
      change (if isSection name line = true then _ else _) = _
      rw [if_neg (by rw [other]; exact Bool.false_ne_true)]
      exact (congrArg (Option.bind · (findSection rounds name left)) keeps).trans loop

theorem findSection_present {before after : List (List Char)} {header : List Char}
    (copy : IniCopy) (text : List Char) (left : Nat) (piecewise : copy.ahead = rest) (copies : Copies text copy)
    (plain : Plain (text ++ rest)) (fuel : rest.length < left) (enough : bufferSize ≤ rounds)
    (split : pieces rest = before ++ header :: after)
    (earlier : ∀ line ∈ before, isSection name line = false) (found : isSection name header = true) :
    ∃ done stale, findSection rounds name left copy = some (some (lineStart header), done) ∧
      Piece header after.flatten ∧
      Copies (text ++ before.flatten) { done with ahead := header ++ after.flatten } ∧
      done.ahead = after.flatten ∧ done.buffer = header ++ terminator :: stale := by
  induction rest using pieces_induct generalizing left copy text before with
  | nil =>
      rw [pieces_nil] at split
      simp at split
  | read line behind piece ih =>
      obtain ⟨left, rfl⟩ := Nat.exists_eq_add_one_of_ne_zero (Nat.ne_of_gt (Nat.zero_lt_of_lt fuel))
      have taken := List.length_pos_iff.mpr piece.filled
      rw [← List.append_assoc] at plain
      rw [piece.pieces] at split
      have plainLine := plain.of_append_left.of_append_right
      rw [findSection, read_piece piece piecewise]
      simp only [stringAt_zero _ plainLine]
      change ∃ done stale, (if isSection name line = true then _ else _) = _ ∧ _
      cases before with
      | nil =>
          rw [List.nil_append, List.cons.injEq] at split
          obtain ⟨rfl, rfl⟩ := split
          rw [if_pos found]
          have again : (pieces behind).flatten = behind := pieces_flatten behind
          rw [again, List.flatten_nil, List.append_nil]
          exact ⟨_, _, rfl, piece, copies.buffered piecewise _, rfl, rfl⟩
      | cons first before =>
          rw [List.cons_append, List.cons.injEq] at split
          obtain ⟨rfl, split⟩ := split
          rw [if_neg (by rw [earlier line List.mem_cons_self]; exact Bool.false_ne_true)]
          obtain ⟨kept, keeps, copies, ahead⟩ := keepLine_copies
            { copy with
              ahead := behind, buffer := line ++ terminator :: copy.buffer.drop (line.length + 1) }
            piece (copies.buffered piecewise _) plain.of_append_left rfl rfl enough
          obtain ⟨done, stale, loop, header, copies, rest⟩ := ih kept (text ++ line) left ahead
            copies plain (by rw [List.length_append] at fuel; omega) split
            (fun other member => earlier other (List.mem_cons_of_mem line member))
          refine ⟨done, stale, ?_, header, ?_, rest⟩
          · exact (congrArg (Option.bind · (findSection rounds name left)) keeps).trans loop
          · rwa [List.flatten_cons, ← List.append_assoc]

end IniCopy

/-- Whether `sp` is left at a bracket. -/
def atBracket (sp : Option Nat) (buffer : List Char) : Bool :=
  sp.any fun pos => buffer[pos]? = some '['

theorem getElem?_lineStart (line : List Char) : (line)[lineStart line]? = (skipleading line).head? := by
  have suffix : skipleading line = line.drop (lineStart line) :=
    List.suffix_iff_eq_drop.mp (List.dropWhile_suffix _)
  rw [suffix, List.head?_drop]

theorem atBracket_read (line stale : List Char) :
    atBracket (some (lineStart line)) (line ++ terminator :: stale) = opensSection line := by
  have within : lineStart line ≤ line.length := Nat.sub_le _ _
  rw [atBracket, Option.any_some, opensSection, ← getElem?_lineStart]
  rcases Nat.lt_or_eq_of_le within with inside | ended
  · rw [List.getElem?_append_left inside]
  · rw [ended, List.getElem?_append_right (Nat.le_refl _), List.getElem?_eq_none (Nat.le_refl _),
      Nat.sub_self]
    rfl

/-- A flush leaves a terminator in the place of a bracket that was the first byte. -/
theorem atBracket_flushed (line stale : List Char) :
    atBracket (some (lineStart line)) (storeString (line ++ terminator :: stale) 0 []) =
      (opensSection line && decide (0 < lineStart line)) := by
  rw [← atBracket_read line stale, storeString_zero, atBracket, atBracket]
  cases lineStart line with
  | zero => simp [terminator]
  | succ pos => simp

namespace IniCopy

/-- A section that is the last one is left out, and `sp` is not at a bracket behind it. -/
theorem skipSection_ended (rounds : Nat) (copy : IniCopy) (left : Nat) (sp : Option Nat) (piecewise : copy.ahead = rest) (mark : copy.mark = rest)
    (size : copy.size = 0) (plain : Plain rest) (fuel : rest.length < left)
    (body : ∀ line ∈ pieces rest, opensSection line = false) :
    ∃ last buffer, skipSection rounds left sp copy = some (last,
        { ahead := [], written := copy.written, mark := [], size := 0, buffer }) ∧
      atBracket last buffer =
        if rest = [] then atBracket sp (storeString copy.buffer 0 []) else false := by
  induction rest using pieces_induct generalizing left copy sp with
  | nil =>
      obtain ⟨left, rfl⟩ := Nat.exists_eq_add_one_of_ne_zero (Nat.ne_of_gt fuel)
      refine ⟨sp, storeString copy.buffer 0 [], ?_, (if_pos rfl).symm⟩
      rw [skipSection, read_nil piecewise]
      change (cacheFlush rounds copy).bind _ = _
      rw [cacheFlush_empty rounds size, Option.bind_some, mark]
  | read line behind piece ih =>
      obtain ⟨left, rfl⟩ := Nat.exists_eq_add_one_of_ne_zero (Nat.ne_of_gt (Nat.zero_lt_of_lt fuel))
      have taken := List.length_pos_iff.mpr piece.filled
      have plainLine := plain.of_append_left
      rw [piece.pieces] at body
      have inside : opensSection line = false := body line List.mem_cons_self
      obtain ⟨last, buffer, loop, flag⟩ := ih
        { copy with
          ahead := behind
          mark := behind
          buffer := line ++ terminator :: copy.buffer.drop (line.length + 1) }
        left (some (lineStart line)) rfl rfl size plain.of_append_right (by rw [List.length_append] at fuel; omega)
        (fun other member => body other (List.mem_cons_of_mem line member))
      refine ⟨last, buffer, ?_, ?_⟩
      · rw [skipSection, read_piece piece piecewise]
        simp only [stringAt_zero _ plainLine]
        rw [opensSection, decide_eq_false_iff_not] at inside
        rw [if_neg inside]
        exact loop
      · rw [flag, if_neg piece.append_ne_nil, atBracket_flushed, inside, Bool.false_and, ite_self]

/-- A section that is followed by another is left out up to the heading of that one. -/
theorem skipSection_next {body after : List (List Char)} {next : List Char}
    (rounds : Nat) (copy : IniCopy) (left : Nat) (sp : Option Nat) (piecewise : copy.ahead = rest) (mark : copy.mark = rest)
    (plain : Plain rest) (fuel : rest.length < left) (split : pieces rest = body ++ next :: after)
    (skipped : ∀ line ∈ body, opensSection line = false) (opens : opensSection next = true) :
    ∃ stale, skipSection rounds left sp copy = some (some (lineStart next),
        { copy with
          ahead := after.flatten
          mark := next ++ after.flatten
          buffer := next ++ terminator :: stale }) ∧ Piece next after.flatten := by
  induction rest using pieces_induct generalizing left copy sp body with
  | nil =>
      rw [pieces_nil] at split
      simp at split
  | read line behind piece ih =>
      obtain ⟨left, rfl⟩ := Nat.exists_eq_add_one_of_ne_zero (Nat.ne_of_gt (Nat.zero_lt_of_lt fuel))
      have taken := List.length_pos_iff.mpr piece.filled
      have plainLine := plain.of_append_left
      rw [piece.pieces] at split
      rw [skipSection, read_piece piece piecewise]
      simp only [stringAt_zero _ plainLine]
      cases body with
      | nil =>
          rw [List.nil_append, List.cons.injEq] at split
          obtain ⟨rfl, rfl⟩ := split
          have again : (pieces behind).flatten = behind := pieces_flatten behind
          rw [opensSection, decide_eq_true_eq] at opens
          rw [if_pos opens, again, ← mark]
          exact ⟨_, rfl, piece⟩
      | cons first body =>
          rw [List.cons_append, List.cons.injEq] at split
          obtain ⟨rfl, split⟩ := split
          have inside : opensSection line = false := skipped line List.mem_cons_self
          rw [opensSection, decide_eq_false_iff_not] at inside
          rw [if_neg inside]
          exact ih _ left _ rfl rfl plain.of_append_right
            (by rw [List.length_append] at fuel; omega) split
            (fun other member => skipped other (List.mem_cons_of_mem line member))

end IniCopy

theorem enquoted_length_le (room : Nat) (text : List Char) : (enquoted room text).length ≤ room := by
  fun_induction enquoted with
  | case1 => simp
  | case2 => simp
  | case3 => simp
  | case4 rest room ih => simp; omega
  | case5 rest room char other ih => simp; omega

theorem dequoted_length_le (room : Nat) (text : List Char) : (dequoted room text).length ≤ room := by
  fun_induction dequoted with
  | case1 => simp
  | case2 => simp
  | case3 => simp
  | case4 room char next rest escaped ih => simp; omega
  | case5 room char next rest plain ih => simp; omega

/-- What is copied fits in its buffer with a terminator. -/
theorem iniStrncpy_length_lt (maxlen : Nat) (room : 0 < maxlen) (source : List Char)
    (option : QuoteOption) : (iniStrncpy source maxlen option).length < maxlen := by
  have taken : (source.take (maxlen - 1)).length ≤ maxlen - 1 := List.length_take_le _ _
  rw [iniStrncpy]
  split
  · omega
  · rename_i chosen
    have wide : ¬maxlen < 3 := by
      intro narrow
      split at chosen
      · contradiction
      · rename_i kept
        exact kept ⟨chosen, narrow⟩
    have inner := enquoted_length_le (maxlen - 3) source
    simp only [List.length_append, List.length_cons, List.length_nil]
    omega
  · have inner := dequoted_length_le (maxlen - 1) source
    omega

theorem keyLine_length_lt (key value : List Char) : (keyLine key value).length < bufferSize := by
  have short := iniStrncpy_length_lt (bufferSize - 3) (by decide) key .none
  rw [keyLine]
  generalize iniStrncpy key (bufferSize - 3) .none = stored at short
  have fits := iniStrncpy_length_lt (bufferSize - (stored.length + 1) - 2)
    (by rw [bufferSize] at short ⊢; omega) value (checkEnquote value)
  simp only [List.length_append, List.length_cons, lineTerm, List.length_nil, bufferSize] at *
  omega

theorem mem_enquoted {room : Nat} {char : Char} (member : char ∈ enquoted room text) :
    char ∈ text ∨ char = backslash := by
  fun_induction enquoted with
  | case1 => simp at member
  | case2 => simp at member
  | case3 => simp at member
  | case4 rest room ih =>
      rcases List.mem_cons.mp member with escape | member
      · exact .inr escape
      · rcases List.mem_cons.mp member with quote | later
        · exact .inl (quote ▸ List.mem_cons_self)
        · exact (ih later).imp_left (List.mem_cons_of_mem _)
  | case5 rest room first other ih =>
      rcases List.mem_cons.mp member with same | later
      · exact .inl (same ▸ List.mem_cons_self)
      · exact (ih later).imp_left (List.mem_cons_of_mem _)

theorem dequoted_sublist (room : Nat) (text : List Char) : (dequoted room text).Sublist text := by
  fun_induction dequoted with
  | case1 => exact List.nil_sublist _
  | case2 => exact List.nil_sublist _
  | case3 => exact List.Sublist.refl _
  | case4 room char next rest escaped ih => exact (ih.cons_cons next).cons char
  | case5 room char next rest plain ih => exact ih.cons_cons char

theorem Plain.iniStrncpy (plain : Plain text) (maxlen : Nat) (option : QuoteOption) :
    Plain (iniStrncpy text maxlen option) := by
  rw [MinIni.iniStrncpy]
  split
  · exact fun member => plain (List.mem_of_mem_take member)
  · intro member
    rw [List.mem_append, List.mem_cons, List.mem_singleton] at member
    rcases member with (quote | inner) | quote
    · exact absurd quote (by decide)
    · exact (mem_enquoted inner).elim plain (by decide)
    · exact absurd quote (by decide)
  · exact fun member => plain ((dequoted_sublist _ _).subset member)

theorem Plain.keyLine {key value : List Char} (plainKey : Plain key) (plainValue : Plain value) :
    Plain (keyLine key value) := by
  have middle : Plain ['='] := by decide
  have ending : Plain lineTerm := by decide
  rw [MinIni.keyLine, ← List.singleton_append]
  exact ((plainKey.iniStrncpy _ _).append (middle.append ((plainValue.iniStrncpy _ _)))).append ending

theorem Plain.sectionText (plainName : Plain name)
    (plainPairs : ∀ pair ∈ pairs, Plain pair.1 ∧ Plain pair.2) : Plain (sectionText name pairs) := by
  rw [MinIni.sectionText]
  split
  · exact List.not_mem_nil
  · have opening : Plain ['['] := by decide
    have closing : Plain (']' :: lineTerm) := by decide
    have ending : Plain lineTerm := by decide
    have entries : Plain (pairs.flatMap fun pair => MinIni.keyLine pair.1 pair.2) := by
      intro member
      obtain ⟨pair, paired, inside⟩ := List.mem_flatMap.mp member
      exact (plainPairs pair paired).1.keyLine (plainPairs pair paired).2 inside
    rw [headingLine, ← List.singleton_append]
    exact (((opening.append (plainName.iniStrncpy _ _)).append closing).append entries).append ending

namespace IniCopy

theorem foldl_writekey (pairs : List (List Char × List Char)) (copy : IniCopy) :
    ∃ buffer, pairs.foldl writekey copy =
        { copy with
          written := copy.written ++ pairs.flatMap fun pair => keyLine pair.1 pair.2
          buffer } ∧
      (pairs ≠ [] → ∃ pair ∈ pairs, ∃ stale,
        buffer = keyLine pair.1 pair.2 ++ terminator :: stale) := by
  induction pairs generalizing copy with
  | nil => exact ⟨copy.buffer, by simp, by simp⟩
  | cons pair pairs ih =>
      obtain ⟨buffer, wrote, last⟩ := ih (copy.writekey pair)
      refine ⟨buffer, ?_, fun _ => ?_⟩
      · rw [List.foldl_cons, wrote, List.flatMap_cons, ← List.append_assoc]
        rfl
      · by_cases more : pairs = []
        · subst more
          refine ⟨pair, List.mem_cons_self, copy.buffer.drop ((keyLine pair.1 pair.2).length + 1), ?_⟩
          rw [← storeString_zero]
          exact (congrArg IniCopy.buffer wrote).symm
        · obtain ⟨other, member, stale, found⟩ := last more
          exact ⟨other, List.mem_cons_of_mem _ member, stale, found⟩

/-- A section is written as a whole; where there is one, the buffer holds its last entry. -/
theorem putsection_eq (named : name ≠ []) (copy : IniCopy) (pairs : List (List Char × List Char)) :
    ∃ buffer, copy.putsection name pairs =
        { copy with written := copy.written ++ sectionText name pairs, buffer } ∧
      (pairs = [] → buffer = copy.buffer) ∧
      (pairs ≠ [] → ∃ pair ∈ pairs, ∃ stale,
        buffer = keyLine pair.1 pair.2 ++ terminator :: stale) := by
  by_cases none : pairs = []
  · refine ⟨copy.buffer, ?_, fun _ => rfl, fun some => absurd none some⟩
    rw [putsection, if_pos none, sectionText, if_pos none, List.append_nil]
  · obtain ⟨buffer, wrote, last⟩ := foldl_writekey pairs (copy.writesection name)
    refine ⟨buffer, ?_, fun empty => absurd empty none, last⟩
    rw [putsection, if_neg none, wrote, writesection, if_neg named, sectionText, if_neg none]
    simp [put, printLine]

theorem copies_open (text : List Char) : Copies [] (openCopy text) :=
  ⟨[], rfl, rfl, rfl, by decide, .inl rfl⟩

/-- A section that is not in the file is added behind a line that ends. -/
theorem replaceSection_absent (pairs : List (List Char × List Char)) (plain : Plain text) (named : name ≠ []) (enough : text.length + bufferSize ≤ rounds)
    (absent : ∀ line ∈ pieces text, isSection name line = false) :
    ∃ done filler, replaceSection rounds name pairs (openCopy text) = some done ∧
      done.written = text ++ filler ++ sectionText name pairs ∧
      (filler = lineTerm ∨ filler = [] ∧ text.getLast? = some '\n') := by
  have enoughFlush : bufferSize ≤ rounds := by omega
  have fuel : text.length < rounds := by
    rw [bufferSize] at enough
    omega
  obtain ⟨searched, found, copies, ended⟩ := findSection_absent (openCopy text) [] rounds
    rfl (copies_open text) plain fuel enoughFlush absent
  rw [List.nil_append] at copies
  obtain ⟨newline, buffer, flushed, ends⟩ := cacheFlush_copies copies plain enoughFlush
  have start : replaceSection rounds name pairs (openCopy text) =
      some ((if newline = true then
          ⟨searched.ahead, text, searched.ahead, 0, buffer⟩
        else put ⟨searched.ahead, text, searched.ahead, 0, buffer⟩ lineTerm).putsection name pairs) := by
    rw [replaceSection, if_pos (List.length_pos_iff.mpr named), found]
    change (cacheFlush rounds searched).bind _ = _
    rw [flushed]
    rfl
  rw [start]
  by_cases filled : newline = true
  · rw [if_pos filled]
    obtain ⟨after, wrote, -⟩ := putsection_eq named
      (⟨searched.ahead, text, searched.ahead, 0, buffer⟩ : IniCopy) pairs
    exact ⟨_, [], rfl, by rw [wrote, List.append_nil], .inr ⟨rfl, ends filled⟩⟩
  · rw [if_neg filled]
    obtain ⟨after, wrote, -⟩ := putsection_eq named
      (put ⟨searched.ahead, text, searched.ahead, 0, buffer⟩ lineTerm) pairs
    exact ⟨_, lineTerm, rfl, by rw [wrote]; rfl, .inl rfl⟩

/-- What happens from the heading that was found to the lines behind it. -/
theorem replaceSection_present {before after : List (List Char)} {header : List Char}
    (pairs : List (List Char × List Char)) (plain : Plain text) (named : name ≠ []) (enough : text.length + bufferSize ≤ rounds)
    (split : pieces text = before ++ header :: after)
    (earlier : ∀ line ∈ before, isSection name line = false) (found : isSection name header = true) :
    ∃ stale, replaceSection rounds name pairs (openCopy text) =
      (skipSection rounds rounds (some (lineStart header))
        { ahead := after.flatten
          written := before.flatten
          mark := after.flatten
          size := 0
          buffer := header ++ terminator :: stale }).bind fun skipped =>
        (cacheFlush rounds skipped.2).bind fun flushed =>
          let put := (flushed.2.putsection name pairs).readAnyway 0
          (copyRest rounds rounds
            (if atBracket skipped.1 skipped.2.buffer then put.cacheAccum.2
            else { put with mark := put.ahead })).bind
              fun copy => (cacheFlush rounds copy).map Prod.snd := by
  obtain ⟨whole, -⟩ := pieces_split split
  have enoughFlush : bufferSize ≤ rounds := by omega
  have fuel : text.length < rounds := by
    rw [bufferSize] at enough
    omega
  obtain ⟨done, -, search, piece, copies, -, -⟩ := findSection_present (openCopy text) []
    rounds rfl (copies_open text) plain fuel enoughFlush split earlier found
  rw [List.nil_append] at copies
  rw [← whole] at plain
  obtain ⟨ended, buffer, flushed, -⟩ := cacheFlush_copies copies plain.of_append_left enoughFlush
  rw [cacheFlush_ahead] at flushed
  have again : readAnyway ⟨header ++ after.flatten, before.flatten, header ++ after.flatten, 0, buffer⟩ 0 =
      ⟨after.flatten, before.flatten, header ++ after.flatten, 0,
        header ++ terminator :: buffer.drop (header.length + 1)⟩ := by
    rw [readAnyway, read_piece piece rfl, Option.getD_some]
  refine ⟨buffer.drop (header.length + 1), ?_⟩
  rw [replaceSection, if_pos (List.length_pos_iff.mpr named), search]
  change (cacheFlush rounds done).bind _ = _
  rw [flushed, Option.bind_some]
  simp only [if_pos (List.length_pos_iff.mpr named), again]
  have mapped (result : Option (Bool × IniCopy)) :
      (result.bind fun copy => some copy.2) = result.map Prod.snd := by
    cases result <;> rfl
  refine congrArg (Option.bind _) (funext fun skipped => ?_)
  refine congrArg (Option.bind _) (funext fun flushed => ?_)
  refine congrArg (Option.bind _) (funext fun copy => ?_)
  exact mapped _

theorem opensSection_of_isSection (found : isSection name line = true) : opensSection line = true := by
  rw [isSection, heading] at found
  by_cases bracket : (skipleading line).head? = some '['
  · exact decide_eq_true bracket
  · rw [if_neg bracket] at found
    contradiction

/-- A flush at the end of the file does not end where something is cached that is not behind the
mark. -/
theorem flushLoop_stuck {pos : Nat} (copy : IniCopy) (ended : copy.ahead = [])
    (nothing : stringAt copy.buffer pos = []) (cached : pos < copy.size) (rounds : Nat) :
    flushLoop rounds pos copy = none := by
  induction rounds with
  | zero => exact if_pos cached
  | succ rounds ih =>
      rw [flushLoop, if_pos cached, readAnyway_nil ended]
      change flushLoop rounds (pos + min (copy.size - pos) (stringAt copy.buffer pos).length) copy = none
      rw [nothing, List.length_nil, Nat.min_zero, Nat.add_zero]
      exact ih

theorem cacheFlush_stuck (rounds : Nat) (copy : IniCopy) (mark : copy.mark = []) (cached : 0 < copy.size) :
    cacheFlush rounds copy = none := by
  have nothing : stringAt (storeString copy.buffer 0 []) 0 = [] := by
    rw [storeString_zero]
    exact stringAt_zero _ (by decide)
  have stuck := flushLoop_stuck
    { copy with ahead := copy.mark, buffer := storeString copy.buffer 0 [] } mark nothing cached rounds
  rw [cacheFlush, stuck, Option.map_none]

/-- A section between others is replaced in its place. -/
theorem replaceSection_followed {before after body others : List (List Char)}
    {header next : List Char} (plain : Plain text) (plainName : Plain name)
    (plainPairs : ∀ pair ∈ pairs, Plain pair.1 ∧ Plain pair.2) (named : name ≠ []) (enough : text.length + bufferSize ≤ rounds)
    (split : pieces text = before ++ header :: after) (followed : after = body ++ next :: others)
    (earlier : ∀ line ∈ before, isSection name line = false) (found : isSection name header = true)
    (skipped : ∀ line ∈ body, opensSection line = false) (opens : opensSection next = true) :
    ∃ done, replaceSection rounds name pairs (openCopy text) = some done ∧
      done.written = before.flatten ++ sectionText name pairs ++ (next :: others).flatten := by
  obtain ⟨whole, behind⟩ := pieces_split split
  have sizes := congrArg List.length whole
  rw [List.length_append, List.length_append] at sizes
  obtain ⟨stale, start⟩ := replaceSection_present pairs plain named enough split
    earlier found
  rw [← whole] at plain
  obtain ⟨read, skip, piece⟩ := skipSection_next rounds
    ⟨after.flatten, before.flatten, after.flatten, 0, header ++ terminator :: stale⟩ rounds
    (some (lineStart header)) rfl rfl plain.of_append_right.of_append_right (by rw [bufferSize] at enough; simp only; omega) (behind.trans followed)
    skipped opens
  rw [start, skip, Option.bind_some]
  simp only [atBracket_read, opens, if_true]
  rw [cacheFlush_empty rounds rfl, Option.bind_some]
  obtain ⟨buffer, wrote, -⟩ := putsection_eq named
    ⟨next ++ others.flatten, before.flatten, next ++ others.flatten, 0,
      storeString (next ++ terminator :: read) 0 []⟩ pairs
  have plainWhole : Plain (before.flatten ++ sectionText name pairs ++ next ++ others.flatten) := by
    have plainRest : Plain (next ++ others.flatten) := by
      have tail := plain.of_append_right.of_append_right
      rw [followed, List.flatten_append, List.flatten_cons] at tail
      exact tail.of_append_right
    rw [List.append_assoc]
    exact (plain.of_append_left.append (plainName.sectionText plainPairs)).append plainRest
  have reread : readAnyway ⟨next ++ others.flatten, before.flatten ++ sectionText name pairs,
      next ++ others.flatten, 0, buffer⟩ 0 = ⟨others.flatten, before.flatten ++ sectionText name pairs,
        next ++ others.flatten, 0, next ++ terminator :: buffer.drop (next.length + 1)⟩ := by
    rw [readAnyway, read_piece piece rfl, Option.getD_some]
  obtain ⟨copies, ahead⟩ := copies_line
    ⟨others.flatten, before.flatten ++ sectionText name pairs, next ++ others.flatten, 0,
      next ++ terminator :: buffer.drop (next.length + 1)⟩
    piece plainWhole.of_append_left.of_append_right rfl rfl rfl rfl
  have enoughFlush : bufferSize ≤ rounds := by omega
  have fuel : others.flatten.length < rounds := by
    rw [followed, List.flatten_append, List.flatten_cons, List.length_append, List.length_append]
      at sizes
    rw [bufferSize] at enough
    omega
  obtain ⟨done, copied, all, -⟩ := copyRest_copies ahead copies plainWhole fuel enoughFlush
  obtain ⟨ended, final, flushed, -⟩ := cacheFlush_copies all plainWhole enoughFlush
  refine ⟨⟨done.ahead, before.flatten ++ sectionText name pairs ++ next ++ others.flatten,
    done.ahead, 0, final⟩, ?_, ?_⟩
  · simp only [wrote, reread, copied, Option.bind_some, flushed, Option.map_some]
  · rw [List.flatten_cons, ← List.append_assoc]

theorem cacheAccum_ahead (copy : IniCopy) : copy.cacheAccum.2.ahead = copy.ahead := by
  rw [cacheAccum]
  split <;> rfl

theorem copyRest_nil (room : 0 < left) (ended : copy.ahead = []) :
    copyRest rounds left copy = some copy := by
  obtain ⟨left, rfl⟩ := Nat.exists_eq_add_one_of_ne_zero (Nat.ne_of_gt room)
  rw [copyRest, read_nil ended]

/-- What is left to do behind the entries of a section that is the last one. -/
theorem replaceSection_ended {before after : List (List Char)} {header : List Char}
    (pairs : List (List Char × List Char)) (plain : Plain text) (named : name ≠ []) (enough : text.length + bufferSize ≤ rounds)
    (split : pieces text = before ++ header :: after)
    (earlier : ∀ line ∈ before, isSection name line = false) (found : isSection name header = true)
    (skipped : ∀ line ∈ after, opensSection line = false) :
    ∃ put : IniCopy, put.mark = [] ∧ put.size = 0 ∧
      put.written = before.flatten ++ sectionText name pairs ∧
      (pairs ≠ [] → ∃ pair ∈ pairs, ∃ stale,
        put.buffer = keyLine pair.1 pair.2 ++ terminator :: stale) ∧
      (pairs = [] → put.buffer.head? = some terminator) ∧
      replaceSection rounds name pairs (openCopy text) =
        (cacheFlush rounds (if after = [] ∧ 0 < lineStart header then put.cacheAccum.2 else put)).map
          Prod.snd := by
  obtain ⟨whole, behind⟩ := pieces_split split
  have sizes := congrArg List.length whole
  rw [List.length_append, List.length_append] at sizes
  obtain ⟨stale, start⟩ := replaceSection_present pairs plain named enough split
    earlier found
  rw [← whole] at plain
  rw [bufferSize] at enough
  have fuel : after.flatten.length < rounds := by omega
  obtain ⟨last, read, skip, flag⟩ := skipSection_ended rounds
    ⟨after.flatten, before.flatten, after.flatten, 0, header ++ terminator :: stale⟩ rounds
    (some (lineStart header)) rfl rfl rfl plain.of_append_right.of_append_right fuel (by rwa [behind])
  have emptied : after.flatten = [] ↔ after = [] := by
    refine ⟨fun none => ?_, fun none => by rw [none, List.flatten_nil]⟩
    rw [← behind, none, pieces_nil]
  have flagged : atBracket last read = decide (after = [] ∧ 0 < lineStart header) := by
    rw [flag, atBracket_flushed, opensSection_of_isSection found, Bool.true_and]
    by_cases none : after = [] <;> simp [none, emptied]
  obtain ⟨buffer, wrote, unchanged, entries⟩ := putsection_eq named
    ⟨[], before.flatten, [], 0, storeString read 0 []⟩ pairs
  refine ⟨⟨[], before.flatten ++ sectionText name pairs, [], 0, buffer⟩, rfl, rfl, rfl, entries,
    fun none => ?_, ?_⟩
  · rw [unchanged none, storeString_zero]
    rfl
  · rw [start, skip, Option.bind_some]
    simp only
    rw [cacheFlush_empty rounds rfl, Option.bind_some]
    simp only [wrote, readAnyway_nil, flagged, decide_eq_true_eq]
    rw [copyRest_nil (by omega) (by split <;> [exact cacheAccum_ahead _; rfl]), Option.bind_some]

/-- A section that is the last one is replaced too, unless the copy hangs. -/
theorem replaceSection_last {before after : List (List Char)} {header : List Char}
    (plain : Plain text) (plainPairs : ∀ pair ∈ pairs, Plain pair.1 ∧ Plain pair.2) (named : name ≠ [])
    (enough : text.length + bufferSize ≤ rounds) (split : pieces text = before ++ header :: after)
    (earlier : ∀ line ∈ before, isSection name line = false) (found : isSection name header = true)
    (skipped : ∀ line ∈ after, opensSection line = false) :
    if pairs ≠ [] ∧ after = [] ∧ 0 < lineStart header then
      replaceSection rounds name pairs (openCopy text) = none
    else
      ∃ done, replaceSection rounds name pairs (openCopy text) = some done ∧
        done.written = before.flatten ++ sectionText name pairs := by
  obtain ⟨put, mark, size, written, entries, empty, replaced⟩ := replaceSection_ended pairs
    plain named enough split earlier found skipped
  have idle (copy : IniCopy) (nothing : copy.size = 0) (same : copy.written = put.written) :
      ∃ done, (cacheFlush rounds copy).map Prod.snd = some done ∧
        done.written = before.flatten ++ sectionText name pairs := by
    rw [cacheFlush_empty rounds nothing]
    exact ⟨_, rfl, same.trans written⟩
  rw [replaced]
  by_cases indented : after = [] ∧ 0 < lineStart header
  · rw [if_pos indented]
    by_cases filled : pairs ≠ []
    · obtain ⟨pair, member, stale, buffer⟩ := entries filled
      obtain ⟨plainKey, plainValue⟩ := plainPairs pair member
      have short := keyLine_length_lt pair.1 pair.2
      have taken : 0 < (keyLine pair.1 pair.2).length := by
        rw [keyLine, List.length_append, List.length_append, List.length_cons]
        omega
      have stuck := cacheFlush_stuck rounds
        { put with size := put.size + (keyLine pair.1 pair.2).length } mark
        (Nat.add_pos_right _ taken)
      rw [if_pos ⟨filled, indented⟩, cacheAccum_line (plainKey.keyLine plainValue) buffer,
        if_neg (by rw [size]; omega), stuck, Option.map_none]
    · rw [if_neg fun both => filled both.1]
      have string : stringAt put.buffer 0 = [] := by
        obtain ⟨stale, starts⟩ := List.head?_eq_some_iff.mp (empty (not_not.mp filled))
        rw [starts]
        exact stringAt_zero stale List.not_mem_nil
      refine idle _ ?_ ?_
      · rw [cacheAccum, string, size]
        rfl
      · rw [cacheAccum, string, size]
        rfl
  · rw [if_neg indented, if_neg fun both => indented both.2]
    exact idle put size rfl

end IniCopy

theorem beforeSection_earlier (name text : List Char) :
    ∀ line ∈ (pieces text).takeWhile fun line => !isSection name line, isSection name line = false := by
  intro line member
  simpa using List.mem_takeWhile_imp member

theorem fromSection_head {header : List Char} {after : List (List Char)}
    (split : fromSection name text = header :: after) : isSection name header = true := by
  have head := List.head?_dropWhile_not (fun line => !isSection name line) (pieces text)
  rw [fromSection] at split
  rw [split] at head
  simpa using head

theorem pieces_eq_split (name text : List Char) :
    pieces text = ((pieces text).takeWhile fun line => !isSection name line) ++ fromSection name text :=
  List.takeWhile_append_dropWhile.symm

theorem beforeSection_absent (absent : fromSection name text = []) :
    beforeSection name text = text ∧ behindSection name text = [] := by
  have whole := pieces_eq_split name text
  rw [absent, List.append_nil] at whole
  refine ⟨?_, by rw [behindSection, absent]; rfl⟩
  rw [beforeSection, ← whole, pieces_flatten]

/-- A section that was found is replaced up to the next line that opens one. -/
theorem replaceSection_found {before after : List (List Char)} {header : List Char}
    (plain : Plain text) (plainName : Plain name) (plainPairs : ∀ pair ∈ pairs, Plain pair.1 ∧ Plain pair.2)
    (named : name ≠ []) (enough : text.length + bufferSize ≤ rounds)
    (split : pieces text = before ++ header :: after)
    (earlier : ∀ line ∈ before, isSection name line = false) (found : isSection name header = true) :
    if pairs ≠ [] ∧ after = [] ∧ 0 < lineStart header then
      (openCopy text).replaceSection rounds name pairs = none
    else
      ∃ done, (openCopy text).replaceSection rounds name pairs = some done ∧
        done.written = before.flatten ++ sectionText name pairs ++
          (after.dropWhile fun line => !opensSection line).flatten := by
  have body : after = (after.takeWhile fun line => !opensSection line) ++
      after.dropWhile fun line => !opensSection line := List.takeWhile_append_dropWhile.symm
  have skipped : ∀ line ∈ after.takeWhile fun line => !opensSection line,
      opensSection line = false := by
    intro line member
    simpa using List.mem_takeWhile_imp member
  cases rest : after.dropWhile fun line => !opensSection line with
  | nil =>
      rw [rest, List.append_nil] at body
      rw [List.flatten_nil, List.append_nil]
      exact IniCopy.replaceSection_last plain plainPairs named enough split earlier found
        (by rwa [body])
  | cons next others =>
      have opens : opensSection next = true := by
        have head := List.head?_dropWhile_not (fun line => !opensSection line) after
        rw [rest] at head
        simpa using head
      rw [rest] at body
      have more : after ≠ [] := by
        rw [body]
        simp
      rw [if_neg fun hangs => more hangs.2.1]
      exact IniCopy.replaceSection_followed plain plainName plainPairs named enough split body earlier
        found skipped opens

/-- Writing a section replaces its lines and keeps every other byte.  Where it was not in the file,
it is added on a line of its own.  Where a heading that does not start its line is all there is of
it at the end of the file, writing it does not end. -/
theorem iniPutsection_replaces (plain : Plain text) (plainName : Plain name)
    (plainPairs : ∀ pair ∈ pairs, Plain pair.1 ∧ Plain pair.2) (named : name ≠ [])
    (enough : text.length + bufferSize ≤ rounds) :
    if pairs ≠ [] ∧ endsIndented name text = true then
      iniPutsection rounds name pairs true (some text) = none
    else
      ∃ filler, iniPutsection rounds name pairs true (some text) = some (true, some
          (beforeSection name text ++ filler ++ sectionText name pairs ++ behindSection name text)) ∧
        if fromSection name text = [] then
          filler = lineTerm ∨ filler = [] ∧ text.getLast? = some '\n'
        else filler = [] := by
  have whole := pieces_eq_split name text
  have earlier := beforeSection_earlier name text
  cases found : fromSection name text with
  | nil =>
      obtain ⟨before, behind⟩ := beforeSection_absent found
      rw [found, List.append_nil] at whole
      obtain ⟨done, filler, replaced, written, last⟩ := IniCopy.replaceSection_absent pairs
        plain named enough (by rw [whole]; exact earlier)
      have stays : ¬(pairs ≠ [] ∧ endsIndented name text = true) := by
        rw [endsIndented, found]
        simp
      rw [if_neg stays, before, behind]
      refine ⟨filler, ?_, by rwa [if_pos rfl]⟩
      rw [List.append_nil, ← written]
      exact congrArg (Option.map _) replaced
  | cons header after =>
      rw [found] at whole
      have replaced := replaceSection_found plain plainName plainPairs named enough whole earlier
        (fromSection_head found)
      have behind : behindSection name text =
          (after.dropWhile fun line => !opensSection line).flatten := by
        rw [behindSection, found, List.tail_cons]
      have indented : endsIndented name text = true ↔ after = [] ∧ 0 < lineStart header := by
        rw [endsIndented, found]
        cases after <;> simp
      by_cases hangs : pairs ≠ [] ∧ after = [] ∧ 0 < lineStart header
      · rw [if_pos hangs] at replaced
        rw [if_pos ⟨hangs.1, indented.mpr hangs.2⟩]
        exact congrArg (Option.map _) replaced
      · rw [if_neg hangs] at replaced
        rw [if_neg fun both => hangs ⟨both.1, indented.mp both.2⟩, behind]
        obtain ⟨done, replaced, written⟩ := replaced
        refine ⟨[], ?_, by rw [if_neg (List.cons_ne_nil _ _)]⟩
        rw [List.append_nil, beforeSection, ← written]
        exact congrArg (Option.map _) replaced

/-- A heading behind a blank, alone in its file. -/
theorem iniPutsection_replaces_indented :
    iniPutsection (5 + bufferSize) ['v'] [(['k'], ['1'])] true (some " [v]\n".toList) = none := by
  have piece : Piece " [v]\n".toList [] := ⟨by decide, by decide⟩
  have read : pieces " [v]\n".toList = [" [v]\n".toList] := by
    have whole := piece.pieces
    rwa [List.append_nil, pieces_nil] at whole
  have plain : Plain " [v]\n".toList := by decide
  have plainName : Plain ['v'] := by decide
  have plainPairs : ∀ pair ∈ [(['k'], ['1'])], Plain pair.1 ∧ Plain pair.2 := by decide
  have enough : " [v]\n".toList.length + bufferSize ≤ 5 + bufferSize := by decide
  have replaced := iniPutsection_replaces plain plainName plainPairs (by decide) enough
  have indented : endsIndented ['v'] " [v]\n".toList = true := by
    rw [endsIndented, fromSection, read]
    decide
  rw [if_pos ⟨by decide, indented⟩] at replaced
  exact replaced

end

end HorizonOc.Sysmodule.MinIni
