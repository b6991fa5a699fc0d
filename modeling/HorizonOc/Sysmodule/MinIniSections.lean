import HorizonOc.Data.IniFile
import HorizonOc.Sysmodule.MinIniEntries

namespace HorizonOc.Sysmodule.MinIni

open HorizonOc.Data

/-- The pairs before the first heading, and the sections. -/
def gather : List BrowsedLine → List (String × String) × List IniSection
  | [] => ([], [])
  | .ignored :: rest => gather rest
  | .heading name :: rest => ([], ⟨.ofList name, (gather rest).1⟩ :: (gather rest).2)
  | .entry key value :: rest =>
      ((.ofList key, .ofList value) :: (gather rest).1, (gather rest).2)

/-- A line as it is read where the buffer has room for it. -/
def readLine (line : List Char) : BrowsedLine := browseLine 0 line

def readSections (text : List Char) : List IniSection :=
  let read := gather ((pieces text).map readLine)
  newSection "" read.1 ++ read.2

/-- How long lines may be for the buffer to hold one behind the name of its section. -/
def lineLimit : Nat := 250

/-- A line with its end. -/
def IsLine (line : List Char) : Prop :=
  ∃ body, line = body ++ lineTerm ∧ '\n' ∉ body ∧ body.length ≤ lineLimit

/-- What is behind the last end of a line. -/
structure IsTail (tail : List Char) : Prop where
  oneLine : '\n' ∉ tail
  short : tail.length ≤ lineLimit

/-- A line that opens a section starts with its bracket and closes it. -/
def headed (line : List Char) : Bool :=
  !opensSection line || lineStart line = 0 && (heading (skipleading line)).isSome

/-- What is read of a text whose lines are not too long. -/
inductive Lined : List (List Char) → Prop where
  | nil : Lined []
  | tail {tail : List Char} (filled : tail ≠ []) (isTail : IsTail tail) : Lined [tail]
  | line {line : List Char} {rest : List (List Char)} (isLine : IsLine line) (lined : Lined rest) :
      Lined (line :: rest)

/-- A text whose lines are read as a whole wherever they are. -/
structure FitText (text : List Char) : Prop where
  plain : Plain text
  lined : Lined (pieces text)
  headings : ∀ line ∈ pieces text, headed line = true

section

variable {line text rest name key value : List Char} {lenSec : Nat}

theorem withoutComment_leads (isstring : Bool) (text : List Char) :
    withoutComment isstring text <+: text := by
  fun_induction withoutComment with
  | case1 => exact List.prefix_refl _
  | case2 => exact List.nil_prefix
  | case3 => exact List.prefix_refl _
  | case4 => exact List.nil_prefix
  | case5 isstring char next rest other escape ih =>
      exact (List.prefix_cons_inj char).mpr ((List.prefix_cons_inj next).mpr ih)
  | case6 isstring char next rest other escape ih => exact (List.prefix_cons_inj char).mpr ih

theorem cleanstring_length_le (text : List Char) : (cleanstring text).1.length ≤ text.length := by
  have shorter : (striptrailing (withoutComment false text)).length ≤ text.length :=
    Nat.le_trans (striptrailing_leads _).length_le (withoutComment_leads _ _).length_le
  rw [cleanstring]
  split
  · simp only [List.length_dropLast, List.length_drop]
    omega
  · exact shorter

theorem cleanstring_option (text : List Char) : (cleanstring text).2 ≠ .enquote := by
  rw [cleanstring]
  split <;> simp

/-- More room than there is text makes no difference. -/
theorem dequoted_room {room : Nat} (fits : text.length ≤ room) (more : Nat) :
    dequoted (room + more) text = dequoted room text := by
  fun_induction dequoted room text with
  | case1 text =>
      rw [List.eq_nil_of_length_eq_zero (Nat.le_zero.mp fits)]
      cases more <;> rfl
  | case2 room empty => cases room + more <;> rfl
  | case3 room char =>
      rw [Nat.succ_add]
      rfl
  | case4 room char next rest escaped ih =>
      simp only [List.length_cons] at fits
      rw [Nat.succ_add, dequoted, if_pos escaped, ih (by omega)]
  | case5 room char next rest plain ih =>
      simp only [List.length_cons] at fits
      rw [Nat.succ_add, dequoted, if_neg plain, ih (by simp only [List.length_cons]; omega)]

theorem iniStrncpy_room {first second : Nat} {option : QuoteOption} (kept : option ≠ .enquote)
    (one : text.length < first) (other : text.length < second) :
    iniStrncpy text first option = iniStrncpy text second option := by
  cases option with
  | none => rw [iniStrncpy_none one, iniStrncpy_none other]
  | enquote => contradiction
  | dequote =>
      have grown (maxlen : Nat) (room : text.length < maxlen) :
          iniStrncpy text maxlen .dequote = dequoted text.length text := by
        change dequoted (maxlen - 1) text = _
        rw [← dequoted_room (Nat.le_refl text.length) (maxlen - 1 - text.length)]
        congr 1
        omega
      rw [grown first one, grown second other]

theorem heading_length_lt {found : List Char} (is : heading text = some found) :
    found.length < text.length := by
  rw [heading] at is
  split at is
  · rename_i bracket
    obtain ⟨ep, last, rfl⟩ := Option.map_eq_some_iff.mp is
    obtain ⟨index, -, rfl⟩ := Option.map_eq_some_iff.mp last
    obtain ⟨rest, rfl⟩ := List.head?_eq_some_iff.mp bracket
    rw [List.length_drop, List.length_take, List.length_cons]
    omega
  · contradiction

theorem keyEnd_lt {ep : Nat} (is : keyEnd text = some ep) : ep < text.length := by
  have inside {char : Char} (found : text.idxOf? char = some ep) : ep < text.length := by
    obtain ⟨lt, -⟩ := List.idxOf?_eq_some_iff.mp found
    exact lt
  rw [keyEnd] at is
  split at is
  · rename_i equal
    rw [← Option.some.inj is]
    obtain ⟨lt, -⟩ := List.idxOf?_eq_some_iff.mp equal
    exact lt
  · exact inside is

/-- A line that fits behind its section is read as it is anywhere. -/
theorem browseLine_room (fits : lenSec + line.length < bufferSize) :
    browseLine lenSec line = readLine line := by
  have shorter : (skipleading line).length ≤ line.length := (List.dropWhile_sublist _).length_le
  rw [readLine, browseLine, browseLine]
  simp only
  split
  · rfl
  · cases heading (skipleading line) with
    | some name => rfl
    | none =>
        cases found : keyEnd (skipleading line) with
        | none => rfl
        | some ep =>
            have inside := keyEnd_lt found
            have key : (striptrailing ((skipleading line).take ep)).length ≤ ep :=
              Nat.le_trans (striptrailing_leads _).length_le (List.length_take_le _ _)
            have value : (cleanstring (skipleading ((skipleading line).drop (ep + 1)))).1.length ≤
                (skipleading line).length - (ep + 1) := by
              refine Nat.le_trans (cleanstring_length_le _) ?_
              refine Nat.le_trans (List.dropWhile_sublist _).length_le ?_
              rw [List.length_drop]
            simp only
            have keyRoom : (striptrailing ((skipleading line).take ep)).length < bufferSize - lenSec := by
              omega
            have allRoom : (striptrailing ((skipleading line).take ep)).length < bufferSize - 0 := by
              omega
            rw [iniStrncpy_none keyRoom, iniStrncpy_none allRoom]
            exact congrArg (BrowsedLine.entry _)
              (iniStrncpy_room (cleanstring_option _) (by omega) (by omega))

theorem strrchr_snoc_newline {char : Char} (other : char ≠ '\n') (text : List Char) :
    strrchr (text ++ lineTerm) char = strrchr text char := by
  rw [strrchr, strrchr, lineTerm, List.reverse_append, List.reverse_singleton, List.singleton_append,
    List.idxOf?_cons, if_neg (by simpa using other.symm), Option.map_map]
  congr 1
  funext index
  simp only [Function.comp_apply, List.length_append, List.length_singleton]
  omega

theorem heading_newline (text : List Char) : heading (text ++ lineTerm) = heading text := by
  rw [heading, heading, strrchr_snoc_newline (by decide)]
  cases text with
  | nil => decide
  | cons first rest =>
      rw [List.cons_append, List.head?_cons, List.head?_cons]
      split
      · cases found : strrchr (first :: rest) ']' with
        | none => rfl
        | some ep =>
            have inside : ep ≤ (first :: rest).length := by
              rw [strrchr] at found
              obtain ⟨index, -, rfl⟩ := Option.map_eq_some_iff.mp found
              omega
            rw [Option.map_some, Option.map_some, ← List.cons_append,
              List.take_append_of_le_length inside]
      · rfl

theorem idxOf?_newline {char : Char} (other : char ≠ '\n') (text : List Char) :
    (text ++ lineTerm).idxOf? char = text.idxOf? char := by
  induction text with
  | nil => simp [lineTerm, List.idxOf?_cons, other.symm]
  | cons first rest ih => rw [List.cons_append, List.idxOf?_cons, List.idxOf?_cons, ih]

theorem keyEnd_newline (text : List Char) : keyEnd (text ++ lineTerm) = keyEnd text := by
  rw [keyEnd, keyEnd, idxOf?_newline (by decide), idxOf?_newline (by decide)]

theorem withoutComment_newline (isstring : Bool) (text : List Char) :
    withoutComment isstring (text ++ lineTerm) = withoutComment isstring text ∨
      withoutComment isstring (text ++ lineTerm) = withoutComment isstring text ++ lineTerm := by
  fun_induction withoutComment isstring text with
  | case1 isstring => exact .inr (by cases isstring <;> rfl)
  | case2 isstring char comment => exact .inl (by simp [lineTerm, withoutComment, comment])
  | case3 isstring char plain =>
      refine .inr ?_
      have apart : escapes char '\n' = false := by simp [escapes, quoteMark]
      rw [lineTerm, List.singleton_append, withoutComment, if_neg plain, apart,
        if_neg Bool.false_ne_true]
      rfl
  | case4 isstring char next rest comment =>
      refine .inl ?_
      rw [List.cons_append, List.cons_append, withoutComment, if_pos comment]
  | case5 isstring char next rest other escape ih =>
      rw [List.cons_append, List.cons_append, withoutComment, if_neg other, if_pos escape]
      rcases ih with cut | kept
      · exact .inl (by rw [cut])
      · exact .inr (by rw [kept]; rfl)
  | case6 isstring char next rest other escape ih =>
      rw [List.cons_append, List.cons_append, withoutComment, if_neg other, if_neg escape]
      rcases ih with cut | kept
      · exact .inl (congrArg (char :: ·) cut)
      · exact .inr (congrArg (char :: ·) kept)

theorem cleanstring_newline (text : List Char) : cleanstring (text ++ lineTerm) = cleanstring text := by
  have same : striptrailing (withoutComment false (text ++ lineTerm)) =
      striptrailing (withoutComment false text) := by
    rcases withoutComment_newline false text with cut | kept
    · rw [cut]
    · rw [kept, striptrailing_newline]
  rw [cleanstring, cleanstring, same]

theorem skipleading_snoc (text : List Char) : skipleading (text ++ lineTerm) =
    if skipleading text = [] then [] else skipleading text ++ lineTerm := by
  rw [skipleading, List.dropWhile_append, ← skipleading]
  refine if_congr List.isEmpty_iff ?_ rfl
  decide

/-- The end of a line does not matter for what is read. -/
theorem readLine_newline (line : List Char) : readLine (line ++ lineTerm) = readLine line := by
  have cleaned (text : List Char) :
      cleanstring (skipleading (text ++ lineTerm)) = cleanstring (skipleading text) := by
    rw [skipleading_snoc]
    split
    · rename_i blank
      rw [blank]
    · exact cleanstring_newline _
  rw [readLine, readLine, browseLine, browseLine, skipleading_snoc]
  by_cases blank : skipleading line = []
  · rw [if_pos blank, blank]
  · obtain ⟨first, rest, sp⟩ := List.exists_cons_of_ne_nil blank
    rw [if_neg blank, heading_newline, keyEnd_newline]
    simp only
    have same : (skipleading line ++ lineTerm = [] ∨ (skipleading line ++ lineTerm).head? = some ';' ∨
        (skipleading line ++ lineTerm).head? = some '#') ↔
        skipleading line = [] ∨ (skipleading line).head? = some ';' ∨
          (skipleading line).head? = some '#' := by
      rw [sp]
      simp
    rw [if_congr same rfl rfl]
    split
    · rfl
    · cases heading (skipleading line) with
      | some name => rfl
      | none =>
          cases found : keyEnd (skipleading line) with
          | none => rfl
          | some ep =>
              have inside := keyEnd_lt found
              simp only
              rw [List.take_append_of_le_length (Nat.le_of_lt inside),
                List.drop_append_of_le_length inside, cleaned]

variable {tail : List Char} {lines : List (List Char)} {size : Nat}

theorem IsLine.length_le (isLine : IsLine line) : line.length ≤ lineLimit + 1 := by
  obtain ⟨body, rfl, -, short⟩ := isLine
  rw [List.length_append, lineTerm, List.length_singleton]
  omega

theorem IsLine.ne_nil (isLine : IsLine line) : line ≠ [] := by
  obtain ⟨body, rfl, -⟩ := isLine
  simp [lineTerm]

theorem fgets_line (isLine : IsLine line) (room : lineLimit + 1 < size) (rest : List Char) :
    fgets size (line ++ rest) = some (line, rest) := by
  have short := isLine.length_le
  have filled := isLine.ne_nil
  obtain ⟨body, rfl, oneLine, -⟩ := isLine
  have endless : ∀ char ∈ body, isNewline char = false := by
    intro char member
    exact decide_eq_false fun newline => oneLine (newline ▸ member)
  have first : chunk isNewline (size - 1) (body ++ lineTerm ++ rest) = body ++ lineTerm := by
    rw [chunk, List.append_assoc, lineTerm, List.singleton_append, firstLine_snoc endless rfl]
    exact List.take_of_length_le (by rw [lineTerm] at short; omega)
  rw [fgets_of_ne_nil (List.append_ne_nil_of_left_ne_nil filled _) (by omega), first, List.drop_left]

theorem fgets_tail (isTail : IsTail tail) (room : lineLimit + 1 < size) (filled : tail ≠ []) :
    fgets size tail = some (tail, []) := by
  have short := isTail.short
  have endless : ∀ char ∈ tail, isNewline char = false := by
    intro char member
    exact decide_eq_false fun newline => isTail.oneLine (newline ▸ member)
  have first : chunk isNewline (size - 1) tail = tail := by
    rw [chunk, firstLine_of_no_stop endless]
    exact List.take_of_length_le (by omega)
  rw [fgets_of_ne_nil filled (by omega), first, List.drop_length]

theorem pieces_line (isLine : IsLine line) (rest : List Char) :
    pieces (line ++ rest) = line :: pieces rest :=
  Piece.pieces ⟨isLine.ne_nil, fgets_line isLine (by decide) rest⟩

theorem Lined.pieces_flatten (lined : Lined lines) : pieces lines.flatten = lines := by
  induction lined with
  | nil => exact pieces_nil
  | @tail tail filled isTail =>
      have piece : Piece tail [] := ⟨filled, by
        rw [List.append_nil]
        exact fgets_tail isTail (by decide) filled⟩
      rw [List.flatten_cons, List.flatten_nil, piece.pieces, pieces_nil]
  | @line line rest isLine lined ih => rw [List.flatten_cons, pieces_line isLine, ih]

theorem Lined.length_le_flatten (lined : Lined lines) : lines.length ≤ lines.flatten.length := by
  induction lined with
  | nil => exact Nat.le_refl 0
  | @tail tail filled isTail =>
      rw [List.flatten_cons, List.flatten_nil, List.append_nil, List.length_singleton]
      exact List.length_pos_iff.mpr filled
  | @line line rest isLine lined ih =>
      have some := List.length_pos_iff.mpr isLine.ne_nil
      rw [List.length_cons, List.flatten_cons, List.length_append]
      omega

section

variable {α : Type} {callback : α → String → String → String → α} {rounds : Nat} {ahead behind : List Char}
  {items : List BrowsedLine}

/-- The sections from a place in one of them on. -/
def sectionsFrom (name : List Char) (items : List BrowsedLine) : List IniSection :=
  ⟨.ofList name, (gather items).1⟩ :: (gather items).2

/-- The callback of `ini_browse` for one that always goes on. -/
def goingOn (callback : α → String → String → String → α) (state : α) (name key value : List Char) :
    Bool × α :=
  (true, callback state (.ofList name) (.ofList key) (.ofList value))

theorem readLine_heading {found : List Char} (is : readLine line = .heading found) :
    ∃ name, heading (skipleading line) = some name ∧ found = iniStrncpy name bufferSize .none := by
  rw [readLine, browseLine] at is
  simp only at is
  split at is
  · contradiction
  · cases read : heading (skipleading line) with
    | some name =>
        rw [read] at is
        exact ⟨name, rfl, (BrowsedLine.heading.inj is).symm⟩
    | none =>
        rw [read] at is
        cases key : keyEnd (skipleading line) with
        | none => simp [key] at is
        | some ep => simp [key] at is

theorem readLine_heading_length {found : List Char} (is : readLine line = .heading found) :
    found.length < line.length := by
  obtain ⟨name, read, rfl⟩ := readLine_heading is
  have shorter := heading_length_lt read
  have inside : (skipleading line).length ≤ line.length := (List.dropWhile_sublist _).length_le
  have taken : (iniStrncpy name bufferSize .none).length ≤ name.length := List.length_take_le' _ _
  omega

theorem browseFrom_step (named : name.length ≤ lineLimit) (short : line.length ≤ lineLimit + 1)
    (got : fgets (bufferSize - (name.length + 1)) ahead = some (line, behind))
    (ih : ∀ (name : List Char) (state : α), name.length ≤ lineLimit →
      browseFrom (goingOn callback) rounds name behind state =
        some (browse callback state (sectionsFrom name items)))
    (state : α) :
    browseFrom (goingOn callback) (rounds + 1) name ahead state =
      some (browse callback state (sectionsFrom name (readLine line :: items))) := by
  have room : name.length + 1 + line.length < bufferSize := by
    rw [lineLimit] at named short
    rw [bufferSize]
    omega
  rw [browseFrom]
  simp only
  rw [got]
  simp only
  rw [browseLine_room room]
  cases read : readLine line with
  | ignored => exact ih name state named
  | heading found =>
      have shorter := readLine_heading_length read
      exact ih found state (by omega)
  | entry key value =>
      simp only [goingOn, if_true]
      exact ih name _ named

theorem browseFrom_lines (lined : Lined lines) (named : name.length ≤ lineLimit)
    (enough : lines.length < rounds) (state : α) :
    browseFrom (goingOn callback) rounds name lines.flatten state =
      some (browse callback state (sectionsFrom name (lines.map readLine))) := by
  have ended (left : Nat) (name : List Char) (state : α) :
      browseFrom (goingOn callback) (left + 1) name [] state =
        some (browse callback state (sectionsFrom name [])) := by
    rw [browseFrom]
    simp only
    rw [fgets_nil]
    rfl
  have room {name : List Char} (named : name.length ≤ lineLimit) :
      lineLimit + 1 < bufferSize - (name.length + 1) := by
    rw [lineLimit] at named ⊢
    rw [bufferSize]
    omega
  induction lined generalizing rounds name state with
  | nil =>
      obtain ⟨left, rfl⟩ := Nat.exists_eq_add_of_le' (show 1 ≤ rounds from enough)
      exact ended left name state
  | @tail tail filled isTail =>
      obtain ⟨left, rfl⟩ := Nat.exists_eq_add_of_le' (show 2 ≤ rounds from enough)
      have short := isTail.short
      rw [List.flatten_cons, List.flatten_nil, List.append_nil]
      refine browseFrom_step named (by omega) (fgets_tail isTail (room named) filled) ?_ state
      intro name state _
      exact ended left name state
  | @line line rest isLine lined ih =>
      obtain ⟨left, rfl⟩ := Nat.exists_eq_add_one_of_ne_zero (Nat.ne_of_gt (Nat.zero_lt_of_lt enough))
      rw [List.length_cons] at enough
      rw [List.flatten_cons, List.map_cons]
      refine browseFrom_step named isLine.length_le (fgets_line isLine (room named) _) ?_ state
      intro name state named
      exact ih named (by omega) state

/-- `ini_browse` calls back for the sections of a text that fits. -/
theorem iniBrowse_reads (fit : FitText text) (enough : text.length < rounds) (state : α) :
    iniBrowse rounds (goingOn callback) state (some text) =
      some (true, browse callback state (readSections text)) := by
  have counted := fit.lined.length_le_flatten
  rw [pieces_flatten] at counted
  have counted : (pieces text).length < rounds := by omega
  have read : browseFrom (goingOn callback) rounds [] (pieces text).flatten state = _ :=
    browseFrom_lines fit.lined (Nat.zero_le _) counted state
  have unnamed : browse callback state (sectionsFrom [] ((pieces text).map readLine)) =
      browse callback state (readSections text) := by
    rw [readSections, sectionsFrom, newSection]
    split
    · rename_i none
      rw [none]
      rfl
    · rfl
  rw [pieces_flatten, unnamed] at read
  rw [iniBrowse, read, Option.map_some]

end

end

end HorizonOc.Sysmodule.MinIni
