import HorizonOc.Sysmodule.MinIniReplace

namespace HorizonOc.Sysmodule.MinIni

open HorizonOc.Data

/-- A value between its quotes, where there is room for all of it. -/
def escaped (value : List Char) : List Char :=
  value.flatMap fun char => if char = quoteMark then [backslash, char] else [char]

/-- What is left of a value that is not between quotes. -/
def trimmed (value : List Char) : List Char := striptrailing (skipleading value)

/-- What a value reads back as: one between quotes keeps its blanks. -/
def readValue (value : List Char) : List Char :=
  if checkEnquote value = .enquote then value else trimmed value

/-- What is written behind the equal sign. -/
def storedValue (value : List Char) : List Char :=
  if checkEnquote value = .enquote then quoteMark :: escaped value ++ [quoteMark] else value

/-- A key that a line can begin with. -/
structure IsKey (key : List Char) : Prop where
  plain : Plain key
  oneLine : '\n' ∉ key
  unequal : '=' ∉ key
  starts : ∀ first, key.head? = some first →
    isBlank first = false ∧ startsComment first = false ∧ first ≠ '['
  ends : ∀ last, key.getLast? = some last → isBlank last = false

/-- There is room for the line behind `lenSec` bytes of the buffer of `ini_browse`. -/
def Fits (lenSec : Nat) (key value : List Char) : Prop :=
  lenSec + key.length + (storedValue value).length + 3 ≤ bufferSize

instance (lenSec : Nat) (key value : List Char) : Decidable (Fits lenSec key value) :=
  inferInstanceAs (Decidable (_ ≤ _))

section

variable {value key rest : List Char} {room lenSec : Nat} {char : Char}

@[simp] theorem escaped_nil : escaped [] = [] := rfl

theorem escaped_quote (rest : List Char) :
    escaped (quoteMark :: rest) = backslash :: quoteMark :: escaped rest := rfl

theorem escaped_other (other : char ≠ quoteMark) (rest : List Char) :
    escaped (char :: rest) = char :: escaped rest := by
  rw [escaped, List.flatMap_cons, if_neg other]
  rfl

/-- A quote is behind its own backslash. -/
theorem escaped_head_ne (value : List Char) : (escaped value).head? ≠ some quoteMark := by
  cases value with
  | nil => simp
  | cons char rest =>
      by_cases quote : char = quoteMark
      · rw [quote, escaped_quote, List.head?_cons]
        decide
      · rw [escaped_other quote]
        simpa using quote

theorem enquoted_other (other : char ≠ quoteMark) (room : Nat) (rest : List Char) :
    enquoted (room + 1) (char :: rest) = char :: enquoted room rest := by
  cases room <;> exact if_neg other

theorem enquoted_eq (fits : (escaped value).length ≤ room) : enquoted room value = escaped value := by
  induction value generalizing room with
  | nil => cases room <;> rfl
  | cons char rest ih =>
      by_cases quote : char = quoteMark
      · subst quote
        rw [escaped_quote, List.length_cons, List.length_cons] at fits
        obtain ⟨room, rfl⟩ := Nat.exists_eq_add_of_le' (Nat.le_trans (Nat.le_add_left 2 _) fits)
        rw [escaped_quote, enquoted, if_pos rfl]
        rw [ih (by omega)]
      · rw [escaped_other quote, List.length_cons] at fits
        obtain ⟨room, rfl⟩ := Nat.exists_eq_add_of_le' (Nat.le_trans (Nat.le_add_left 1 _) fits)
        rw [escaped_other quote, enquoted_other quote, ih (by omega)]

/-- Leaving out the escapes gives the value back, even where it has backslashes of its own. -/
theorem dequoted_escaped (fits : value.length ≤ room) : dequoted room (escaped value) = value := by
  induction value generalizing room with
  | nil => cases room <;> rfl
  | cons char rest ih =>
      rw [List.length_cons] at fits
      obtain ⟨room, rfl⟩ := Nat.exists_eq_add_of_le' (Nat.le_trans (Nat.le_add_left 1 _) fits)
      by_cases quote : char = quoteMark
      · subst quote
        rw [escaped_quote, dequoted, if_pos (by decide), ih (by omega)]
      · have head := escaped_head_ne rest
        have whole : dequoted room (escaped rest) = rest := ih (by omega)
        rw [escaped_other quote]
        cases behind : escaped rest with
        | nil =>
            rw [behind] at whole
            have ended : rest = [] := by
              rw [← whole]
              cases room <;> rfl
            rw [ended, dequoted]
        | cons next more =>
            rw [behind] at head whole
            have apart : escapes char next = false := by
              have other : next ≠ quoteMark := fun same => head (same ▸ rfl)
              simp [escapes, other]
            rw [dequoted, apart, if_neg Bool.false_ne_true, whole]

/-- Nothing between the quotes is taken for a comment. -/
theorem withoutComment_escaped (value : List Char) :
    withoutComment true (escaped value ++ quoteMark :: lineTerm) =
      escaped value ++ quoteMark :: lineTerm := by
  induction value with
  | nil => decide
  | cons char rest ih =>
      by_cases quote : char = quoteMark
      · subst quote
        rw [escaped_quote, List.cons_append, List.cons_append, withoutComment,
          if_neg (by decide), if_pos (by decide), ih]
      · rw [escaped_other quote, List.cons_append]
        have head := escaped_head_ne rest
        cases behind : escaped rest with
        | nil =>
            rw [List.nil_append, withoutComment, if_neg (by simp)]
            by_cases escape : escapes char quoteMark = true
            · rw [if_pos escape]
              rfl
            · rw [if_neg escape, decide_eq_false quote]
              rfl
        | cons next more =>
            rw [behind] at head ih
            have apart : escapes char next = false := by
              have other : next ≠ quoteMark := fun same => head (same ▸ rfl)
              simp [escapes, other]
            rw [List.cons_append] at ih ⊢
            rw [withoutComment, if_neg (by simp), apart, if_neg Bool.false_ne_true,
              decide_eq_false quote, Bool.bne_false, ih]

theorem withoutComment_plain (plain : ∀ char ∈ value, char ≠ quoteMark ∧ startsComment char = false) :
    withoutComment false value = value := by
  induction value with
  | nil => rfl
  | cons char rest ih =>
      obtain ⟨⟨quote, comment⟩, others⟩ := List.forall_mem_cons.mp plain
      cases rest with
      | nil => rw [withoutComment, comment, Bool.false_and, if_neg Bool.false_ne_true]
      | cons next more =>
          have apart : escapes char next = false := by
            simp [escapes, (others next List.mem_cons_self).1]
          rw [withoutComment, comment, Bool.false_and, if_neg Bool.false_ne_true, apart,
            if_neg Bool.false_ne_true, decide_eq_false quote, Bool.bne_false, ih others]

theorem striptrailing_leads (text : List Char) : striptrailing text <+: text :=
  List.rdropWhile_prefix isBlank text

theorem striptrailing_newline (text : List Char) :
    striptrailing (text ++ lineTerm) = striptrailing text := by
  rw [striptrailing, lineTerm, List.rdropWhile_concat_pos isBlank text '\n' (by decide), striptrailing]

theorem striptrailing_ends (ends : ∀ last, rest.getLast? = some last → isBlank last = false) :
    striptrailing rest = rest := by
  rcases List.eq_nil_or_concat rest with rfl | ⟨before, last, rfl⟩
  · rfl
  · rw [List.concat_eq_append] at ends ⊢
    have visible : ¬isBlank last = true := by
      rw [ends last (by simp)]
      exact Bool.false_ne_true
    rw [striptrailing, List.rdropWhile_concat_neg isBlank before last visible]

theorem skipleading_starts (starts : ∀ first, rest.head? = some first → isBlank first = false) :
    skipleading rest = rest := by
  cases rest with
  | nil => rfl
  | cons first rest =>
      rw [skipleading, List.dropWhile_cons, starts first rfl]
      rfl

theorem skipleading_newline (text : List Char) :
    striptrailing (skipleading (text ++ lineTerm)) = trimmed text := by
  rw [skipleading, List.dropWhile_append, trimmed, skipleading]
  split
  · rename_i blank
    rw [List.isEmpty_iff.mp blank]
    decide
  · exact striptrailing_newline _

theorem cleanstring_enquoted (value : List Char) :
    cleanstring (quoteMark :: escaped value ++ quoteMark :: lineTerm) = (escaped value, .dequote) := by
  have opening : withoutComment false (quoteMark :: (escaped value ++ quoteMark :: lineTerm)) =
      quoteMark :: (escaped value ++ quoteMark :: lineTerm) := by
    have inside := withoutComment_escaped value
    have head := escaped_head_ne value
    cases behind : escaped value with
    | nil => decide
    | cons next more =>
        rw [behind] at inside head
        have apart : escapes quoteMark next = false := by
          have other : next ≠ quoteMark := fun same => head (same ▸ rfl)
          simp [escapes, other]
        rw [List.cons_append] at inside ⊢
        rw [withoutComment, if_neg (by decide), apart, if_neg Bool.false_ne_true, decide_eq_true rfl]
        exact congrArg (quoteMark :: ·) inside
  have stripped : striptrailing (quoteMark :: (escaped value ++ quoteMark :: lineTerm)) =
      quoteMark :: (escaped value ++ [quoteMark]) := by
    have split : quoteMark :: (escaped value ++ quoteMark :: lineTerm) =
        (quoteMark :: (escaped value ++ [quoteMark])) ++ lineTerm := by simp
    rw [split, striptrailing_newline]
    refine striptrailing_ends fun last found => ?_
    rw [List.getLast?_cons, List.getLast?_append_of_ne_nil _ (List.cons_ne_nil _ _)] at found
    rw [← Option.some.inj found]
    decide
  rw [cleanstring, List.cons_append, opening, stripped]
  have last : (quoteMark :: (escaped value ++ [quoteMark])).getLast? = some quoteMark := by
    rw [List.getLast?_cons, List.getLast?_append_of_ne_nil _ (List.cons_ne_nil _ _)]
    rfl
  rw [if_pos ⟨rfl, last⟩, List.drop_one, List.tail_cons, List.dropLast_concat]

theorem cleanstring_plain (plain : ∀ char ∈ value, char ≠ quoteMark ∧ startsComment char = false) :
    cleanstring (skipleading (value ++ lineTerm)) = (trimmed value, .none) := by
  have all : ∀ char ∈ skipleading (value ++ lineTerm),
      char ≠ quoteMark ∧ startsComment char = false := by
    intro char member
    rcases List.mem_append.mp ((List.dropWhile_sublist _).subset member) with inside | ending
    · exact plain char inside
    · rw [List.mem_singleton.mp ending]
      decide
  have unquoted : ¬((trimmed value).head? = some quoteMark ∧
      (trimmed value).getLast? = some quoteMark) := by
    rintro ⟨head, -⟩
    have member := List.mem_of_mem_head? (Option.mem_def.mpr head)
    rw [← skipleading_newline] at member
    exact (all quoteMark ((striptrailing_leads _).subset member)).1 rfl
  rw [cleanstring, withoutComment_plain all, skipleading_newline]
  exact if_neg unquoted

theorem idxOf?_behind (absent : char ∉ rest) (more : List Char) :
    (rest ++ char :: more).idxOf? char = some rest.length := by
  induction rest with
  | nil => simp [List.idxOf?_cons]
  | cons first rest ih =>
      obtain ⟨other, later⟩ := not_or.mp (List.mem_cons.not.mp absent)
      rw [List.cons_append, List.idxOf?_cons, ih later]
      simp [Ne.symm other]

theorem length_le_escaped (value : List Char) : value.length ≤ (escaped value).length := by
  induction value with
  | nil => exact Nat.le_refl 0
  | cons char rest ih =>
      by_cases quote : char = quoteMark
      · rw [quote, escaped_quote, List.length_cons, List.length_cons, List.length_cons]
        omega
      · rw [escaped_other quote, List.length_cons, List.length_cons]
        omega

theorem iniStrncpy_none {maxlen : Nat} (fits : rest.length < maxlen) :
    iniStrncpy rest maxlen .none = rest := by
  change rest.take (maxlen - 1) = rest
  exact List.take_of_length_le (by omega)

theorem iniStrncpy_enquote {maxlen : Nat} (fits : (escaped value).length + 3 ≤ maxlen) :
    iniStrncpy value maxlen .enquote = quoteMark :: escaped value ++ [quoteMark] := by
  rw [iniStrncpy, if_neg fun narrow => by omega]
  change quoteMark :: enquoted (maxlen - 3) value ++ [quoteMark] = _
  rw [enquoted_eq (by omega)]

theorem iniStrncpy_dequote {maxlen : Nat} (fits : value.length < maxlen) :
    iniStrncpy (escaped value) maxlen .dequote = value := by
  change dequoted (maxlen - 1) (escaped value) = value
  exact dequoted_escaped (by omega)

theorem checkEnquote_cases (value : List Char) : checkEnquote value = .enquote ∨
    checkEnquote value = .none ∧ ∀ char ∈ value, char ≠ quoteMark ∧ startsComment char = false := by
  rw [checkEnquote]
  split
  · exact .inl rfl
  · rename_i unquoted
    refine .inr ⟨rfl, fun char member => ?_⟩
    have plain : ¬(decide (char = quoteMark) || startsComment char) = true := fun bad =>
      unquoted (.inl (List.any_eq_true.mpr ⟨char, member, bad⟩))
    simpa using plain

theorem trimmed_length_le (value : List Char) : (trimmed value).length ≤ value.length :=
  Nat.le_trans (striptrailing_leads _).length_le (List.dropWhile_sublist _).length_le

theorem storedValue_length_le (value : List Char) :
    (storedValue value).length ≤ (escaped value).length + 2 := by
  have longer := length_le_escaped value
  rw [storedValue]
  split
  · simp
  · omega

theorem storedValue_quoted (quoted : checkEnquote value = .enquote) :
    (storedValue value).length = (escaped value).length + 2 := by
  rw [storedValue, if_pos quoted]
  simp

theorem storedValue_unquoted (unquoted : checkEnquote value = .none) :
    storedValue value = value := by
  rw [storedValue, if_neg (by rw [unquoted]; decide)]

theorem length_le_storedValue (value : List Char) : value.length ≤ (storedValue value).length := by
  rcases checkEnquote_cases value with quoted | ⟨unquoted, -⟩
  · have longer := length_le_escaped value
    rw [storedValue_quoted quoted]
    omega
  · rw [storedValue_unquoted unquoted]

theorem keyLine_eq (fits : Fits lenSec key value) (terminated : 0 < lenSec) :
    keyLine key value = key ++ '=' :: (storedValue value ++ lineTerm) := by
  rw [Fits, bufferSize] at fits
  have stored : iniStrncpy key (bufferSize - 3) .none = key :=
    iniStrncpy_none (by rw [bufferSize]; omega)
  rw [keyLine, stored]
  rcases checkEnquote_cases value with quoted | ⟨unquoted, -⟩
  · rw [storedValue_quoted quoted] at fits
    rw [storedValue, quoted, if_pos rfl, iniStrncpy_enquote (by rw [bufferSize]; omega)]
    simp
  · rw [storedValue_unquoted unquoted] at fits ⊢
    rw [unquoted, iniStrncpy_none (by rw [bufferSize]; omega)]
    simp

/-- What `ini_browse` makes of the text behind the equal sign. -/
theorem storedValue_read {maxlen : Nat} (room : value.length < maxlen) :
    let cleaned := cleanstring (skipleading (storedValue value ++ lineTerm))
    iniStrncpy cleaned.1 maxlen cleaned.2 = readValue value := by
  rw [storedValue, readValue]
  rcases checkEnquote_cases value with quoted | ⟨unquoted, plain⟩
  · have starts : skipleading (quoteMark :: escaped value ++ [quoteMark] ++ lineTerm) =
        quoteMark :: escaped value ++ quoteMark :: lineTerm := by
      rw [skipleading_starts (by simp [isBlank, quoteMark])]
      simp
    rw [if_pos quoted, if_pos quoted, starts, cleanstring_enquoted]
    exact iniStrncpy_dequote room
  · rw [if_neg (by rw [unquoted]; decide), if_neg (by rw [unquoted]; decide), cleanstring_plain plain]
    exact iniStrncpy_none (Nat.lt_of_le_of_lt (trimmed_length_le value) room)

theorem heading_other (other : ∀ first, rest.head? = some first → first ≠ '[') : heading rest = none := by
  rw [heading, if_neg]
  intro bracket
  exact other '[' bracket rfl

/-- The line that is written for an entry is read back as the entry. -/
theorem browseLine_keyLine (isKey : IsKey key) (fits : Fits lenSec key value) (terminated : 0 < lenSec) :
    browseLine lenSec (keyLine key value) = .entry key (readValue value) := by
  have longer := length_le_storedValue value
  rw [keyLine_eq fits terminated]
  rw [Fits] at fits
  have first : ∀ first, (key ++ '=' :: (storedValue value ++ lineTerm)).head? = some first →
      isBlank first = false ∧ startsComment first = false ∧ first ≠ '[' := by
    intro first found
    cases key with
    | nil =>
        rw [← Option.some.inj found]
        decide
    | cons char rest => exact isKey.starts first found
  have starts := skipleading_starts fun char found => (first char found).1
  have ignored : ¬(key ++ '=' :: (storedValue value ++ lineTerm) = [] ∨
      (key ++ '=' :: (storedValue value ++ lineTerm)).head? = some ';' ∨
      (key ++ '=' :: (storedValue value ++ lineTerm)).head? = some '#') := by
    rintro (empty | comment | comment)
    · simp at empty
    · exact absurd (first ';' comment).2.1 (by decide)
    · exact absurd (first '#' comment).2.1 (by decide)
  rw [browseLine, starts]
  simp only
  rw [if_neg ignored, heading_other fun char found => (first char found).2.2, keyEnd,
    idxOf?_behind isKey.unequal]
  simp only
  rw [List.take_left, striptrailing_ends isKey.ends, iniStrncpy_none (by omega), ← List.drop_drop,
    List.drop_left, List.drop_one, List.tail_cons]
  rw [storedValue_read (by omega)]

/-- A value with a quote, a comment sign and a backslash at its end. -/
theorem browseLine_keyLine_quoted :
    browseLine 7 (keyLine ['k'] "a\";\\".toList) = .entry ['k'] "a\";\\".toList := by
  refine browseLine_keyLine ⟨by decide, by decide, by decide, ?_, ?_⟩ (by decide) (by decide)
  · intro first found
    rw [← Option.some.inj found]
    decide
  · intro last found
    rw [← Option.some.inj found]
    decide

end

end HorizonOc.Sysmodule.MinIni
