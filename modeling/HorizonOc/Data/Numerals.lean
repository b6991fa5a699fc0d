import Mathlib.Algebra.Group.Nat.Defs
import Mathlib.Data.List.Induction
import Mathlib.Tactic.SplitIfs
import Mathlib.Tactic.Tauto
import Mathlib.Tactic.TypeStar

namespace HorizonOc.Data

/-- The value of `0` to `9`, and of a letter in either case. -/
def digitValue (digit : Char) : Option Nat :=
  if 48 ≤ digit.toNat ∧ digit.toNat ≤ 57 then some (digit.toNat - 48)
  else if 97 ≤ digit.toNat ∧ digit.toNat ≤ 122 then some (digit.toNat - 87)
  else if 65 ≤ digit.toNat ∧ digit.toNat ≤ 90 then some (digit.toNat - 55)
  else none

/-- The number that the leading digits spell, behind digits that spelled `before`. -/
def readDigits (base before : Nat) : List Char → Nat
  | [] => before
  | digit :: rest =>
      match digitValue digit with
      | some value => if value < base then readDigits base (base * before + value) rest else before
      | none => before

/-- The base of a numeral and its digits: `0x` and a leading `0` count where no base is given. -/
def numeralBase (base : Nat) (text : List Char) : Nat × List Char :=
  match text with
  | '0' :: mark :: rest =>
      if (base = 0 ∨ base = 16) ∧ (mark = 'x' ∨ mark = 'X') then (16, rest)
      else (if base = 0 then 8 else base, text)
  | ['0'] => (if base = 0 then 8 else base, text)
  | _ => (if base = 0 then 10 else base, text)

def readNumeral (base : Nat) (text : List Char) : Nat :=
  readDigits (numeralBase base text).1 0 (numeralBase base text).2

def isSpace (char : Char) : Bool := char = ' ' || (9 ≤ char.toNat && char.toNat ≤ 13)

def ulongMax : Nat := 2 ^ 64 - 1

/-- `strtoul` with an `unsigned long` of 64 bits. -/
def strtoul (base : Nat) (text : List Char) : Nat :=
  match text.dropWhile isSpace with
  | '-' :: rest =>
      let value := readNumeral base rest
      if ulongMax < value then ulongMax else (2 ^ 64 - value) % 2 ^ 64
  | '+' :: rest => min (readNumeral base rest) ulongMax
  | rest => min (readNumeral base rest) ulongMax

theorem strtoul_lt (base : Nat) (text : List Char) : strtoul base text < 2 ^ 64 := by
  unfold strtoul ulongMax
  split
  · dsimp only
    split <;> omega
  · omega
  · omega

/-- Digits of a fixed number, the most significant first, in upper case. -/
def paddedDigits (base : Nat) : Nat → Nat → List Char
  | 0, _ => []
  | width + 1, number =>
      paddedDigits base width (number / base) ++ [(number % base).digitChar.toUpper]

/-- Every character is a digit of the base. -/
def AllDigits (base : Nat) (text : List Char) : Prop :=
  ∀ char ∈ text, ∃ value, digitValue char = some value ∧ value < base

section

variable {base : Nat} {text rest : List Char}

theorem digitValue_digitChar : ∀ value < 16, digitValue value.digitChar = some value := by
  decide

theorem digitValue_digitChar_toUpper :
    ∀ value < 16, digitValue value.digitChar.toUpper = some value := by
  decide

theorem AllDigits.append (first : AllDigits base text) (second : AllDigits base rest) :
    AllDigits base (text ++ rest) := by
  intro char member
  rcases List.mem_append.mp member with member | member
  · exact first char member
  · exact second char member

theorem readDigits_append (digits : AllDigits base text) (before : Nat) :
    readDigits base before (text ++ rest) =
      readDigits base (readDigits base before text) rest := by
  induction text generalizing before with
  | nil => rfl
  | cons digit text ih =>
      obtain ⟨value, read, bound⟩ := digits digit List.mem_cons_self
      simp only [List.cons_append, readDigits, read, if_pos bound]
      exact ih (fun char member => digits char (List.mem_cons_of_mem digit member)) _

theorem allDigits_digit {char : Char} {value : Nat} (read : digitValue char = some value)
    (bound : value < base) : AllDigits base [char] := by
  intro other member
  rw [List.mem_singleton.mp member]
  exact ⟨value, read, bound⟩

theorem readDigits_snoc (digits : AllDigits base text) {char : Char} {value : Nat}
    (read : digitValue char = some value) (bound : value < base) :
    readDigits base 0 (text ++ [char]) = base * readDigits base 0 text + value := by
  rw [readDigits_append digits, readDigits, read]
  simp [bound, readDigits]

theorem toDigits_reads (lower : 1 < base) (upper : base ≤ 16) (number : Nat) :
    AllDigits base (Nat.toDigits base number) ∧
      readDigits base 0 (Nat.toDigits base number) = number := by
  induction number using Nat.strongRecOn with
  | ind number ih =>
      by_cases small : number < base
      · have read := digitValue_digitChar number (by omega)
        rw [Nat.toDigits_of_lt_base small]
        exact ⟨allDigits_digit read small, by simp [readDigits, read, small]⟩
      · have smaller : number / base < number := Nat.div_lt_self (by omega) lower
        have bound : number % base < base := Nat.mod_lt _ (by omega)
        have read := digitValue_digitChar (number % base) (by omega)
        obtain ⟨digits, reads⟩ := ih (number / base) smaller
        rw [Nat.toDigits_of_base_le lower (by omega)]
        refine ⟨digits.append (allDigits_digit read bound), ?_⟩
        rw [readDigits_snoc digits read bound, reads, Nat.div_add_mod]

theorem paddedDigits_reads (lower : 1 < base) (upper : base ≤ 16) (width number : Nat)
    (fits : number < base ^ width) :
    AllDigits base (paddedDigits base width number) ∧
      readDigits base 0 (paddedDigits base width number) = number := by
  induction width generalizing number with
  | zero =>
      have zero : number = 0 := by simpa using fits
      exact ⟨fun char member => by simp [paddedDigits] at member, zero.symm⟩
  | succ width ih =>
      have quotient : number / base < base ^ width := by
        rw [Nat.div_lt_iff_lt_mul (by omega)]
        exact fits
      have bound : number % base < base := Nat.mod_lt _ (by omega)
      have read := digitValue_digitChar_toUpper (number % base) (by omega)
      obtain ⟨digits, reads⟩ := ih (number / base) quotient
      rw [paddedDigits]
      refine ⟨digits.append (allDigits_digit read bound), ?_⟩
      rw [readDigits_snoc digits read bound, reads, Nat.div_add_mod]

theorem paddedDigits_length (width number : Nat) :
    (paddedDigits base width number).length = width := by
  induction width generalizing number with
  | zero => rfl
  | succ width ih => simp [paddedDigits, ih]

theorem digitValue_bounds {char : Char} {value : Nat} (read : digitValue char = some value) :
    48 ≤ char.toNat := by
  unfold digitValue at read
  split_ifs at read <;> omega

theorem toNat_toUpper (char : Char) :
    char.toUpper.toNat =
      if 97 ≤ char.toNat ∧ char.toNat ≤ 122 then char.toNat - 32 else char.toNat := by
  have lower : ('a'.val ≤ char.val ∧ char.val ≤ 'z'.val) ↔
      97 ≤ char.toNat ∧ char.toNat ≤ 122 := by
    simp [UInt32.le_iff_toNat_le]
  unfold Char.toUpper
  split
  · rename_i within
    have bounds := lower.mp within
    have shift : ('A'.val - 'a'.val).toNat = 2 ^ 32 - 32 := by decide
    rw [if_pos bounds]
    change (char.val + ('A'.val - 'a'.val)).toNat = char.val.toNat - 32
    have position : char.toNat = char.val.toNat := rfl
    rw [UInt32.toNat_add, shift]
    omega
  · rename_i without
    rw [if_neg fun bounds => without (lower.mpr bounds)]

theorem digitValue_toUpper (char : Char) : digitValue char.toUpper = digitValue char := by
  unfold digitValue
  rw [toNat_toUpper]
  by_cases lower : 97 ≤ char.toNat ∧ char.toNat ≤ 122
  · rw [if_pos lower, if_neg (by omega), if_neg (by omega), if_pos (by omega),
      if_neg (by omega), if_pos lower]
    exact congrArg some (by omega)
  · simp only [if_neg lower]

/-- Letters of either case spell the same number. -/
theorem readDigits_toUpper (base before : Nat) (text : List Char) :
    readDigits base before (text.map Char.toUpper) = readDigits base before text := by
  induction text generalizing before with
  | nil => rfl
  | cons digit rest ih =>
      rw [List.map_cons, readDigits, readDigits, digitValue_toUpper]
      cases digitValue digit with
      | none => rfl
      | some value => simp only [ih]

theorem allDigits_toUpper : AllDigits base (text.map Char.toUpper) ↔ AllDigits base text := by
  simp [AllDigits, digitValue_toUpper]

/-- A text of digits has neither a sign nor spaces in front. -/
theorem strtoul_of_digits (digits : AllDigits base text) (asked : Nat) :
    strtoul asked text = min (readNumeral asked text) ulongMax := by
  cases text with
  | nil => rfl
  | cons digit text =>
      obtain ⟨value, read, -⟩ := digits digit List.mem_cons_self
      have low := digitValue_bounds read
      have unspaced : isSpace digit = false := by
        have apart : digit ≠ ' ' := by
          rintro rfl
          exact absurd low (by decide)
        simp only [isSpace, apart, decide_false, Bool.false_or, Bool.and_eq_false_iff,
          decide_eq_false_iff_not]
        omega
      have minus : digit ≠ '-' := by
        rintro rfl
        exact absurd low (by decide)
      have plus : digit ≠ '+' := by
        rintro rfl
        exact absurd low (by decide)
      rw [strtoul, List.dropWhile_cons, unspaced]
      simp only [Bool.false_eq_true, if_false]
      split
      · rename_i same
        exact absurd (List.cons.inj same).1 minus
      · rename_i same
        exact absurd (List.cons.inj same).1 plus
      · rfl

theorem numeralBase_ten (text : List Char) : numeralBase 10 text = (10, text) := by
  unfold numeralBase
  split <;> simp

theorem numeralBase_sixteen (digits : AllDigits 16 text) : numeralBase 16 text = (16, text) := by
  unfold numeralBase
  split
  · rename_i mark rest
    have unmarked : ¬(mark = 'x' ∨ mark = 'X') := by
      obtain ⟨value, read, bound⟩ := digits mark (by simp)
      rintro (rfl | rfl) <;> simp [digitValue] at read <;> omega
    simp [unmarked]
  · rfl
  · rfl

theorem numeralBase_zero (unpadded : text.head? ≠ some '0') : numeralBase 0 text = (10, text) := by
  unfold numeralBase
  split
  · simp at unpadded
  · simp at unpadded
  · rfl

/-- A decimal numeral has no leading zero that would make it octal. -/
theorem toDigits_head {number : Nat} (positive : number ≠ 0) :
    (Nat.toDigits 10 number).head? ≠ some '0' := by
  induction number using Nat.strongRecOn with
  | ind number ih =>
      by_cases small : number < 10
      · rw [Nat.toDigits_of_lt_base small]
        have digits : ∀ digit < 10, digit ≠ 0 → ([digit.digitChar].head? ≠ some '0') := by decide
        exact digits number small positive
      · obtain ⟨first, rest, start⟩ : ∃ first rest, Nat.toDigits 10 (number / 10) = first :: rest :=
          List.exists_cons_of_ne_nil Nat.toDigits_ne_nil
        have higher := ih (number / 10) (by omega) (by omega)
        rw [start] at higher
        rw [Nat.toDigits_of_base_le (by decide) (by omega), start]
        exact higher

theorem strtoul_decimal {number : Nat} (fits : number < 2 ^ 64) (asked : Nat)
    (natural : asked = 0 ∨ asked = 10) : strtoul asked (Nat.toDigits 10 number) = number := by
  obtain ⟨digits, reads⟩ := toDigits_reads (by decide : 1 < 10) (by decide) number
  have bounded : min number ulongMax = number := by
    unfold ulongMax
    omega
  have numeral : readNumeral asked (Nat.toDigits 10 number) = number := by
    rcases natural with rfl | rfl
    · by_cases zero : number = 0
      · subst zero
        rfl
      · rw [readNumeral, numeralBase_zero (toDigits_head zero)]
        exact reads
    · rw [readNumeral, numeralBase_ten]
      exact reads
  rw [strtoul_of_digits digits, numeral, bounded]

/-- A padded numeral reads back as its number, however its letters are written. -/
theorem strtoul_paddedDigits {width number : Nat} (fits : number < 16 ^ width)
    (word : number < 2 ^ 64) (spelled : text.map Char.toUpper = paddedDigits 16 width number) :
    strtoul 16 text = number := by
  obtain ⟨digits, reads⟩ := paddedDigits_reads (by decide : 1 < 16) (by decide) width number fits
  rw [← spelled, allDigits_toUpper] at digits
  rw [← spelled, readDigits_toUpper] at reads
  have bounded : min number ulongMax = number := by
    unfold ulongMax
    omega
  rw [strtoul_of_digits digits, readNumeral, numeralBase_sixteen digits]
  exact (congrArg (min · ulongMax) reads).trans bounded

/-- The digits are in upper case already. -/
theorem paddedDigits_toUpper (width number : Nat) :
    (paddedDigits 16 width number).map Char.toUpper = paddedDigits 16 width number := by
  have upper : ∀ digit < 16, digit.digitChar.toUpper.toUpper = digit.digitChar.toUpper := by decide
  induction width generalizing number with
  | zero => rfl
  | succ width ih =>
      simp only [paddedDigits, List.map_append, List.map_cons, List.map_nil, ih,
        upper (number % 16) (Nat.mod_lt _ (by decide))]

end

def isDigit (base : Nat) (char : Char) : Bool := (digitValue char).any (· < base)

/-- What follows the leading spaces and the sign. -/
def unsignedText (text : List Char) : List Char :=
  match text.dropWhile isSpace with
  | '-' :: rest => rest
  | '+' :: rest => rest
  | rest => rest

/-- The digits behind the spaces, the sign and the mark of the base, up to the first other character. -/
def convertedDigits (base : Nat) (text : List Char) : List Char :=
  (numeralBase base (unsignedText text)).2.takeWhile
    (isDigit (numeralBase base (unsignedText text)).1)

section

variable {base : Nat} {text : List Char}

theorem isDigit_iff {char : Char} :
    isDigit base char = true ↔ ∃ value, digitValue char = some value ∧ value < base := by
  unfold isDigit
  cases digitValue char <;> simp

theorem allDigits_takeWhile (base : Nat) (text : List Char) :
    AllDigits base (text.takeWhile (isDigit base)) :=
  fun _ member => isDigit_iff.mp (List.all_eq_true.mp List.all_takeWhile _ member)

theorem readDigits_takeWhile (base before : Nat) (text : List Char) :
    readDigits base before (text.takeWhile (isDigit base)) = readDigits base before text := by
  induction text generalizing before with
  | nil => rfl
  | cons char rest ih =>
      cases read : digitValue char with
      | none => simp [isDigit, read, readDigits]
      | some value =>
          by_cases small : value < base
          · simp [isDigit, read, readDigits, small, ih]
          · simp [isDigit, read, readDigits, small]

theorem digitValue_eq_zero {char : Char} (read : digitValue char = some 0) : char = '0' := by
  unfold digitValue at read
  split_ifs at read with digit lower upper
  · have position : char.toNat = '0'.toNat := by
      have := Option.some.inj read
      change char.toNat = 48
      omega
    exact Char.toNat_inj.mp position
  · have := Option.some.inj read
    omega
  · have := Option.some.inj read
    omega

/-- Only zeros spell 0. -/
theorem readDigits_eq_zero_iff (positive : 0 < base) (digits : AllDigits base text) (before : Nat) :
    readDigits base before text = 0 ↔ before = 0 ∧ ∀ char ∈ text, char = '0' := by
  induction text generalizing before with
  | nil => simp [readDigits]
  | cons char rest ih =>
      obtain ⟨value, read, bound⟩ := digits char List.mem_cons_self
      rw [readDigits, read]
      simp only [if_pos bound, List.forall_mem_cons]
      rw [ih (fun other member => digits other (List.mem_cons_of_mem char member))]
      have zero : value = 0 ↔ char = '0' := by
        constructor
        · rintro rfl
          exact digitValue_eq_zero read
        · rintro rfl
          exact (Option.some.inj read).symm
      rw [← zero]
      simp only [Nat.add_eq_zero_iff, Nat.mul_eq_zero, Nat.pos_iff_ne_zero.mp positive, false_or]
      tauto

theorem readDigits_lt (digits : AllDigits base text) (before : Nat) :
    readDigits base before text < (before + 1) * base ^ text.length := by
  induction text generalizing before with
  | nil => simp [readDigits]
  | cons char rest ih =>
      obtain ⟨value, read, bound⟩ := digits char List.mem_cons_self
      rw [readDigits, read]
      simp only [if_pos bound]
      calc readDigits base (base * before + value) rest
          < (base * before + value + 1) * base ^ rest.length :=
            ih (fun other member => digits other (List.mem_cons_of_mem char member)) _
        _ ≤ (base * (before + 1)) * base ^ rest.length :=
            Nat.mul_le_mul_right _ (by rw [Nat.mul_succ]; omega)
        _ = (before + 1) * base ^ (char :: rest).length := by
            rw [List.length_cons, Nat.pow_succ, Nat.mul_comm base (before + 1), Nat.mul_assoc,
              Nat.mul_comm base]

theorem numeralBase_sixteen_fst (text : List Char) : (numeralBase 16 text).1 = 16 := by
  unfold numeralBase
  split
  · split <;> rfl
  · rfl
  · rfl

theorem numeralBase_length (base : Nat) (text : List Char) :
    (numeralBase base text).2.length ≤ text.length := by
  unfold numeralBase
  split
  · split
    · exact Nat.le_trans (Nat.le_succ _) (Nat.le_succ _)
    · exact Nat.le_refl _
  · exact Nat.le_refl _
  · exact Nat.le_refl _

theorem unsignedText_length (text : List Char) : (unsignedText text).length ≤ text.length := by
  have dropped := (List.dropWhile_suffix (l := text) isSpace).length_le
  unfold unsignedText
  split
  · rename_i rest same
    rw [same, List.length_cons] at dropped
    omega
  · rename_i rest same
    rw [same, List.length_cons] at dropped
    omega
  · exact dropped

theorem readNumeral_convertedDigits (base : Nat) (text : List Char) :
    readNumeral base (unsignedText text) =
      readDigits (numeralBase base (unsignedText text)).1 0 (convertedDigits base text) := by
  rw [readNumeral, convertedDigits, readDigits_takeWhile]

/-- The number of the digits, or its negation. -/
theorem strtoul_unsigned (base : Nat) (text : List Char) :
    strtoul base text = min (readNumeral base (unsignedText text)) ulongMax ∨
      strtoul base text =
        if ulongMax < readNumeral base (unsignedText text) then ulongMax
        else (2 ^ 64 - readNumeral base (unsignedText text)) % 2 ^ 64 := by
  unfold strtoul unsignedText
  cases text.dropWhile isSpace with
  | nil => exact .inl rfl
  | cons first rest =>
      by_cases minus : first = '-'
      · subst minus
        exact .inr rfl
      · by_cases plus : first = '+'
        · subst plus
          exact .inl rfl
        · left
          split
          · exact absurd (List.cons.inj ‹_›).1 minus
          · exact absurd (List.cons.inj ‹_›).1 plus
          · rfl

theorem strtoul_eq_zero_iff (fits : readNumeral base (unsignedText text) < 2 ^ 64) :
    strtoul base text = 0 ↔ readNumeral base (unsignedText text) = 0 := by
  rcases strtoul_unsigned base text with plain | negated
  · rw [plain, ulongMax]
    omega
  · rw [negated, ulongMax, if_neg (by omega)]
    omega

/-- Sixteen digits fit the machine's word, so only zeros give 0. -/
theorem strtoul_sixteen_eq_zero_iff (short : text.length ≤ 16) :
    strtoul 16 text = 0 ↔ ∀ char ∈ convertedDigits 16 text, char = '0' := by
  have digits := allDigits_takeWhile 16 (numeralBase 16 (unsignedText text)).2
  have converted : convertedDigits 16 text =
      (numeralBase 16 (unsignedText text)).2.takeWhile (isDigit 16) := by
    rw [convertedDigits, numeralBase_sixteen_fst]
  have value : readNumeral 16 (unsignedText text) = readDigits 16 0 (convertedDigits 16 text) := by
    rw [readNumeral_convertedDigits, numeralBase_sixteen_fst]
  rw [← converted] at digits
  have length : (convertedDigits 16 text).length ≤ 16 := by
    have taken := (List.takeWhile_prefix (l := (numeralBase 16 (unsignedText text)).2)
      (isDigit 16)).length_le
    have marked := numeralBase_length 16 (unsignedText text)
    have signed := unsignedText_length text
    rw [converted]
    omega
  have fits : readNumeral 16 (unsignedText text) < 2 ^ 64 := by
    have bound := readDigits_lt digits 0
    have power : 16 ^ (convertedDigits 16 text).length ≤ 16 ^ 16 :=
      Nat.pow_le_pow_right (by decide) length
    rw [value]
    omega
  have zero : readNumeral 16 (unsignedText text) = 0 ↔ ∀ char ∈ convertedDigits 16 text, char = '0' := by
    rw [value, readDigits_eq_zero_iff (by decide) digits]
    simp
  exact (strtoul_eq_zero_iff fits).trans zero

theorem digitChar_of_digitValue {char : Char} {value : Nat} (read : digitValue char = some value)
    (bound : value < 16) : value.digitChar.toUpper = char.toUpper := by
  have position : char.toNat < 128 := by
    unfold digitValue at read
    split_ifs at read <;> have := Option.some.inj read <;> omega
  have ascii : ∀ position < 128, ∀ value < 16,
      digitValue (Char.ofNat position) = some value →
        value.digitChar.toUpper = (Char.ofNat position).toUpper := by decide +kernel
  have same := ascii char.toNat position value bound
  rw [Char.ofNat_toNat] at same
  exact same read

theorem paddedDigits_readDigits (digits : AllDigits 16 text) :
    paddedDigits 16 text.length (readDigits 16 0 text) = text.map Char.toUpper := by
  induction text using List.reverseRecOn with
  | nil => rfl
  | append_singleton text char ih =>
      have before : AllDigits 16 text := fun other member => digits other (List.mem_append_left _ member)
      obtain ⟨value, read, bound⟩ := digits char (by simp)
      have quotient : (16 * readDigits 16 0 text + value) / 16 = readDigits 16 0 text := by omega
      have remainder : (16 * readDigits 16 0 text + value) % 16 = value := by omega
      rw [readDigits_snoc before read bound, List.length_append, List.length_singleton, paddedDigits,
        quotient, remainder, ih before, digitChar_of_digitValue read bound, List.map_append]
      rfl

end

end HorizonOc.Data
