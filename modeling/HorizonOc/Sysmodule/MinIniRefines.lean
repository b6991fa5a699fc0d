import HorizonOc.Sysmodule.MinIniSections

namespace HorizonOc.Sysmodule.MinIni

open HorizonOc.Data

/-- A section whose lines fit. -/
structure FitSection (name : List Char) (pairs : List (List Char × List Char)) : Prop where
  named : name ≠ []
  plain : Plain name
  oneLine : '\n' ∉ name
  short : name.length + 2 ≤ lineLimit
  entries : ∀ pair ∈ pairs, IsKey pair.1 ∧ Plain pair.2 ∧ '\n' ∉ pair.2 ∧
    pair.1.length + (escaped pair.2).length + 3 ≤ lineLimit

/-- The pairs as they are read back. -/
def readPairs (pairs : List (List Char × List Char)) : List (String × String) :=
  pairs.map fun pair => (.ofList pair.1, .ofList (readValue pair.2))

def sectionLines (name : List Char) (pairs : List (List Char × List Char)) : List (List Char) :=
  if pairs = [] then []
  else headingLine name :: pairs.map (fun pair => keyLine pair.1 pair.2) ++ [lineTerm]

section

variable {line text name key value tail : List Char} {pairs : List (List Char × List Char)}
  {lines before after : List (List Char)}

theorem sectionLines_flatten (name : List Char) (pairs : List (List Char × List Char)) :
    (sectionLines name pairs).flatten = sectionText name pairs := by
  rw [sectionLines, sectionText]
  split
  · rfl
  · rw [List.cons_append, List.flatten_cons, List.flatten_append, List.flatten_singleton,
      List.flatMap_def, List.append_assoc]

theorem isLine_lineTerm : IsLine lineTerm := ⟨[], rfl, List.not_mem_nil, Nat.zero_le _⟩

theorem headingLine_eq (short : name.length + 2 ≤ lineLimit) :
    headingLine name = '[' :: name ++ ']' :: lineTerm := by
  rw [headingLine, iniStrncpy_none (by rw [lineLimit] at short; rw [bufferSize]; omega)]

theorem isLine_headingLine (oneLine : '\n' ∉ name) (short : name.length + 2 ≤ lineLimit) :
    IsLine (headingLine name) := by
  refine ⟨'[' :: name ++ [']'], ?_, ?_, ?_⟩
  · rw [headingLine_eq short]
    simp
  · simpa using oneLine
  · simp only [List.length_append, List.length_cons, List.length_nil]
    omega

theorem heading_headingLine (short : name.length + 2 ≤ lineLimit) :
    skipleading (headingLine name) = headingLine name ∧ heading (headingLine name) = some name := by
  rw [headingLine_eq short]
  refine ⟨skipleading_starts (by simp [isBlank]), ?_⟩
  have last : strrchr ('[' :: name ++ ']' :: lineTerm) ']' = some (name.length + 1) := by
    rw [List.append_cons, strrchr_snoc_newline (by decide), strrchr, List.reverse_append,
      List.reverse_singleton, List.singleton_append, List.idxOf?_cons]
    simp
  have bracket : ('[' :: name ++ ']' :: lineTerm).head? = some '[' := rfl
  rw [heading, if_pos bracket, last, Option.map_some]
  simp

theorem readLine_headingLine (short : name.length + 2 ≤ lineLimit) :
    readLine (headingLine name) = .heading name := by
  obtain ⟨starts, found⟩ := heading_headingLine short
  have bracket : (headingLine name).head? = some '[' := rfl
  have stored : iniStrncpy name bufferSize .none = name :=
    iniStrncpy_none (by rw [lineLimit] at short; rw [bufferSize]; omega)
  rw [readLine, browseLine, starts, found]
  simp only
  rw [if_neg (by rw [bracket]; simp [headingLine]), stored]

theorem fits_entry (short : key.length + (escaped value).length + 3 ≤ lineLimit) :
    Fits 1 key value := by
  have stored := storedValue_length_le value
  rw [lineLimit] at short
  rw [Fits, bufferSize]
  omega

theorem isLine_keyLine (isKey : IsKey key) (oneLine : '\n' ∉ value)
    (short : key.length + (escaped value).length + 3 ≤ lineLimit) : IsLine (keyLine key value) := by
  have stored := storedValue_length_le value
  refine ⟨key ++ '=' :: storedValue value, ?_, ?_, ?_⟩
  · rw [keyLine_eq (fits_entry short) Nat.one_pos]
    simp
  · have inside : '\n' ∉ storedValue value := by
      rw [storedValue]
      split
      · have inner : '\n' ∉ escaped value := by
          intro member
          obtain ⟨char, inValue, written⟩ := List.mem_flatMap.mp member
          split at written
          · rename_i quote
            rw [quote] at written
            simp [backslash, quoteMark] at written
          · rw [List.mem_singleton] at written
            exact oneLine (written ▸ inValue)
        simp [quoteMark, inner]
      · exact oneLine
    simp [isKey.oneLine, inside]
  · simp only [List.length_append, List.length_cons]
    omega

theorem readLine_keyLine (isKey : IsKey key) (oneLine : '\n' ∉ value)
    (short : key.length + (escaped value).length + 3 ≤ lineLimit) :
    readLine (keyLine key value) = .entry key (readValue value) := by
  have long := (isLine_keyLine isKey oneLine short).length_le
  have room : 1 + (keyLine key value).length < bufferSize := by
    rw [lineLimit] at long
    rw [bufferSize]
    omega
  rw [← browseLine_room room]
  exact browseLine_keyLine isKey (fits_entry short) Nat.one_pos

theorem headed_headingLine (short : name.length + 2 ≤ lineLimit) :
    headed (headingLine name) = true ∧ opensSection (headingLine name) = true := by
  obtain ⟨starts, found⟩ := heading_headingLine short
  have bracket : (headingLine name).head? = some '[' := rfl
  have opens : opensSection (headingLine name) = true := by
    rw [opensSection, starts, bracket]
    rfl
  refine ⟨?_, opens⟩
  rw [headed, opens, lineStart, starts, found, Nat.sub_self]
  rfl

theorem opensSection_keyLine (isKey : IsKey key)
    (short : key.length + (escaped value).length + 3 ≤ lineLimit) :
    opensSection (keyLine key value) = false := by
  have first : ∀ first, (keyLine key value).head? = some first →
      isBlank first = false ∧ first ≠ '[' := by
    intro first found
    rw [keyLine_eq (fits_entry short) Nat.one_pos] at found
    cases key with
    | nil =>
        rw [← Option.some.inj found]
        decide
    | cons char rest => exact ⟨(isKey.starts first found).1, (isKey.starts first found).2.2⟩
  rw [opensSection, skipleading_starts fun char found => (first char found).1]
  exact decide_eq_false fun bracket => (first '[' bracket).2 rfl

theorem headed_of_not_opens (other : opensSection line = false) : headed line = true := by
  rw [headed, other]
  rfl

theorem FitSection.isLine (fit : FitSection name pairs) : ∀ line ∈ sectionLines name pairs,
    IsLine line ∧ headed line = true := by
  rw [sectionLines]
  split
  · exact nofun
  · intro line member
    rw [List.mem_append, List.mem_cons, List.mem_singleton, List.mem_map] at member
    rcases member with (rfl | ⟨pair, paired, rfl⟩) | rfl
    · exact ⟨isLine_headingLine fit.oneLine fit.short, (headed_headingLine fit.short).1⟩
    · obtain ⟨isKey, -, oneLine, short⟩ := fit.entries pair paired
      exact ⟨isLine_keyLine isKey oneLine short, headed_of_not_opens (opensSection_keyLine isKey short)⟩
    · exact ⟨isLine_lineTerm, by decide⟩

variable {items others : List BrowsedLine}

/-- Nothing, or something that begins with a heading. -/
def Headed (items : List BrowsedLine) : Prop :=
  ∀ first, items.head? = some first → ∃ name, first = .heading name

theorem gather_append (items : List BrowsedLine) (headed : Headed others) :
    gather (items ++ others) = ((gather items).1, (gather items).2 ++ (gather others).2) ∧
      (gather others).1 = [] := by
  have unpaired : (gather others).1 = [] := by
    cases others with
    | nil => rfl
    | cons first rest =>
        obtain ⟨name, rfl⟩ := headed first rfl
        rfl
  refine ⟨?_, unpaired⟩
  induction items with
  | nil => exact Prod.ext unpaired rfl
  | cons item items ih =>
      cases item with
      | ignored => exact ih
      | heading name =>
          change (([], ⟨.ofList name, (gather (items ++ others)).1⟩ ::
            (gather (items ++ others)).2) : List (String × String) × List IniSection) = _
          rw [ih]
          rfl
      | entry key value =>
          change (((.ofList key, .ofList value) :: (gather (items ++ others)).1,
            (gather (items ++ others)).2) : List (String × String) × List IniSection) = _
          rw [ih]
          rfl

/-- Without headings there are no sections. -/
theorem gather_body (body : ∀ item ∈ items, ∀ name, item ≠ .heading name) : (gather items).2 = [] := by
  induction items with
  | nil => rfl
  | cons item items ih =>
      obtain ⟨first, others⟩ := List.forall_mem_cons.mp body
      cases item with
      | ignored => exact ih others
      | heading name => exact absurd rfl (first name)
      | entry key value => exact ih others

theorem gather_entries (pairs : List (List Char × List Char)) :
    (gather (pairs.map (fun pair => .entry pair.1 (readValue pair.2)) ++ [.ignored])).1 =
      readPairs pairs := by
  induction pairs with
  | nil => rfl
  | cons pair pairs ih => exact congrArg (_ :: ·) ih

/-- The lines of a section read as the section. -/
theorem gather_sectionLines (fit : FitSection name pairs) :
    Headed ((sectionLines name pairs).map readLine) ∧
      (gather ((sectionLines name pairs).map readLine)).2 =
        newSection (.ofList name) (readPairs pairs) := by
  rw [sectionLines, newSection]
  by_cases none : pairs = []
  · subst none
    exact ⟨fun first found => by simp at found, rfl⟩
  · have entries : (pairs.map fun pair => keyLine pair.1 pair.2).map readLine =
        pairs.map fun pair => .entry pair.1 (readValue pair.2) := by
      rw [List.map_map]
      refine List.map_congr_left fun pair paired => ?_
      obtain ⟨isKey, -, oneLine, short⟩ := fit.entries pair paired
      exact readLine_keyLine isKey oneLine short
    have filled : readPairs pairs ≠ [] := by simpa [readPairs] using none
    have blank : readLine lineTerm = .ignored := by decide
    rw [if_neg none, if_neg filled, List.cons_append, List.map_cons, readLine_headingLine fit.short,
      List.map_append, entries, List.map_singleton, blank]
    refine ⟨fun first found => ⟨name, (Option.some.inj found).symm⟩, ?_⟩
    change (⟨.ofList name, (gather _).1⟩ :: (gather _).2 : List IniSection) = _
    rw [gather_entries, gather_body]
    intro item member found
    rw [List.mem_append, List.mem_map, List.mem_singleton] at member
    rcases member with ⟨pair, -, rfl⟩ | rfl
    · simp
    · simp

/-- Two names that minIni does not tell apart. -/
def sameName (first second : List Char) : Bool := first.map Char.toUpper = second.map Char.toUpper

theorem isSection_iff : isSection name line = true ↔
    ∃ found, heading (skipleading line) = some found ∧ sameName found name = true := by
  rw [isSection]
  cases read : heading (skipleading line) with
  | none => simp
  | some found =>
      have taken : ((skipleading line).drop 1).take found.length = found := by
        rw [heading] at read
        split at read
        · obtain ⟨ep, -, rfl⟩ := Option.map_eq_some_iff.mp read
          rw [List.drop_take]
          exact (List.prefix_iff_eq_take.mp (List.take_prefix _ _)).symm
        · contradiction
      simp only [Bool.and_eq_true, decide_eq_true_eq, strnicmp, sameName, Option.some.injEq,
        exists_eq_left']
      constructor
      · rintro ⟨length, same⟩
        rw [← length, taken, length, List.take_length] at same
        exact same
      · intro same
        have length : found.length = name.length := by
          simpa using congrArg List.length same
        refine ⟨length, ?_⟩
        rw [← length, taken, length, List.take_length, same]

theorem readLine_heading_iff (short : line.length < bufferSize) {found : List Char} :
    readLine line = .heading found ↔ heading (skipleading line) = some found := by
  have stored {name : List Char} (read : heading (skipleading line) = some name) :
      iniStrncpy name bufferSize .none = name := by
    have shorter := heading_length_lt read
    have inside : (skipleading line).length ≤ line.length := (List.dropWhile_sublist _).length_le
    exact iniStrncpy_none (by omega)
  constructor
  · intro is
    obtain ⟨name, read, rfl⟩ := readLine_heading is
    rw [stored read, read]
  · intro read
    have bracket : (skipleading line).head? = some '[' := by
      by_contra other
      rw [heading, if_neg other] at read
      contradiction
    have shown : ¬(skipleading line = [] ∨ (skipleading line).head? = some ';' ∨
        (skipleading line).head? = some '#') := by
      rw [bracket]
      rintro (empty | comment | comment)
      · rw [empty] at bracket
        contradiction
      · exact absurd comment (by decide)
      · exact absurd comment (by decide)
    rw [readLine, browseLine]
    simp only
    rw [if_neg shown, read]
    simp only
    rw [stored read]

theorem Lined.length_lt (lined : Lined lines) : ∀ line ∈ lines, line.length < bufferSize := by
  induction lined with
  | nil => exact nofun
  | @tail tail filled isTail =>
      intro line member
      have short := isTail.short
      rw [List.mem_singleton.mp member]
      rw [lineLimit] at short
      rw [bufferSize]
      omega
  | @line line rest isLine lined ih =>
      refine List.forall_mem_cons.mpr ⟨?_, ih⟩
      have short := isLine.length_le
      rw [lineLimit] at short
      rw [bufferSize]
      omega

theorem gather_mem {candidate : IniSection} (member : candidate ∈ (gather items).2) :
    ∃ name, .heading name ∈ items ∧ candidate.name = .ofList name := by
  induction items with
  | nil => exact absurd member List.not_mem_nil
  | cons item items ih =>
      cases item with
      | ignored =>
          obtain ⟨name, inside, same⟩ := ih member
          exact ⟨name, List.mem_cons_of_mem _ inside, same⟩
      | heading name =>
          rcases List.mem_cons.mp member with rfl | later
          · exact ⟨name, List.mem_cons_self, rfl⟩
          · obtain ⟨other, inside, same⟩ := ih later
            exact ⟨other, List.mem_cons_of_mem _ inside, same⟩
      | entry key value =>
          obtain ⟨name, inside, same⟩ := ih member
          exact ⟨name, List.mem_cons_of_mem _ inside, same⟩

theorem sameSection_ofList (name found : List Char) (pairs : List (String × String)) :
    sameSection (.ofList name) ⟨.ofList found, pairs⟩ = sameName found name := by
  simp [sameSection, sameName]

/-- The sections of lines that are not the section's. -/
theorem gather_others (lined : Lined lines) (others : ∀ line ∈ lines, isSection name line = false) :
    ∀ candidate ∈ (gather (lines.map readLine)).2, sameSection (.ofList name) candidate = false := by
  intro candidate member
  obtain ⟨found, inside, same⟩ := gather_mem member
  obtain ⟨line, among, read⟩ := List.mem_map.mp inside
  have opened := (readLine_heading_iff (lined.length_lt line among)).mp read
  have other := others line among
  cases candidate with
  | mk title pairs =>
      simp only at same
      rw [same, sameSection_ofList, ← Bool.not_eq_true]
      intro matched
      rw [isSection_iff.mpr ⟨found, opened, matched⟩] at other
      contradiction

theorem putSection_skip {title : String} {first : List IniSection}
    (others : ∀ candidate ∈ first, sameSection title candidate = false)
    (content : List (String × String)) (rest : List IniSection) :
    putSection title content (first ++ rest) = first ++ putSection title content rest := by
  induction first with
  | nil => rfl
  | cons candidate first ih =>
      obtain ⟨other, later⟩ := List.forall_mem_cons.mp others
      rw [List.cons_append, putSection, other, if_neg Bool.false_ne_true, ih later, List.cons_append]

/-- What stands before the first heading is not a section with a name. -/
theorem unnamed_other (named : name ≠ []) (content : List (String × String)) :
    ∀ candidate ∈ newSection "" content, sameSection (.ofList name) candidate = false := by
  intro candidate member
  rw [newSection] at member
  split at member
  · contradiction
  · rw [List.mem_singleton.mp member, sameSection]
    simpa using Ne.symm named

theorem Lined.append (are : ∀ line ∈ before, IsLine line) (lined : Lined after) :
    Lined (before ++ after) := by
  induction before with
  | nil => exact lined
  | cons line before ih =>
      obtain ⟨isLine, others⟩ := List.forall_mem_cons.mp are
      exact .line isLine (ih others)

theorem Lined.behind (lined : Lined (line :: after)) : Lined after := by
  cases lined with
  | tail filled isTail => exact .nil
  | line isLine lined => exact lined

theorem Lined.suffix (lined : Lined (before ++ after)) : Lined after := by
  induction before with
  | nil => exact lined
  | cons line before ih => exact ih lined.behind

/-- All but the last of what is read are lines. -/
theorem Lined.isLine_before (lined : Lined (before ++ line :: after)) :
    ∀ line ∈ before, IsLine line := by
  induction before with
  | nil => exact nofun
  | cons first before ih =>
      rw [List.cons_append] at lined
      generalize rest : before ++ line :: after = more at lined ih
      cases lined with
      | tail filled isTail => simp at rest
      | line isLine lined => exact List.forall_mem_cons.mpr ⟨isLine, ih lined⟩

theorem FitText.of_lines (lined : Lined lines) (plain : Plain lines.flatten)
    (headings : ∀ line ∈ lines, headed line = true) : FitText lines.flatten where
  plain := plain
  lined := by rwa [lined.pieces_flatten]
  headings := by rwa [lined.pieces_flatten]

theorem readSections_lines (lined : Lined lines) : readSections lines.flatten =
    newSection "" (gather (lines.map readLine)).1 ++ (gather (lines.map readLine)).2 := by
  rw [readSections, lined.pieces_flatten]

theorem Headed.append (first : Headed items) (second : Headed others) : Headed (items ++ others) := by
  cases items with
  | nil => exact second
  | cons item items => exact first

/-- What is left from the next opening bracket on begins with a heading. -/
theorem headed_rest (lined : Lined lines) (headings : ∀ line ∈ lines, headed line = true) :
    Headed ((lines.dropWhile fun line => !opensSection line).map readLine) := by
  intro first found
  cases rest : lines.dropWhile fun line => !opensSection line with
  | nil =>
      rw [rest] at found
      contradiction
  | cons next others =>
      have opens : opensSection next = true := by
        have head := List.head?_dropWhile_not (fun line => !opensSection line) lines
        rw [rest] at head
        simpa using head
      have member : next ∈ lines := (List.dropWhile_sublist _).subset (rest ▸ List.mem_cons_self)
      have closed := headings next member
      rw [headed, opens, Bool.not_true, Bool.false_or, Bool.and_eq_true] at closed
      obtain ⟨name, read⟩ := Option.isSome_iff_exists.mp closed.2
      rw [rest] at found
      refine ⟨name, ?_⟩
      rw [← Option.some.inj found]
      exact (readLine_heading_iff (lined.length_lt next member)).mpr read

/-- The lines up to the next opening bracket hold no heading. -/
theorem gather_skipped (lined : Lined lines) :
    (gather ((lines.takeWhile fun line => !opensSection line).map readLine)).2 = [] := by
  refine gather_body fun item member name same => ?_
  obtain ⟨line, taken, rfl⟩ := List.mem_map.mp member
  have closed : opensSection line = false := by
    simpa using List.mem_takeWhile_imp taken
  have short := lined.length_lt line ((List.takeWhile_sublist _).subset taken)
  have read := (readLine_heading_iff short).mp same
  rw [heading, if_neg (by simpa [opensSection] using closed)] at read
  contradiction

/-- Replacing the lines of a section replaces the section. -/
theorem replaced_lines {header : List Char} (fit : FitText text) (written : FitSection name pairs)
    (plain : Plain (sectionText name pairs)) (split : pieces text = before ++ header :: after)
    (earlier : ∀ line ∈ before, isSection name line = false) (found : isSection name header = true) :
    let behind := after.dropWhile fun line => !opensSection line
    FitText (before.flatten ++ sectionText name pairs ++ behind.flatten) ∧
      readSections (before.flatten ++ sectionText name pairs ++ behind.flatten) =
        putSection (.ofList name) (readPairs pairs) (readSections text) := by
  intro behind
  obtain ⟨plainText, lined, headings⟩ := fit
  have whole : text = (before ++ header :: after).flatten := by rw [← split, pieces_flatten]
  rw [split] at lined headings
  have linedBehind : Lined behind := by
    have split : before ++ header :: after =
        (before ++ header :: after.takeWhile fun line => !opensSection line) ++ behind := by
      rw [List.append_assoc, List.cons_append, List.takeWhile_append_dropWhile]
    rw [split] at lined
    exact lined.suffix
  have new : before.flatten ++ sectionText name pairs ++ behind.flatten =
      (before ++ (sectionLines name pairs ++ behind)).flatten := by
    rw [List.flatten_append, List.flatten_append, sectionLines_flatten, List.append_assoc]
  have linedNew : Lined (before ++ (sectionLines name pairs ++ behind)) :=
    .append lined.isLine_before (.append (fun line member => (written.isLine line member).1) linedBehind)
  rw [new]
  refine ⟨.of_lines linedNew ?_ ?_, ?_⟩
  · rw [← new]
    rw [whole, List.flatten_append, List.flatten_cons] at plainText
    have rest : after.flatten = (after.takeWhile fun line => !opensSection line).flatten ++
        behind.flatten := by
      rw [← List.flatten_append, List.takeWhile_append_dropWhile]
    rw [rest] at plainText
    exact (plainText.of_append_left.append plain).append
      plainText.of_append_right.of_append_right.of_append_right
  · intro line member
    rcases List.mem_append.mp member with first | later
    · exact headings line (List.mem_append_left _ first)
    · rcases List.mem_append.mp later with new | old
      · exact (written.isLine line new).2
      · exact headings line (List.mem_append_right _ (List.mem_cons_of_mem _
          ((List.dropWhile_sublist _).subset old)))
  · have linedAfter : Lined after := lined.suffix.behind
    have headedBehind : Headed (behind.map readLine) := headed_rest linedAfter fun line member =>
      headings line (List.mem_append_right _ (List.mem_cons_of_mem _ member))
    obtain ⟨headedNew, section_⟩ := gather_sectionLines written
    obtain ⟨title, opened, same⟩ := isSection_iff.mp found
    have header_ : readLine header = .heading title :=
      (readLine_heading_iff (lined.suffix.length_lt header List.mem_cons_self)).mpr opened
    have old : (gather ((header :: after).map readLine)).2 =
        ⟨.ofList title, (gather ((after.takeWhile fun line => !opensSection line).map readLine)).1⟩ ::
          (gather (behind.map readLine)).2 := by
      have parts : after.map readLine =
          (after.takeWhile fun line => !opensSection line).map readLine ++ behind.map readLine := by
        rw [← List.map_append, List.takeWhile_append_dropWhile]
      rw [List.map_cons, header_, parts]
      change (⟨_, (gather (_ ++ _)).1⟩ :: (gather (_ ++ _)).2 : List IniSection) = _
      rw [(gather_append _ headedBehind).1, gather_skipped linedAfter, List.nil_append]
    have headedOld : Headed ((header :: after).map readLine) := by
      intro first is
      exact ⟨title, by rw [← header_]; exact (Option.some.inj is).symm⟩
    have linedBefore : Lined before := by
      simpa using Lined.append lined.isLine_before .nil
    have others := gather_others linedBefore earlier
    have replaced : sameSection (.ofList name) ⟨.ofList title,
        (gather ((after.takeWhile fun line => !opensSection line).map readLine)).1⟩ = true := by
      rw [sameSection_ofList, same]
    rw [readSections_lines linedNew, readSections, split, List.map_append, List.map_append,
      List.map_append, (gather_append _ (headedNew.append headedBehind)).1,
      (gather_append _ headedBehind).1, section_, (gather_append _ headedOld).1, old]
    simp only
    rw [putSection_skip (unnamed_other written.named _), putSection_skip others, putSection,
      if_pos replaced]

theorem headed_newline (line : List Char) : headed (line ++ lineTerm) = headed line := by
  by_cases blank : skipleading line = []
  · have closed : opensSection line = false := by
      rw [opensSection, blank]
      rfl
    have stillClosed : opensSection (line ++ lineTerm) = false := by
      rw [opensSection, skipleading_snoc, if_pos blank]
      rfl
    rw [headed_of_not_opens closed, headed_of_not_opens stillClosed]
  · obtain ⟨first, rest, sp⟩ := List.exists_cons_of_ne_nil blank
    rw [headed, headed, opensSection, opensSection, lineStart, lineStart, skipleading_snoc,
      if_neg blank, heading_newline, List.length_append, List.length_append, Nat.add_sub_add_right, sp]
    rfl

theorem gather_cons {first second : List BrowsedLine} (same : gather first = gather second)
    (item : BrowsedLine) : gather (item :: first) = gather (item :: second) := by
  cases item with
  | ignored => exact same
  | heading name => rw [gather, gather, same]
  | entry key value => rw [gather, gather, same]

/-- The lines of a text that is closed with the end of a line. -/
theorem closed_lines (lined : Lined lines) (headings : ∀ line ∈ lines, headed line = true)
    {filler : List Char}
    (ends : filler = lineTerm ∨ filler = [] ∧ lines.flatten.getLast? = some '\n') :
    ∃ closed : List (List Char), (∀ line ∈ closed, IsLine line ∧ headed line = true) ∧
      closed.flatten = lines.flatten ++ filler ∧
      gather (closed.map readLine) = gather (lines.map readLine) := by
  induction lined with
  | nil =>
      rcases ends with rfl | ⟨rfl, last⟩
      · refine ⟨[lineTerm], ?_, rfl, by decide⟩
        intro line member
        rw [List.mem_singleton.mp member]
        exact ⟨isLine_lineTerm, by decide⟩
      · simp at last
  | @tail tail filled isTail =>
      rw [List.flatten_cons, List.flatten_nil, List.append_nil] at ends ⊢
      rcases ends with rfl | ⟨rfl, last⟩
      · refine ⟨[tail ++ lineTerm], ?_, by simp, ?_⟩
        · intro line member
          rw [List.mem_singleton.mp member, headed_newline]
          exact ⟨⟨tail, rfl, isTail.oneLine, isTail.short⟩, headings tail List.mem_cons_self⟩
        · rw [List.map_singleton, List.map_singleton, readLine_newline]
      · exact absurd (List.mem_of_getLast? last) isTail.oneLine
  | @line line rest isLine lined ih =>
      obtain ⟨headedLine, others⟩ := List.forall_mem_cons.mp headings
      by_cases alone : filler = [] ∧ rest = []
      · obtain ⟨rfl, rfl⟩ := alone
        refine ⟨[line], ?_, by simp, rfl⟩
        intro other member
        rw [List.mem_singleton.mp member]
        exact ⟨isLine, headedLine⟩
      · have later : filler = lineTerm ∨ filler = [] ∧ rest.flatten.getLast? = some '\n' := by
          refine ends.imp_right fun both => ⟨both.1, ?_⟩
          have filled : rest.flatten ≠ [] := by
            intro none
            have empty := lined.pieces_flatten
            rw [none, pieces_nil] at empty
            exact alone ⟨both.1, empty.symm⟩
          have last := both.2
          rwa [List.flatten_cons, List.getLast?_append_of_ne_nil _ filled] at last
        obtain ⟨closed, are, flat, same⟩ := ih others later
        refine ⟨line :: closed, List.forall_mem_cons.mpr ⟨⟨isLine, headedLine⟩, are⟩, ?_, ?_⟩
        · rw [List.flatten_cons, List.flatten_cons, flat, List.append_assoc]
        · rw [List.map_cons, List.map_cons]
          exact gather_cons same _

/-- Adding the lines of a section adds the section. -/
theorem added_lines (fit : FitText text) (written : FitSection name pairs)
    (plain : Plain (sectionText name pairs)) {filler : List Char}
    (ends : filler = lineTerm ∨ filler = [] ∧ text.getLast? = some '\n')
    (absent : ∀ line ∈ pieces text, isSection name line = false) :
    FitText (text ++ filler ++ sectionText name pairs) ∧
      readSections (text ++ filler ++ sectionText name pairs) =
        putSection (.ofList name) (readPairs pairs) (readSections text) := by
  obtain ⟨plainText, lined, headings⟩ := fit
  rw [← pieces_flatten text] at ends
  obtain ⟨closed, are, flat, same⟩ := closed_lines lined headings ends
  rw [pieces_flatten] at flat
  have linedNew : Lined (closed ++ sectionLines name pairs) := by
    have linedSection : Lined (sectionLines name pairs) := by
      simpa using Lined.append (fun line member => (written.isLine line member).1) .nil
    exact .append (fun line member => (are line member).1) linedSection
  have new : text ++ filler ++ sectionText name pairs = (closed ++ sectionLines name pairs).flatten := by
    rw [List.flatten_append, flat, sectionLines_flatten]
  have plainFiller : Plain filler := by
    rcases ends with rfl | ⟨rfl, -⟩ <;> decide
  obtain ⟨headedNew, section_⟩ := gather_sectionLines written
  rw [new]
  refine ⟨.of_lines linedNew ?_ ?_, ?_⟩
  · rw [← new]
    exact (plainText.append plainFiller).append plain
  · intro line member
    rcases List.mem_append.mp member with first | later
    · exact (are line first).2
    · exact (written.isLine line later).2
  · rw [readSections_lines linedNew, readSections, List.map_append, (gather_append _ headedNew).1, same,
      section_]
    simp only
    rw [putSection_skip (unnamed_other written.named _)]
    have skipped := putSection_skip (gather_others lined absent) (readPairs pairs) []
    rw [List.append_nil] at skipped
    rw [skipped]
    rfl

theorem FitSection.plainPairs (written : FitSection name pairs) :
    ∀ pair ∈ pairs, Plain pair.1 ∧ Plain pair.2 := by
  intro pair member
  obtain ⟨isKey, plain, -, -⟩ := written.entries pair member
  exact ⟨isKey.plain, plain⟩

theorem FitText.nil : FitText [] where
  plain := by decide
  lined := by rw [pieces_nil]; exact .nil
  headings := by rw [pieces_nil]; exact nofun

theorem readSections_nil : readSections [] = [] := by
  rw [readSections, pieces_nil]
  rfl

/-- A heading that starts its line is not passed over. -/
theorem FitText.not_indented (fit : FitText text) (name : List Char) :
    endsIndented name text = false := by
  rw [endsIndented]
  split
  · rename_i header only
    have whole := pieces_eq_split name text
    rw [only] at whole
    have member : header ∈ pieces text := by
      rw [whole]
      exact List.mem_append_right _ List.mem_cons_self
    have closed := fit.headings header member
    rw [headed, IniCopy.opensSection_of_isSection (fromSection_head only), Bool.not_true, Bool.false_or,
      Bool.and_eq_true, decide_eq_true_eq] at closed
    rw [closed.1]
    rfl
  · rfl

/-- The file as it is found; one that is not there has no sections. -/
def fileText (file : Option (List Char)) : List Char := file.getD []

/-- On a file that fits, `ini_putsection` puts the section, and what is written fits again. -/
theorem iniPutsection_refines {file : Option (List Char)} {rounds : Nat} (fit : FitText (fileText file))
    (written : FitSection name pairs) (enough : (fileText file).length + bufferSize ≤ rounds) :
    ∃ text, iniPutsection rounds name pairs true file = some (true, some text) ∧ FitText text ∧
      readSections text =
        putSection (.ofList name) (readPairs pairs) (readSections (fileText file)) := by
  have plain := written.plain.sectionText written.plainPairs
  cases file with
  | none =>
      obtain ⟨buffer, wrote, -⟩ := IniCopy.putsection_eq written.named (openCopy []) pairs
      have lined : Lined (sectionLines name pairs) := by
        simpa using Lined.append (fun line member => (written.isLine line member).1) .nil
      obtain ⟨headedNew, section_⟩ := gather_sectionLines written
      have unpaired := (gather_append [] headedNew).2
      refine ⟨sectionText name pairs, ?_, ?_, ?_⟩
      · change some (true, some ((openCopy []).putsection name pairs).written) = _
        rw [wrote]
        rfl
      · rw [← sectionLines_flatten] at plain ⊢
        exact .of_lines lined plain fun line member => (written.isLine line member).2
      · rw [← sectionLines_flatten, readSections_lines lined, unpaired, section_, fileText,
          Option.getD_none, readSections_nil]
        rfl
  | some text =>
      change FitText text at fit
      change text.length + bufferSize ≤ rounds at enough
      change ∃ after, _ ∧ FitText after ∧ readSections after = putSection _ _ (readSections text)
      have replaced := iniPutsection_replaces fit.plain written.plain written.plainPairs written.named
        enough
      rw [if_neg fun both => absurd (fit.not_indented name) (by simp [both.2])] at replaced
      obtain ⟨filler, put, ends⟩ := replaced
      refine ⟨_, put, ?_⟩
      cases found : fromSection name text with
      | nil =>
          obtain ⟨before, behind⟩ := beforeSection_absent found
          have whole := pieces_eq_split name text
          have earlier := beforeSection_earlier name text
          rw [found, List.append_nil] at whole
          rw [found, if_pos rfl] at ends
          rw [before, behind, List.append_nil]
          exact added_lines fit written plain ends (by rw [whole]; exact earlier)
      | cons header after =>
          have whole := pieces_eq_split name text
          have earlier := beforeSection_earlier name text
          rw [found] at whole
          rw [found, if_neg (List.cons_ne_nil _ _)] at ends
          have behind : behindSection name text =
              (after.dropWhile fun line => !opensSection line).flatten := by
            rw [behindSection, found, List.tail_cons]
          rw [ends, List.append_nil, beforeSection, behind]
          exact replaced_lines fit written plain whole earlier (fromSection_head found)

/-- A file whose last line has no end, and a section that is not in it. -/
theorem iniPutsection_refines_added : ∃ text,
    iniPutsection (9 + bufferSize) ['v'] [(['k'], ['2'])] true (some "[s]\na=1;x".toList) =
        some (true, some text) ∧ FitText text ∧
      readSections text = putSection (.ofList ['v']) (readPairs [(['k'], ['2'])])
        (readSections "[s]\na=1;x".toList) := by
  have tail : IsTail "a=1;x".toList := ⟨by decide, by decide⟩
  have line : IsLine "[s]\n".toList := ⟨"[s]".toList, by decide, by decide, by decide⟩
  have fit : FitText "[s]\na=1;x".toList :=
    FitText.of_lines (.line line (.tail (by decide) tail)) (by decide) (by decide)
  have enough : (fileText (some "[s]\na=1;x".toList)).length + bufferSize ≤ 9 + bufferSize := by decide
  refine iniPutsection_refines fit ?_ enough
  refine ⟨by decide, by decide, by decide, by decide, ?_⟩
  intro pair member
  rw [List.mem_singleton.mp member]
  refine ⟨⟨by decide, by decide, by decide, ?_, ?_⟩, by decide, by decide, by decide⟩
  · intro first found
    rw [← Option.some.inj found]
    decide
  · intro last found
    rw [← Option.some.inj found]
    decide

end

end HorizonOc.Sysmodule.MinIni
