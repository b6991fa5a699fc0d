import HorizonOc.Data.Runs
import HorizonOc.Sysmodule.Types

namespace HorizonOc.Sysmodule

open HorizonOc.Data

inductive PdmPlayEventType where
  | applet | other
deriving DecidableEq, Repr

inductive AppletId where
  | application | other
deriving DecidableEq, Repr

inductive PdmAppletEventType where
  | outOfFocus | outOfFocus4 | other
deriving DecidableEq, Repr

structure PdmPlayEvent where
  playEventType : PdmPlayEventType
  appletId : AppletId
  programId0 : BitVec 32
  programId1 : BitVec 32
  eventType : PdmAppletEventType
deriving DecidableEq, Repr

/-- The two halves are in the order from high to low. -/
def PdmPlayEvent.titleId (event : PdmPlayEvent) : BitVec 64 := event.programId0 ++ event.programId1

def PdmPlayEvent.isOf (titleId : BitVec 64) (event : PdmPlayEvent) : Bool :=
  event.playEventType = .applet && event.appletId = .application &&
    event.titleId = titleId &&& ~~~0xFFF

def PdmPlayEvent.isOut (event : PdmPlayEvent) : Bool :=
  event.eventType = .outOfFocus || event.eventType = .outOfFocus4

/-- What the services answer to one call, with the codes of their failures.  The range has the
count of the entries and the index of the last one. -/
structure FocusAnswers where
  applicationProcessId : Except Nat Nat
  programId : Nat → Except Nat (BitVec 64)
  eventRange : Except Nat (Int × Int)
  playEvents : Int → Except Nat (List PdmPlayEvent)

/-- The static variables. -/
structure FocusStatics where
  lastTotalEntries : Int
  isOutOfFocus : Bool
deriving DecidableEq, Repr

namespace FocusAnswers

/-- The title that runs. -/
def titleIdNow (answers : FocusAnswers) : Except Nat (BitVec 64) :=
  match answers.applicationProcessId with
  | .error code => .error code
  | .ok processId => answers.programId processId

/-- The last of up to 16 events that is one of the application. -/
def scan (answers : FocusAnswers) (titleId : BitVec 64) (endEntryIndex : Int) : Except Nat Bool :=
  match answers.playEvents (max (endEntryIndex - 15) 0) with
  | .error code => .error code
  | .ok events =>
      if events = [] then .error 1
      else
        match events.reverse.find? (PdmPlayEvent.isOf titleId) with
        | none => .error 1
        | some event => .ok event.isOut

end FocusAnswers

/-- The count is remembered before the scan, and the status only behind it. -/
def isApplicationOutOfFocus (statics : FocusStatics) (answers : FocusAnswers) :
    Except Nat Bool × FocusStatics :=
  match answers.titleIdNow with
  | .error code => (.error code, statics)
  | .ok titleId =>
      match answers.eventRange with
      | .error code => (.error code, statics)
      | .ok (totalEntries, endEntryIndex) =>
          if totalEntries = statics.lastTotalEntries then (.ok statics.isOutOfFocus, statics)
          else
            match answers.scan titleId endEntryIndex with
            | .error code => (.error code, { statics with lastTotalEntries := totalEntries })
            | .ok isOut => (.ok isOut, { lastTotalEntries := totalEntries, isOutOfFocus := isOut })

/-- A scan at a count of entries, and what it found. -/
structure FocusScan where
  totalEntries : Int
  found : Except Nat Bool

/-- The scans made so far, the newest first. -/
structure FocusWorld where
  statics : FocusStatics
  scans : List FocusScan

namespace FocusWorld

def initial : FocusWorld :=
  { statics := { lastTotalEntries := 0, isOutOfFocus := false }, scans := [] }

/-- The title and the range of a call that comes to compare the counts. -/
def Compares (answers : FocusAnswers) (titleId : BitVec 64) (totalEntries endEntryIndex : Int) :
    Prop :=
  answers.titleIdNow = .ok titleId ∧ answers.eventRange = .ok (totalEntries, endEntryIndex)

/-- The scan that a call makes. -/
def scanOf (statics : FocusStatics) (answers : FocusAnswers) : Option FocusScan :=
  match answers.titleIdNow, answers.eventRange with
  | .ok titleId, .ok (totalEntries, endEntryIndex) =>
      if totalEntries = statics.lastTotalEntries then none
      else some { totalEntries, found := answers.scan titleId endEntryIndex }
  | _, _ => none

def call (world : FocusWorld) (answers : FocusAnswers) : FocusWorld :=
  { statics := (isApplicationOutOfFocus world.statics answers).2
    scans := (scanOf world.statics answers).toList ++ world.scans }

/-- The most recent scan at a count of entries. -/
def latest (world : FocusWorld) (totalEntries : Int) : Option FocusScan :=
  world.scans.find? (·.totalEntries = totalEntries)

/-- What a successful call reports is what the most recent scan of the count found. -/
def Reports (world : FocusWorld) (answers : FocusAnswers) : Prop :=
  ∀ titleId totalEntries endEntryIndex outOfFocus,
    Compares answers titleId totalEntries endEntryIndex →
    (isApplicationOutOfFocus world.statics answers).1 = .ok outOfFocus →
    ∃ scan, (world.call answers).latest totalEntries = some scan ∧ scan.found = .ok outOfFocus

/-- A call that comes with the remembered count finds that the last scan found a status. -/
def Remembers (world : FocusWorld) (answers : FocusAnswers) : Prop :=
  ∀ titleId endEntryIndex,
    Compares answers titleId world.statics.lastTotalEntries endEntryIndex →
    ∃ scan outOfFocus, world.scans.head? = some scan ∧ scan.found = .ok outOfFocus

/-- The last scan was at the remembered count, and left its status if it found one. -/
structure Sound (world : FocusWorld) : Prop where
  count : ∀ scan, world.scans.head? = some scan →
    scan.totalEntries = world.statics.lastTotalEntries
  status : ∀ scan outOfFocus, world.scans.head? = some scan → scan.found = .ok outOfFocus →
    world.statics.isOutOfFocus = outOfFocus

theorem initial_sound : Sound initial where
  count scan first := by contradiction
  status scan outOfFocus first := by contradiction

section

variable {world : FocusWorld} {answers : FocusAnswers} {titleId : BitVec 64}
  {totalEntries endEntryIndex : Int}

theorem call_fails (missing : ∀ titleId totalEntries endEntryIndex,
      ¬Compares answers titleId totalEntries endEntryIndex) : world.call answers = world := by
  unfold FocusWorld.call isApplicationOutOfFocus scanOf
  cases title : answers.titleIdNow with
  | error code => rfl
  | ok titleId =>
      cases range : answers.eventRange with
      | error code => rfl
      | ok entries => exact absurd ⟨title, range⟩ (missing titleId entries.1 entries.2)

theorem call_hits
    (compares : Compares answers titleId world.statics.lastTotalEntries endEntryIndex) :
    (isApplicationOutOfFocus world.statics answers).1 = .ok world.statics.isOutOfFocus ∧
      world.call answers = world := by
  obtain ⟨title, range⟩ := compares
  unfold FocusWorld.call isApplicationOutOfFocus scanOf
  simp only [title, range, if_true]
  exact ⟨trivial, rfl⟩

theorem call_scans (compares : Compares answers titleId totalEntries endEntryIndex)
    (moved : totalEntries ≠ world.statics.lastTotalEntries) :
    (isApplicationOutOfFocus world.statics answers).1 = answers.scan titleId endEntryIndex ∧
      (world.call answers).statics.lastTotalEntries = totalEntries ∧
      (∀ outOfFocus, answers.scan titleId endEntryIndex = .ok outOfFocus →
        (world.call answers).statics.isOutOfFocus = outOfFocus) ∧
      (world.call answers).scans =
        { totalEntries, found := answers.scan titleId endEntryIndex } :: world.scans := by
  obtain ⟨title, range⟩ := compares
  unfold FocusWorld.call isApplicationOutOfFocus scanOf
  simp only [title, range, if_neg moved]
  cases answers.scan titleId endEntryIndex with
  | error code => exact ⟨rfl, rfl, fun _ found => by contradiction, rfl⟩
  | ok isOut => exact ⟨rfl, rfl, fun _ found => Except.ok.inj found, rfl⟩

theorem compares_or_not (answers : FocusAnswers) :
    (∃ titleId totalEntries endEntryIndex, Compares answers titleId totalEntries endEntryIndex) ∨
      ∀ titleId totalEntries endEntryIndex,
        ¬Compares answers titleId totalEntries endEntryIndex := by
  by_cases compares : ∃ titleId totalEntries endEntryIndex,
      Compares answers titleId totalEntries endEntryIndex
  · exact .inl compares
  · exact .inr fun titleId totalEntries endEntryIndex found => compares ⟨_, _, _, found⟩

end

theorem Sound.call {world : FocusWorld} (sound : Sound world) (answers : FocusAnswers) :
    Sound (world.call answers) := by
  rcases compares_or_not answers with ⟨titleId, totalEntries, endEntryIndex, compares⟩ | missing
  · by_cases same : totalEntries = world.statics.lastTotalEntries
    · subst same
      rwa [(call_hits compares).2]
    · obtain ⟨-, count, status, scans⟩ := call_scans compares same
      constructor
      · intro scan first
        rw [scans, List.head?_cons, Option.some.injEq] at first
        rw [← first]
        exact count.symm
      · intro scan outOfFocus first found
        rw [scans, List.head?_cons, Option.some.injEq] at first
        rw [← first] at found
        exact status outOfFocus found
  · rwa [call_fails missing]

theorem Sound.latest {world : FocusWorld} (sound : Sound world) :
    world.latest world.statics.lastTotalEntries = world.scans.head? := by
  unfold FocusWorld.latest
  cases scans : world.scans with
  | nil => rfl
  | cons scan rest =>
      have count := sound.count scan (by rw [scans]; rfl)
      rw [List.find?_cons_of_pos (by simpa using count)]
      rfl

/-- Only a call that comes with the remembered count can report what was not found. -/
theorem reports_iff_remembers {world : FocusWorld} (sound : Sound world) (answers : FocusAnswers) :
    world.Reports answers ↔ world.Remembers answers := by
  constructor
  · intro reports titleId endEntryIndex compares
    obtain ⟨result, kept⟩ := call_hits compares
    obtain ⟨scan, latest, found⟩ := reports titleId _ endEntryIndex _ compares result
    rw [kept, sound.latest] at latest
    exact ⟨scan, _, latest, found⟩
  · intro remembers titleId totalEntries endEntryIndex outOfFocus compares returned
    by_cases same : totalEntries = world.statics.lastTotalEntries
    · subst same
      obtain ⟨result, kept⟩ := call_hits compares
      obtain ⟨scan, status, first, found⟩ := remembers titleId endEntryIndex compares
      rw [kept, sound.latest]
      refine ⟨scan, first, ?_⟩
      rw [← returned, result, found, sound.status scan status first found]
    · obtain ⟨result, -, -, scans⟩ := call_scans compares same
      refine ⟨{ totalEntries, found := answers.scan titleId endEntryIndex }, ?_, ?_⟩
      · rw [FocusWorld.latest, scans, List.find?_cons_of_pos (by simp)]
      · rw [← result, returned]

end FocusWorld

/-- In every run of calls, each that succeeds reports what the most recent scan of its count found,
exactly if none comes with the count of a last scan that failed, or with 0 before the first. -/
theorem focus_reported_iff (calls : List FocusAnswers) :
    Guarded FocusWorld.call FocusWorld.Reports .initial calls ↔
      Guarded FocusWorld.call FocusWorld.Remembers .initial calls :=
  guarded_iff_guarded calls FocusWorld.initial_sound (fun _ answers sound => sound.call answers)
    fun _ answers sound => FocusWorld.reports_iff_remembers sound answers

/-- A console on which a title runs, with 20 entries of which the query fails or not. -/
def focusSample (playEvents : Except Nat (List PdmPlayEvent)) : FocusAnswers :=
  { applicationProcessId := .ok 1
    programId := fun _ => .ok 0x0100000000010000
    eventRange := .ok (20, 19)
    playEvents := fun _ => playEvents }

/-- The query fails, and the next call reports that the application is in focus. -/
theorem focus_reported_after_failure :
    let calls := [focusSample (.error 2), focusSample (.error 2)]
    (isApplicationOutOfFocus FocusWorld.initial.statics (focusSample (.error 2))).1 = .error 2 ∧
      (isApplicationOutOfFocus (FocusWorld.initial.call (focusSample (.error 2))).statics
        (focusSample (.error 2))).1 = .ok false ∧
      ¬Guarded FocusWorld.call FocusWorld.Reports .initial calls := by
  intro calls
  refine ⟨rfl, rfl, fun guarded => ?_⟩
  obtain ⟨scan, latest, found⟩ :=
    guarded.2.1 0x0100000000010000 20 19 false ⟨rfl, rfl⟩ rfl
  have first : scan = { totalEntries := 20, found := .error 2 } := (Option.some.inj latest).symm
  rw [first] at found
  contradiction

end HorizonOc.Sysmodule
