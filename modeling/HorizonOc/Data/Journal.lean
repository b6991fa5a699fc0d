import HorizonOc.Data.Tracked

namespace HorizonOc.Data

variable {ν ρ ε κ α β : Type}

/-- A store with a journal beside what lies beside the words. -/
abbrev Journaled (ν ρ κ ε α : Type) := Tracked ν (ρ × List κ) ε α

def Store.forget (store : Store ν (ρ × List κ)) : Store ν ρ :=
  { word := store.word, rest := store.rest.1 }

def Store.journal (store : Store ν (ρ × List κ)) : List κ := store.rest.2

def Outcome.forget (outcome : Outcome ν (ρ × List κ) ε α) : Outcome ν ρ ε α :=
  { result := outcome.result, store := outcome.store.forget, accesses := outcome.accesses }

namespace Tracked

/-- A program that neither reads nor writes the journal. -/
def beside (program : Tracked ν ρ ε α) : Journaled ν ρ κ ε α := fun store =>
  let outcome := program store.forget
  { result := outcome.result
    store := { word := outcome.store.word, rest := (outcome.store.rest, store.journal) }
    accesses := outcome.accesses }

/-- Adds an entry at the end of the journal. -/
def note (entry : κ) : Journaled ν ρ κ ε PUnit := fun store =>
  { result := .ok ⟨⟩
    store := { store with rest := (store.rest.1, store.journal ++ [entry]) }
    accesses := [] }

/-- Without its journal, a program is the plain one. -/
def Forgets (journaled : Journaled ν ρ κ ε α) (plain : Tracked ν ρ ε α) : Prop :=
  ∀ store, (journaled store).forget = plain store.forget

variable {journaled : Journaled ν ρ κ ε α} {plain : Tracked ν ρ ε α}

theorem forgets_beside (program : Tracked ν ρ ε α) :
    Forgets (beside program : Journaled ν ρ κ ε α) program := fun _ => rfl

theorem forgets_pure (value : α) :
    Forgets (pure value : Journaled ν ρ κ ε α) (pure value) := fun _ => rfl

theorem forgets_bind {next : α → Journaled ν ρ κ ε β} {plainNext : α → Tracked ν ρ ε β}
    (first : Forgets journaled plain) (rest : ∀ value, Forgets (next value) (plainNext value)) :
    Forgets (journaled >>= next) (plain >>= plainNext) := by
  intro store
  have same := first store
  cases result : (journaled store).result with
  | error error =>
      have plainResult : (plain store.forget).result = .error error := by rw [← same, ← result]; rfl
      rw [bind_of_error result, bind_of_error plainResult, ← same]
      rfl
  | ok value =>
      have plainResult : (plain store.forget).result = .ok value := by rw [← same, ← result]; rfl
      have restSame := rest value (journaled store).store
      rw [bind_of_ok result, bind_of_ok plainResult, ← same]
      exact congrArg (fun outcome : Outcome ν ρ ε β =>
        { outcome with accesses := (journaled store).accesses ++ outcome.accesses }) restSame

theorem forgets_note_bind {entry : κ} {next : PUnit → Journaled ν ρ κ ε α}
    (rest : Forgets (next ⟨⟩) plain) : Forgets (note entry >>= next) plain := by
  intro store
  rw [bind_of_ok rfl]
  exact rest _

theorem forgets_ite {condition : Prop} [Decidable condition] {other : Journaled ν ρ κ ε α}
    {plainOther : Tracked ν ρ ε α} (first : Forgets journaled plain)
    (second : Forgets other plainOther) :
    Forgets (if condition then journaled else other) (if condition then plain else plainOther) := by
  split
  · exact first
  · exact second

theorem Forgets.accesses (forgets : Forgets journaled plain) (store : Store ν (ρ × List κ)) :
    (journaled store).accesses = (plain store.forget).accesses :=
  congrArg Outcome.accesses (forgets store)

theorem run_beside {program : Tracked ν ρ ε α} {store : Store ν (ρ × List κ)} {value : α}
    {final : Store ν ρ} (returned : run program store.forget = (.ok value, final)) :
    run (beside program : Journaled ν ρ κ ε α) store =
      (.ok value, { word := final.word, rest := (final.rest, store.journal) }) := by
  obtain ⟨result, stored⟩ := Prod.mk.inj returned
  rw [run]
  simp only [beside, result, stored]

end Tracked

end HorizonOc.Data
