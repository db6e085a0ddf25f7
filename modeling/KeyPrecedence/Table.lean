/-!
Finite maps that keep the order in which their keys came. Replacing a value keeps the key's place;
a key that was removed comes back at the end.
-/

namespace KeyPrecedence

structure Table (κ α : Type) where
  entries : List (κ × α) := []
  deriving Repr

namespace Table

variable {κ α : Type} [DecidableEq κ]

instance : Inhabited (Table κ α) := ⟨{}⟩

def find? (table : Table κ α) (key : κ) : Option α :=
  (table.entries.find? (·.1 = key)).map (·.2)

def contains (table : Table κ α) (key : κ) : Bool := (table.find? key).isSome

def keys (table : Table κ α) : List κ := table.entries.map (·.1)

def place (key : κ) (value : α) : List (κ × α) → List (κ × α)
  | [] => [(key, value)]
  | (k, v) :: rest => if k = key then (key, value) :: rest else (k, v) :: place key value rest

def insert (table : Table κ α) (key : κ) (value : α) : Table κ α :=
  ⟨place key value table.entries⟩

def erase (table : Table κ α) (key : κ) : Table κ α :=
  ⟨table.entries.filter (·.1 ≠ key)⟩

def ofList (pairs : List (κ × α)) : Table κ α :=
  pairs.foldl (fun table (key, value) => table.insert key value) {}

theorem find?_insert (table : Table κ α) (key other : κ) (value : α) :
    (table.insert key value).find? other =
      if key = other then some value else table.find? other := by
  obtain ⟨entries⟩ := table
  induction entries with
  | nil => by_cases h : key = other <;> simp [find?, insert, place, h]
  | cons entry rest ih =>
    obtain ⟨k, v⟩ := entry
    simp only [find?, insert, place] at ih ⊢
    by_cases hk : k = key
    · by_cases h : key = other <;> simp [hk, h]
    · by_cases h : k = other
      · subst h
        simp [hk, Ne.symm hk]
      · simpa [hk, h] using ih

theorem find?_erase (table : Table κ α) (key other : κ) :
    (table.erase key).find? other = if key = other then none else table.find? other := by
  obtain ⟨entries⟩ := table
  induction entries with
  | nil => simp [find?, erase]
  | cons entry rest ih =>
    obtain ⟨k, v⟩ := entry
    simp only [find?, erase] at ih ⊢
    by_cases hk : k = key
    · subst hk
      by_cases h : k = other
      · simp [h]
      · simpa [h] using ih
    · by_cases h : k = other
      · subst h
        simp [hk, Ne.symm hk]
      · simpa [hk, h] using ih

/-- Writing what is there already changes nothing, the order included. -/
theorem insert_of_find? {table : Table κ α} {key : κ} {value : α}
    (h : table.find? key = some value) : table.insert key value = table := by
  obtain ⟨entries⟩ := table
  induction entries with
  | nil => cases h
  | cons entry rest ih =>
    obtain ⟨k, v⟩ := entry
    by_cases hk : k = key
    · obtain rfl : v = value := by simpa [find?, hk] using h
      simp [insert, place, hk]
    · have later : (⟨rest⟩ : Table κ α).find? key = some value := by simpa [find?, hk] using h
      have same := ih later
      simp only [insert, Table.mk.injEq] at same ⊢
      simp [place, hk, same]

theorem erase_of_find? {table : Table κ α} {key : κ} (h : table.find? key = none) :
    table.erase key = table := by
  obtain ⟨entries⟩ := table
  have absent : ∀ entry ∈ entries, entry.1 ≠ key := by simpa [find?] using h
  simpa [erase] using absent

end Table
end KeyPrecedence
