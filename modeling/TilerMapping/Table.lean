/-
Module: TilerMapping.Table
Purpose: Finite tables with one value for each key.
Main exports: Table, Table.find?, Table.insert, Table.erase, and one lookup lemma for each
-/

namespace TilerMapping

/-- A finite table.  No key has two entries; the entry written last stands first. -/
structure Table (κ ν : Type) where
  entries : List (κ × ν) := []
  nodup_keys : (entries.map Prod.fst).Nodup := by exact List.nodup_nil

namespace Table

variable {κ ν : Type}

instance : Inhabited (Table κ ν) := ⟨{}⟩

instance [Repr κ] [Repr ν] : Repr (Table κ ν) := ⟨fun table depth => reprPrec table.entries depth⟩

@[ext] theorem ext {first second : Table κ ν} (same : first.entries = second.entries) :
    first = second := by
  cases first
  cases second
  simpa using same

/-- The number of keys. -/
def size (table : Table κ ν) : Nat := table.entries.length

private theorem nodup_keys_filter {entries : List (κ × ν)} (keep : κ × ν → Bool)
    (nodup : (entries.map Prod.fst).Nodup) : ((entries.filter keep).map Prod.fst).Nodup :=
  nodup.sublist (List.filter_sublist.map Prod.fst)

variable [DecidableEq κ]

/-- The value of a key, if it has one. -/
def find? (table : Table κ ν) (key : κ) : Option ν :=
  (table.entries.find? fun entry => entry.1 = key).map Prod.snd

/-- Whether a key has a value. -/
def contains (table : Table κ ν) (key : κ) : Bool :=
  (table.find? key).isSome

/-- The table without the entry of a key. -/
def erase (table : Table κ ν) (key : κ) : Table κ ν where
  entries := table.entries.filter fun entry => entry.1 ≠ key
  nodup_keys := nodup_keys_filter _ table.nodup_keys

/-- The table in which a key has the given value, whatever it had before. -/
def insert (table : Table κ ν) (key : κ) (value : ν) : Table κ ν where
  entries := (key, value) :: (table.erase key).entries
  nodup_keys := by
    refine List.nodup_cons.mpr ⟨?_, (table.erase key).nodup_keys⟩
    intro member
    obtain ⟨entry, kept, same⟩ := List.mem_map.mp member
    have differs := (List.mem_filter.mp kept).2
    simp_all

/-! ### Lookup after each operation -/

@[simp] theorem find?_empty (key : κ) : ({} : Table κ ν).find? key = none := rfl

@[simp] theorem find?_insert_self (table : Table κ ν) (key : κ) (value : ν) :
    (table.insert key value).find? key = some value := by
  simp [find?, insert]

@[simp] theorem find?_erase_self (table : Table κ ν) (key : κ) :
    (table.erase key).find? key = none := by
  simp [find?, erase]

theorem find?_erase_of_ne (table : Table κ ν) {key other : κ} (distinct : other ≠ key) :
    (table.erase key).find? other = table.find? other := by
  unfold find? erase
  simp only
  congr 1
  induction table.entries with
  | nil => rfl
  | cons entry rest ih =>
    by_cases here : entry.1 = other
    · simp [here, distinct]
    · by_cases erased : entry.1 = key
      · simpa [here, erased, distinct.symm] using ih
      · simpa [here, erased] using ih

theorem find?_insert_of_ne (table : Table κ ν) {key other : κ} (value : ν)
    (distinct : other ≠ key) :
    (table.insert key value).find? other = table.find? other := by
  rw [← find?_erase_of_ne table distinct]
  simp [find?, insert, distinct.symm]

theorem find?_eq_none_iff {table : Table κ ν} {key : κ} :
    table.find? key = none ↔ ∀ entry ∈ table.entries, entry.1 ≠ key := by
  simp [find?, List.find?_eq_none]

/-- Erasing a key that has no value changes nothing. -/
theorem erase_of_find?_eq_none {table : Table κ ν} {key : κ} (absent : table.find? key = none) :
    table.erase key = table := by
  apply ext
  simp only [erase, List.filter_eq_self]
  intro entry member
  simpa using find?_eq_none_iff.mp absent entry member

/-- Erasing a key undoes its first insertion. -/
theorem erase_insert {table : Table κ ν} {key : κ} (value : ν)
    (absent : table.find? key = none) : (table.insert key value).erase key = table := by
  rw [← erase_of_find?_eq_none absent]
  apply ext
  simp [erase, insert]

/-- The order in which two keys are erased does not matter. -/
theorem erase_comm (table : Table κ ν) (first second : κ) :
    (table.erase first).erase second = (table.erase second).erase first := by
  apply ext
  simp only [erase, Bool.and_comm, List.filter_filter]

end Table

end TilerMapping
