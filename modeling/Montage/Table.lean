/-!
# Tables by name

`Entries` are named values in the order in which the names first came, as an object in a document
has them. A value that is written again takes the place of the one before. Reading looks only at the
first entry of a name, and the operations never make a second one.

A `Table` consists of entries that have no name twice. It is made from an empty one by writing,
merging and erasing, so it is a map from names to values.
-/

namespace Montage

/-! ## Entries -/

/-- Values by name, in the order of the names' first arrival. -/
abbrev Entries (α : Type) := List (String × α)

namespace Entries

variable {α : Type}

/-- The value of a name. -/
def get? (name : String) : Entries α → Option α
  | [] => none
  | (key, value) :: rest => if key = name then some value else get? name rest

/-- The entries with a value written under a name. -/
def insert (name : String) (value : α) : Entries α → Entries α
  | [] => [(name, value)]
  | (key, old) :: rest =>
    if key = name then (key, value) :: rest else (key, old) :: insert name value rest

/-- The first entries with the second written over them. -/
def merge (first second : Entries α) : Entries α :=
  second.foldl (fun entries (name, value) => insert name value entries) first

/-- The names, each as often as it has an entry. -/
def names (entries : Entries α) : List String :=
  entries.map Prod.fst

/-! ### Writing and reading -/

variable {entries first second : Entries α} {entry : String × α} {name : String} {value : α}

/-- A value that is written is read under its name, and all other names stand for what they did. -/
theorem get?_insert (name key : String) (value : α) (entries : Entries α) :
    get? key (insert name value entries) = if name = key then some value else get? key entries := by
  induction entries with
  | nil => simp [insert, get?]
  | cons entry rest ih =>
    obtain ⟨first, old⟩ := entry
    simp only [insert]
    split
    · rename_i h
      subst h
      simp only [get?]
      split <;> rfl
    · simp only [get?, ih]
      split <;> split <;> simp_all

theorem mem_insert (h : entry ∈ insert name value entries) :
    entry = (name, value) ∨ entry ∈ entries := by
  induction entries with
  | nil => exact .inl (List.mem_singleton.mp h)
  | cons written rest ih =>
    obtain ⟨key, old⟩ := written
    rw [insert] at h
    -- either the name is found here, or the rest is written to
    split at h
    · rename_i hkey
      subst hkey
      rcases List.mem_cons.mp h with rfl | hrest
      · exact .inl rfl
      · exact .inr (List.mem_cons_of_mem _ hrest)
    · rcases List.mem_cons.mp h with rfl | hrest
      · exact .inr List.mem_cons_self
      · exact (ih hrest).imp_right (List.mem_cons_of_mem _)

theorem mem_of_get? (h : get? name entries = some value) : (name, value) ∈ entries := by
  induction entries with
  | nil => cases h
  | cons written rest ih =>
    obtain ⟨key, old⟩ := written
    rw [get?.eq_def] at h
    dsimp only at h
    split at h
    · rename_i hkey
      cases h
      rw [hkey]
      exact List.mem_cons_self
    · exact List.mem_cons_of_mem _ (ih h)

/-! ### Names -/

theorem names_cons (name : String) (value : α) (rest : Entries α) :
    names ((name, value) :: rest) = name :: names rest := rfl

/-- A value is written in the place of its name, or at the end when the name is new. -/
theorem names_insert (name : String) (value : α) (entries : Entries α) :
    names (insert name value entries) =
      if name ∈ names entries then names entries else names entries ++ [name] := by
  induction entries with
  | nil => rfl
  | cons written rest ih =>
    obtain ⟨key, old⟩ := written
    rw [insert, names_cons]
    by_cases hkey : key = name
    · rw [if_pos hkey, names_cons, if_pos (by simp [hkey])]
    · have hmem : name ∈ key :: names rest ↔ name ∈ names rest := by simp [Ne.symm hkey]
      rw [if_neg hkey, names_cons, ih]
      simp only [hmem]
      split <;> rfl

theorem nodup_insert (h : (names entries).Nodup) (name : String) (value : α) :
    (names (insert name value entries)).Nodup := by
  rw [names_insert]
  split
  · exact h
  · rename_i hnew
    refine List.nodup_append.mpr ⟨h, by simp, fun key hkey other hother => ?_⟩
    rw [List.mem_singleton.mp hother]
    rintro rfl
    exact hnew hkey

/-- A merge writes one value after the other, so it makes no second entry either. -/
theorem nodup_merge (h : (names first).Nodup) : (names (merge first second)).Nodup := by
  induction second generalizing first with
  | nil => exact h
  | cons written rest ih => exact ih (nodup_insert h written.1 written.2)

end Entries

/-! ## Tables -/

/-- Values by name. -/
structure Table (α : Type) where
  entries : Entries α
  /-- No name has two entries. -/
  distinct : (Entries.names entries).Nodup
deriving Repr

namespace Table

variable {α : Type}

instance : Membership (String × α) (Table α) where
  mem table entry := entry ∈ table.entries

/-- A table without entries. -/
def empty : Table α where
  entries := []
  distinct := .nil

/-- The value of a name. -/
def get? (name : String) (table : Table α) : Option α :=
  Entries.get? name table.entries

/-- The table with a value written under a name. -/
def insert (name : String) (value : α) (table : Table α) : Table α where
  entries := Entries.insert name value table.entries
  distinct := Entries.nodup_insert table.distinct name value

/-- The first table with the entries of the second written over it. -/
def merge (first second : Table α) : Table α where
  entries := Entries.merge first.entries second.entries
  distinct := Entries.nodup_merge first.distinct

/-- The table that entries make when they are written one after the other. -/
def ofEntries (entries : Entries α) : Table α where
  entries := Entries.merge [] entries
  distinct := Entries.nodup_merge .nil

/-- The table without a name. -/
def erase (name : String) (table : Table α) : Table α where
  entries := table.entries.filter fun (key, _) => key ≠ name
  distinct := (List.filter_sublist.map Prod.fst).nodup table.distinct

theorem get?_insert (name key : String) (value : α) (table : Table α) :
    get? key (insert name value table) = if name = key then some value else get? key table :=
  Entries.get?_insert name key value table.entries

variable {table : Table α} {entry : String × α} {name : String} {value : α}

theorem mem_insert (h : entry ∈ insert name value table) : entry = (name, value) ∨ entry ∈ table :=
  Entries.mem_insert h

@[simp]
theorem not_mem_empty (entry : String × α) : entry ∉ (empty : Table α) :=
  List.not_mem_nil

/-- What a name stands for is among the entries. -/
theorem mem_of_get? (h : get? name table = some value) : (name, value) ∈ table :=
  Entries.mem_of_get? h

end Table

end Montage
