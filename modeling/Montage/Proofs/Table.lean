import Mathlib.Data.List.Nodup
import Montage.Table

/-!
# Tables as maps

A table is a map from names to values. What is written or erased changes the value of that name
alone, and a table that is merged into another is written over it (`Table.get?_merge`). A table
extends another if every name of the other stands for the same in both (`Table.Extends`).

Entries of distinct names make the table that has them (`Table.ofEntries_entries`), so a table can be
read back from what is written of it.
-/

namespace Montage

/-! ## Entries -/

namespace Entries

variable {α : Type} {entries first second : Entries α} {entry : String × α} {name : String}
  {value : α}

/-- A name that is not among the names of a table stands for nothing. -/
theorem get?_eq_none (h : name ∉ names entries) : get? name entries = none := by
  rw [Option.eq_none_iff_forall_ne_some]
  intro value hvalue
  exact h (List.mem_map_of_mem (mem_of_get? hvalue))

/-- Where names are distinct, the entries are what the names stand for. -/
theorem mem_iff (h : (names entries).Nodup) :
    (name, value) ∈ entries ↔ get? name entries = some value := by
  refine ⟨fun hmem => ?_, mem_of_get?⟩
  induction entries with
  | nil => cases hmem
  | cons written rest ih =>
    obtain ⟨key, old⟩ := written
    obtain ⟨hnew, hrest⟩ := List.nodup_cons.mp h
    rw [get?]
    rcases List.mem_cons.mp hmem with hfirst | hmem
    · -- the entry asked for is the first one, or behind a first one of another name
      cases hfirst
      exact if_pos rfl
    · rw [if_neg, ih hrest hmem]
      rintro rfl
      exact hnew (List.mem_map.mpr ⟨_, hmem, rfl⟩)

/-! ### Merging -/

/-- Merged entries are among those of the two. -/
theorem mem_merge (h : entry ∈ merge first second) : entry ∈ first ∨ entry ∈ second := by
  induction second generalizing first with
  | nil => exact .inl h
  | cons written rest ih =>
    rcases ih h with hinsert | hrest
    · rcases mem_insert hinsert with rfl | hfirst
      · exact .inr List.mem_cons_self
      · exact .inl hfirst
    · exact .inr (List.mem_cons_of_mem _ hrest)

/-- In a merge the names of the second table stand for what they do there. -/
theorem get?_merge (h : (names second).Nodup) (name : String) :
    get? name (merge first second) = (get? name second).or (get? name first) := by
  induction second generalizing first with
  | nil => rfl
  | cons written rest ih =>
    obtain ⟨key, value⟩ := written
    obtain ⟨hnew, hrest⟩ := List.nodup_cons.mp h
    show get? name (merge (insert key value first) rest) = _
    rw [ih hrest, get?_insert, get?]
    by_cases hname : key = name
    · rw [if_pos hname, if_pos hname, ← hname, get?_eq_none hnew]
      rfl
    · rw [if_neg hname, if_neg hname]

/-- A value with a new name is written at the end. -/
theorem insert_eq_append (h : name ∉ names entries) (value : α) :
    insert name value entries = entries ++ [(name, value)] := by
  induction entries with
  | nil => rfl
  | cons written rest ih =>
    obtain ⟨key, old⟩ := written
    rw [names_cons, List.mem_cons, not_or] at h
    rw [insert, if_neg (Ne.symm h.1), ih h.2, List.cons_append]

/-- Entries of new names are written one after the other at the end. -/
theorem merge_eq_append (h : (names (first ++ second)).Nodup) :
    merge first second = first ++ second := by
  induction second generalizing first with
  | nil => exact (List.append_nil first).symm
  | cons written rest ih =>
    obtain ⟨key, value⟩ := written
    have hsplit : first ++ (key, value) :: rest = first ++ [(key, value)] ++ rest := by simp
    have hnew : key ∉ names first := by
      rw [names, List.map_append, List.nodup_append] at h
      exact fun hkey => h.2.2 key hkey key List.mem_cons_self rfl
    show merge (insert key value first) rest = _
    rw [insert_eq_append hnew]
    rw [hsplit] at h ⊢
    exact ih h

/-- Without the entries of a name, that name stands for nothing and the others for what they did. -/
theorem get?_filter_ne (name key : String) (entries : Entries α) :
    get? key (entries.filter fun (other, _) => other ≠ name) =
      if name = key then none else get? key entries := by
  induction entries with
  | nil => simp [get?]
  | cons written rest ih =>
    obtain ⟨first, old⟩ := written
    rw [List.filter_cons]
    -- a name is asked for that was taken out, or another one
    by_cases hfirst : first = name
    · subst hfirst
      rw [if_neg (by simp), ih, get?]
      split <;> rfl
    · rw [if_pos (by simpa using hfirst), get?, get?, ih]
      by_cases hkey : first = key
      · rw [if_pos hkey, if_pos hkey, if_neg (fun hname => hfirst (hkey.trans hname.symm))]
      · rw [if_neg hkey, if_neg hkey]

end Entries

/-! ## Tables -/

namespace Table

variable {α : Type} {first second table : Table α} {name : String} {value : α} {entry : String × α}

/-- The entries of a table are what its names stand for. -/
theorem mem_iff : (name, value) ∈ table ↔ get? name table = some value :=
  Entries.mem_iff table.distinct

/-- A merged table has no entries but those of the two. -/
theorem mem_merge (h : entry ∈ merge first second) : entry ∈ first ∨ entry ∈ second :=
  Entries.mem_merge h

/-- The entries that are given are the only ones. -/
theorem mem_ofEntries {entries : Entries α} (h : entry ∈ ofEntries entries) : entry ∈ entries :=
  (Entries.mem_merge h).resolve_left List.not_mem_nil

/-- The entries of a table make the same table again. -/
theorem ofEntries_entries (table : Table α) : ofEntries table.entries = table := by
  obtain ⟨entries, hdistinct⟩ := table
  rw [ofEntries, Table.mk.injEq]
  exact Entries.merge_eq_append hdistinct

theorem get?_erase (name key : String) (table : Table α) :
    get? key (erase name table) = if name = key then none else get? key table :=
  Entries.get?_filter_ne name key table.entries

/-- **In a merged table** a name stands for what the second table says, and else the first. -/
theorem get?_merge (first second : Table α) (name : String) :
    get? name (merge first second) = (get? name second).or (get? name first) :=
  Entries.get?_merge second.distinct name

/-! ### Extension -/

/-- A table extends another: what a name stands for in the other, it stands for in the table. -/
def Extends (table other : Table α) : Prop :=
  ∀ name value, get? name other = some value → get? name table = some value

/-- A table with a new name extends the one without it. -/
theorem insert_extends (h : get? name table = none) (value : α) :
    (insert name value table).Extends table := by
  intro key other hother
  rw [get?_insert, if_neg, hother]
  rintro rfl
  rw [h] at hother
  cases hother

end Table

end Montage
