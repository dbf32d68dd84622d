import Mathlib.Data.Int.Notation
import Mathlib.Data.Nat.Notation
import Montage.Proofs.Schema.Valid

/-!
# Reading back what has been written

A reader restores a value from the data that was written for it (`Restores`) when it gives the value
back after all null fields of the data, at every depth, have been left out. What is written for a
field is read back from the record by its name alone, wherever it stands among the fields
(`get?_dropNullsFields`). A field that was null is missing then, and has its default: so null may be
written only for the absent value of a field that may be absent (`Kept.option`).
-/

namespace Montage

variable {α β : Type}

/-! ## Fields without nulls -/

namespace Data

/-- What is left of the value of a field when nulls are left out. -/
def kept? : Data → Option Data
  | null => none
  | other => some other.dropNulls

theorem kept?_of_ne_null {d : Data} (h : d ≠ null) : d.kept? = some d.dropNulls := by
  cases d
  case null => exact absurd rfl h
  all_goals rfl

/-- Dropping what is null makes nothing null. -/
theorem dropNulls_ne_null {d : Data} (h : d ≠ null) : d.dropNulls ≠ null := by
  cases d
  case null => exact absurd rfl h
  all_goals simp [dropNulls]

theorem dropNullsFields_cons (name : String) (d : Data) (rest : Entries Data) :
    dropNullsFields ((name, d) :: rest) =
      (d.kept?.map fun value => (name, value)).toList ++ dropNullsFields rest := by
  cases d <;> rfl

/-- Leaving out nulls and looking only at one name may be done in either order. -/
theorem filter_dropNullsFields (name : String) (fields : Entries Data) :
    (dropNullsFields fields).filter (fun field => field.1 = name) =
      dropNullsFields (fields.filter fun field => field.1 = name) := by
  induction fields with
  | nil => rfl
  | cons field rest ih =>
    obtain ⟨key, d⟩ := field
    rw [dropNullsFields_cons, List.filter_append, ih, List.filter_cons]
    by_cases hkey : key = name
    · rw [if_pos (by simpa using hkey), dropNullsFields_cons]
      cases d.kept? <;> simp [hkey]
    · rw [if_neg (by simpa using hkey)]
      cases d.kept? <;> simp [hkey]

end Data

/-- What a name stands for is the value of its first entry. -/
theorem Entries.get?_eq_head?_filter (name : String) (entries : Entries α) :
    get? name entries = (entries.filter fun entry => entry.1 = name).head?.map Prod.snd := by
  induction entries with
  | nil => rfl
  | cons entry rest ih =>
    obtain ⟨key, value⟩ := entry
    rw [get?, List.filter_cons, ih]
    by_cases hkey : key = name <;> simp [hkey]

/-- Without nulls, the only value of a name is there unless it is null. -/
theorem get?_dropNullsFields {fields : Entries Data} {name : String} {d : Data}
    (h : (fields.filter fun field => field.1 = name) = [(name, d)]) :
    Entries.get? name (Data.dropNullsFields fields) = d.kept? := by
  rw [Entries.get?_eq_head?_filter, Data.filter_dropNullsFields, h, Data.dropNullsFields_cons]
  cases d.kept? <;> rfl

namespace Checked

theorem map_eq_ok {x : Checked α} {value : α} (f : α → β) (hx : x = .ok value) :
    f <$> x = .ok (f value) := by
  rw [hx]
  rfl

theorem seq_eq_ok {f : Checked (α → β)} {g : α → β} {x : Checked α} {value : α} (hf : f = .ok g)
    (hx : x = .ok value) : f <*> x = .ok (g value) := by
  rw [hf, hx]
  rfl

theorem demand_eq_ok {x : Checked α} {value : α} {check : α → Bool} {cause : Cause}
    (hx : x = .ok value) (hcheck : check value = true) : x.demand check cause = .ok value := by
  rw [hx]
  exact if_pos hcheck

end Checked

namespace Schema

/-! ## Restored values -/

/-- A reader gives a value back from what was written for it, nulls left out. -/
structure Restores (reader : Data → Checked α) (written : Data) (value : α) : Prop where
  ne_null : written ≠ .null
  read : reader written.dropNulls = .ok value

/-- Fields of which the null ones were left out, with nulls left out inside the others. -/
def Kept (written fields : Entries Data) : Prop :=
  ∀ name d, (written.filter fun field => field.1 = name) = [(name, d)] →
    Entries.get? name fields = d.kept?

/-- A record is restored when its fields are, which are read by their names only. -/
theorem Restores.record {name : String} {reader : Entries Data → Checked α} {written : Entries Data}
    {value : α} (h : ∀ fields, Kept written fields → reader fields = .ok value) :
    Restores (record name reader) (.object written) value where
  ne_null := nofun
  read := h _ fun _ _ => get?_dropNullsFields

namespace Kept

variable {written fields : Entries Data} {reader : Data → Checked α} {value : α} {d : Data}

theorem field (h : Kept written fields) (name : String)
    (hname : (written.filter fun field => field.1 = name) = [(name, d)])
    (hvalue : Restores reader d value) : field fields name reader = .ok value := by
  rw [Schema.field, h name d hname, Data.kept?_of_ne_null hvalue.ne_null]
  show (reader d.dropNulls).under _ = _
  rw [hvalue.read]
  rfl

/-- The default does not matter when the field was written. -/
theorem fieldOr (h : Kept written fields) (name : String) (default : α)
    (hname : (written.filter fun field => field.1 = name) = [(name, d)])
    (hvalue : Restores reader d value) : fieldOr fields name default reader = .ok value := by
  rw [Schema.fieldOr, h name d hname, Data.kept?_of_ne_null hvalue.ne_null]
  show (reader d.dropNulls).under _ = _
  rw [hvalue.read]
  rfl

/-- An absent value is written as null, left out, and absent again. -/
theorem option (h : Kept written fields) (name : String) {write : α → Data} {value : Option α}
    (hname : (written.filter fun field => field.1 = name) = [(name, .ofOption write value)])
    (hvalue : ∀ found ∈ value, Restores reader (write found) found) :
    fieldOption fields name reader = .ok value := by
  rcases value with _ | found
  · -- the field is null and is left out, and its default is that it is absent
    rw [fieldOption, Schema.fieldOr, h name _ hname]
    rfl
  · have hfound := hvalue found rfl
    refine h.fieldOr name none hname ⟨hfound.ne_null, ?_⟩
    have hne := Data.dropNulls_ne_null hfound.ne_null
    show optional reader (write found).dropNulls = _
    rw [optional, hfound.read]
    · rfl
    · exact fun hnull => hne hnull

/-- A kind that was written is read again. -/
theorem kind (h : Kept written fields) (kinds : List String) {kind : String}
    (hname : (written.filter fun field => field.1 = "kind") = [("kind", .text kind)])
    (hkind : kind ∈ kinds) : fieldKind fields kinds = .ok kind := by
  refine h.fieldOr "kind" _ hname ⟨nofun, ?_⟩
  exact if_pos hkind

theorem tag (h : Kept written fields) {known : List String} {kind : String}
    (hname : (written.filter fun field => field.1 = "kind") = [("kind", .text kind)])
    (hkind : kind ∈ known) : tag known fields = .ok kind := by
  rw [Schema.tag, h "kind" _ hname]
  exact if_pos hkind

end Kept

/-- A record that is told apart by its kind is restored when the reader for the kind restores it. -/
theorem Restores.variant {known : List String} {reader : String → Entries Data → Checked α}
    {written : Entries Data} {kind : String} {value : α}
    (hname : (written.filter fun field => field.1 = "kind") = [("kind", .text kind)])
    (hkind : kind ∈ known)
    (h : ∀ fields, Kept written fields → reader kind fields = .ok value) :
    Restores (variant known reader) (.object written) value where
  ne_null := nofun
  read := by
    have kept : Kept written (Data.dropNullsFields written) := fun _ _ => get?_dropNullsFields
    show (Schema.tag known (Data.dropNullsFields written)).andThen _ = _
    rw [kept.tag hname hkind]
    show (reader kind _).under _ = _
    rw [h _ kept]
    rfl

/-! ## Simple values -/

section Values

variable {n bound low high : ℤ} {x : Float} {s : String}

theorem restores_integer (n : ℤ) : Restores integer (.int n) n :=
  ⟨nofun, rfl⟩

theorem restores_integerFrom (h : bound ≤ n) : Restores (integerFrom bound) (.int n) n :=
  ⟨nofun, Checked.demand_eq_ok rfl (decide_eq_true h)⟩

theorem restores_integerWithin (h : low ≤ n ∧ n ≤ high) :
    Restores (integerWithin low high) (.int n) n :=
  ⟨nofun, Checked.demand_eq_ok (Checked.demand_eq_ok rfl (decide_eq_true h.2)) (decide_eq_true h.1)⟩

theorem restores_positive (h : 0 < n) : Restores positive (.int n) n :=
  ⟨nofun, Checked.demand_eq_ok rfl (decide_eq_true h)⟩

theorem restores_number (x : Float) : Restores number (.float x) x :=
  ⟨nofun, rfl⟩

theorem restores_numberFrom (h : Binary64.ofRatio bound 1 ≤ x) :
    Restores (numberFrom bound) (.float x) x :=
  ⟨nofun, Checked.demand_eq_ok rfl (decide_eq_true h)⟩

theorem restores_numberWithin (h : Between low high x) :
    Restores (numberWithin low high) (.float x) x :=
  ⟨nofun, Checked.demand_eq_ok (Checked.demand_eq_ok rfl (decide_eq_true h.2)) (decide_eq_true h.1)⟩

theorem restores_truth (b : Bool) : Restores truth (.bool b) b :=
  ⟨nofun, rfl⟩

theorem restores_text (s : String) : Restores text (.text s) s :=
  ⟨nofun, rfl⟩

theorem restores_nonEmptyText (h : s.isEmpty = false) : Restores nonEmptyText (.text s) s :=
  ⟨nofun, Checked.demand_eq_ok rfl (by simp [h])⟩

/-- A value that is found by its own name is restored from it. -/
theorem restores_choice {values : List α} {name : α → String} {value : α}
    (h : values.find? (fun other => name other = name value) = some value) :
    Restores (choice values name) (.text (name value)) value := by
  refine ⟨nofun, ?_⟩
  show Option.elim (values.find? _) _ _ = _
  rw [h]
  rfl

end Values

/-! ## Values made of others -/

variable {reader : Data → Checked α} {write : α → Data}

/-- The items of a list are restored one after the other, whatever their places. -/
theorem items_dropNulls {values : List α}
    (h : ∀ value ∈ values, Restores reader (write value) value) (index : ℕ) :
    items reader index (Data.dropNullsList (values.map write)) = .ok values := by
  induction values generalizing index with
  | nil => rfl
  | cons value rest ih =>
    obtain ⟨hvalue, hrest⟩ := List.forall_mem_cons.mp h
    rw [List.map_cons, Data.dropNullsList, items, hvalue.read, ih hrest]
    rfl

theorem restores_list {values : List α}
    (h : ∀ value ∈ values, Restores reader (write value) value) :
    Restores (list reader) (.ofList write values) values :=
  ⟨nofun, items_dropNulls h 0⟩

/-- The entries of a table are restored under their names. -/
theorem entries_dropNulls {values : Entries α}
    (h : ∀ entry ∈ values, Restores reader (write entry.2) entry.2) :
    entries reader (Data.dropNullsFields (values.map fun (name, value) => (name, write value))) =
      .ok values := by
  induction values with
  | nil => rfl
  | cons entry rest ih =>
    obtain ⟨hvalue, hrest⟩ := List.forall_mem_cons.mp h
    rw [List.map_cons, Data.dropNullsFields_cons, Data.kept?_of_ne_null hvalue.ne_null]
    rw [Option.map_some, Option.toList_some, List.singleton_append, entries, hvalue.read, ih hrest]
    rfl

/-- No entry of a table is left out, so the order and the number of its entries are kept. -/
theorem restores_table {values : Table α}
    (h : ∀ entry ∈ values, Restores reader (write entry.2) entry.2) :
    Restores (table reader) (.ofTable write values) values := by
  refine ⟨nofun, ?_⟩
  show Table.ofEntries <$> entries reader (Data.dropNullsFields _) = .ok values
  rw [entries_dropNulls h, Checked.map_eq_ok _ rfl, Table.ofEntries_entries]

end Schema

end Montage
