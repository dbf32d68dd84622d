import Mathlib.Data.List.Forall2
import Mathlib.Data.Nat.Notation
import Montage.Failure

/-!
# Lists that are related item by item

Facts about lists of equal length whose items correspond to each other, as the results of a
traversal correspond to the items it went through. A traversal is a sequence of computations that
may fail, and so are most operations on a composition: what such a sequence does is said first.
-/

namespace Montage

/-! ## Sequences of computations -/

section Sequences

variable {α β : Type} {x : Except Failure α} {f : α → Except Failure β}

/-- A sequence succeeds when both parts do. -/
theorem bind_eq_ok_iff {result : β} :
    (x >>= f) = .ok result ↔ ∃ value, x = .ok value ∧ f value = .ok result := by
  cases x <;> simp [bind, Except.bind]

/-- A sequence fails in its first part, or in what comes after the first part. -/
theorem bind_eq_error_iff {failure : Failure} :
    (x >>= f) = .error failure ↔
      x = .error failure ∨ ∃ value, x = .ok value ∧ f value = .error failure := by
  cases x <;> simp [bind, Except.bind]

theorem map_eq_error_iff {g : α → β} {failure : Failure} :
    x.map g = .error failure ↔ x = .error failure := by
  cases x <;> simp [Except.map]

end Sequences

/-! ## The first failure -/

/-- The first item of a list that fails does so with a failure. -/
def FirstFailure {α : Type} (fails : α → Failure → Prop) (items : List α) (failure : Failure) :
    Prop :=
  ∃ before item after, items = before ++ item :: after ∧
    (∀ other ∈ before, ∀ another, ¬fails other another) ∧ fails item failure

section FirstFailure

variable {α β : Type} {fails : α → Failure → Prop} {failure : Failure}

theorem not_firstFailure_nil : ¬FirstFailure fails [] failure := by
  rintro ⟨before, item, after, hitems, -⟩
  simp at hitems

/-- Either the first item fails, or it does not and the first of the others does. -/
theorem firstFailure_cons_iff {item : α} {rest : List α} :
    FirstFailure fails (item :: rest) failure ↔
      fails item failure ∨ (∀ another, ¬fails item another) ∧ FirstFailure fails rest failure := by
  -- the first failure is that of the head, or all the head's failures are ruled out
  constructor
  · rintro ⟨before, found, after, hitems, hbefore, hfails⟩
    cases before with
    | nil =>
      cases hitems
      exact .inl hfails
    | cons first before =>
      obtain ⟨rfl, rfl⟩ := List.cons.inj hitems
      obtain ⟨hfirst, hbefore⟩ := List.forall_mem_cons.mp hbefore
      exact .inr ⟨hfirst, before, found, after, rfl, hbefore, hfails⟩
  · rintro (hfails | ⟨hfirst, before, found, after, rfl, hbefore, hfails⟩)
    · exact ⟨[], item, rest, rfl, by simp, hfails⟩
    · exact ⟨item :: before, found, after, rfl, List.forall_mem_cons.mpr ⟨hfirst, hbefore⟩, hfails⟩

/-- Some item fails first as soon as any item fails. -/
theorem exists_firstFailure_iff {items : List α} :
    (∃ failure, FirstFailure fails items failure) ↔
      ∃ item ∈ items, ∃ failure, fails item failure := by
  induction items with
  | nil => simp [not_firstFailure_nil]
  | cons item rest ih =>
    simp only [firstFailure_cons_iff, exists_or, exists_and_left, ih, List.exists_mem_cons_iff]
    by_cases hitem : ∃ failure, fails item failure
    · simp [hitem]
    · simp [not_exists.mp hitem]

/-- A first failure is the failure of some item. -/
theorem FirstFailure.exists_mem {items : List α} (h : FirstFailure fails items failure) :
    ∃ item ∈ items, fails item failure := by
  obtain ⟨before, item, after, rfl, -, hfails⟩ := h
  exact ⟨item, by simp, hfails⟩

theorem firstFailure_congr {others : α → Failure → Prop} {items : List α}
    (h : ∀ item ∈ items, ∀ another, fails item another ↔ others item another) :
    FirstFailure fails items failure ↔ FirstFailure others items failure := by
  induction items with
  | nil => simp only [not_firstFailure_nil]
  | cons item rest ih =>
    obtain ⟨hitem, hrest⟩ := List.forall_mem_cons.mp h
    simp only [firstFailure_cons_iff, hitem, ih hrest]

/-- What fails as the first item of a list that fails succeeds when none of them fails. -/
theorem exists_ok_iff_forall {x : Except Failure β} {items : List α}
    (hx : ∀ failure, x = .error failure ↔ FirstFailure fails items failure) :
    (∃ value, x = .ok value) ↔ ∀ item ∈ items, ∀ failure, ¬fails item failure := by
  have herror : (∃ failure, x = .error failure) ↔
      ∃ item ∈ items, ∃ failure, fails item failure := by
    simp only [hx, exists_firstFailure_iff]
  have hitems : (∀ item ∈ items, ∀ failure, ¬fails item failure) ↔
      ¬∃ failure, x = .error failure := by
    rw [herror]
    simp only [not_exists, not_and]
  rw [hitems]
  cases x <;> simp

/-- A traversal fails as the first item that fails. -/
theorem mapM_eq_error_iff {f : α → Except Failure β} {items : List α}
    (hf : ∀ item ∈ items, ∀ failure, f item = .error failure ↔ fails item failure) :
    items.mapM f = .error failure ↔ FirstFailure fails items failure := by
  induction items with
  | nil => simp [not_firstFailure_nil, pure, Except.pure]
  | cons item rest ih =>
    obtain ⟨hitem, hrest⟩ := List.forall_mem_cons.mp hf
    have hok : (∃ value, f item = .ok value) ↔ ∀ another, ¬fails item another := by
      simp only [← hitem]
      cases f item <;> simp
    rw [List.mapM_cons, bind_eq_error_iff, firstFailure_cons_iff, hitem, ← ih hrest, ← hok]
    simp only [bind_eq_error_iff, pure, Except.pure, reduceCtorEq, and_false, exists_const,
      or_false, exists_and_right]

/-- A traversal fails for one of the items. -/
theorem exists_of_mapM_eq_error {f : α → Except Failure β} {items : List α}
    (h : items.mapM f = .error failure) : ∃ item ∈ items, f item = .error failure :=
  ((mapM_eq_error_iff fun _ _ _ => Iff.rfl).mp h).exists_mem

/-- Steps that fail whatever comes before them fail as the first that does. -/
theorem foldlM_eq_error_iff {step : β → α → Except Failure β} {items : List α}
    (hstep : ∀ item ∈ items, ∀ state failure, step state item = .error failure ↔ fails item failure)
    (start : β) : items.foldlM step start = .error failure ↔ FirstFailure fails items failure := by
  induction items generalizing start with
  | nil => simp [not_firstFailure_nil, pure, Except.pure]
  | cons item rest ih =>
    obtain ⟨hitem, hrest⟩ := List.forall_mem_cons.mp hstep
    have hok : (∃ value, step start item = .ok value) ↔ ∀ another, ¬fails item another := by
      simp only [← hitem start]
      cases step start item <;> simp
    rw [List.foldlM_cons, bind_eq_error_iff, firstFailure_cons_iff, hitem, ← hok]
    simp only [ih hrest, exists_and_right]

end FirstFailure

/-! ## Correspondence -/

/-- A traversal succeeds when each item does. -/
theorem mapM_eq_ok_iff {α β : Type} (f : α → Except Failure β) (items : List α)
    (values : List β) :
    items.mapM f = .ok values ↔
      List.Forall₂ (fun item value => f item = .ok value) items values := by
  induction items generalizing values with
  | nil => cases values <;> simp [pure, Except.pure]
  | cons item rest ih =>
    rw [List.mapM_cons, List.forall₂_cons_left_iff]
    simp only [bind_eq_ok_iff, ih, pure, Except.pure, Except.ok.injEq]
    constructor
    · rintro ⟨value, hvalue, others, hothers, rfl⟩
      exact ⟨value, others, hvalue, hothers, rfl⟩
    · rintro ⟨value, others, hvalue, hothers, rfl⟩
      exact ⟨value, hvalue, others, hothers, rfl⟩

/-- A relation on an appended list is one on each of its parts. -/
theorem forall₂_append_left_iff {α β : Type} {R : α → β → Prop} {first second : List α}
    {values : List β} :
    List.Forall₂ R (first ++ second) values ↔
      ∃ us vs, List.Forall₂ R first us ∧ List.Forall₂ R second vs ∧ values = us ++ vs := by
  induction first generalizing values with
  | nil => simp
  | cons item rest ih =>
    simp only [List.cons_append, List.forall₂_cons_left_iff, ih]
    constructor
    · rintro ⟨value, _, hvalue, ⟨us, vs, hus, hvs, rfl⟩, rfl⟩
      exact ⟨value :: us, vs, ⟨value, us, hvalue, hus, rfl⟩, hvs, rfl⟩
    · rintro ⟨_, vs, ⟨value, us, hvalue, hus, rfl⟩, hvs, rfl⟩
      exact ⟨value, us ++ vs, hvalue, ⟨us, vs, hus, hvs, rfl⟩, rfl⟩

theorem exists_forall₂ {α β : Type} {R : α → β → Prop} {items : List α}
    (h : ∀ item ∈ items, ∃ value, R item value) : ∃ values, List.Forall₂ R items values := by
  induction items with
  | nil => exact ⟨[], .nil⟩
  | cons item rest ih =>
    obtain ⟨⟨value, hvalue⟩, hrest⟩ := List.forall_mem_cons.mp h
    obtain ⟨values, hvalues⟩ := ih hrest
    exact ⟨value :: values, .cons hvalue hvalues⟩

theorem exists_mem_of_forall₂ {α β : Type} {R : α → β → Prop} {items : List α} {values : List β}
    (h : List.Forall₂ R items values) {value : β} (hvalue : value ∈ values) :
    ∃ item ∈ items, R item value := by
  induction h with
  | nil => simp at hvalue
  | cons hfirst _ ih =>
    rcases List.mem_cons.mp hvalue with rfl | hvalue
    · exact ⟨_, by simp, hfirst⟩
    · obtain ⟨item, hitem, hof⟩ := ih hvalue
      exact ⟨item, List.mem_cons_of_mem _ hitem, hof⟩

/-- To an item at a place corresponds the value at that place. -/
theorem exists_getElem?_of_forall₂ {α β : Type} {R : α → β → Prop} {items : List α}
    {values : List β} (h : List.Forall₂ R items values) {place : ℕ} {item : α}
    (hitem : items[place]? = some item) : ∃ value, values[place]? = some value ∧ R item value := by
  induction h generalizing place with
  | nil => simp at hitem
  | cons hfirst _ ih =>
    cases place with
    | zero =>
      cases hitem
      exact ⟨_, rfl, hfirst⟩
    | succ place => exact ih hitem

/-- Two relations along lists are composed item by item. -/
theorem forall₂_trans {α β γ : Type} {P : α → β → Prop} {Q : β → γ → Prop} {R : α → γ → Prop}
    (h : ∀ a b c, P a b → Q b c → R a c) {as : List α} {bs : List β} {cs : List γ}
    (hfirst : List.Forall₂ P as bs) (hsecond : List.Forall₂ Q bs cs) : List.Forall₂ R as cs := by
  induction hfirst generalizing cs with
  | nil =>
    cases hsecond
    exact .nil
  | cons hab _ ih =>
    cases hsecond with
    | cons hbc hrest => exact .cons (h _ _ _ hab hbc) (ih hrest)

/-! ## Splits -/

/-- A list with a last item is split at that item or before it. -/
theorem concat_eq_append_cons {α : Type} {items before after : List α} {last item : α}
    (h : items ++ [last] = before ++ item :: after) :
    items = before ∧ last = item ∧ after = [] ∨
      ∃ rest, after = rest ++ [last] ∧ items = before ++ item :: rest := by
  rcases List.eq_nil_or_concat' after with rfl | ⟨rest, other, rfl⟩
  · obtain ⟨hitems, hlast⟩ := List.append_inj' h rfl
    exact .inl ⟨hitems, List.singleton_inj.mp hlast, rfl⟩
  · rw [← List.cons_append, ← List.append_assoc] at h
    obtain ⟨hitems, hlast⟩ := List.append_inj' h rfl
    exact .inr ⟨rest, by rw [List.singleton_inj.mp hlast], hitems⟩

/-! ## Selection -/

/-- A selection by a test, followed by a function, keeps the order. -/
theorem filterMap_eq_map_filter {α β : Type} {f : α → Option β} {p : α → Bool} {g : α → β}
    (h : ∀ item, f item = if p item then some (g item) else none) (items : List α) :
    items.filterMap f = (items.filter p).map g := by
  induction items with
  | nil => rfl
  | cons item rest ih =>
    rw [List.filterMap_cons, h, ih]
    by_cases hitem : p item <;> simp [hitem]

/-- A selection from a list whose items are all selected corresponds to what the list does. -/
theorem forall₂_filterMap {α β γ : Type} {R : α → γ → Prop} {f : β → Option γ} {items : List α}
    {others : List β}
    (h : List.Forall₂ (fun item other => ∃ value, f other = some value ∧ R item value)
      items others) : List.Forall₂ R items (others.filterMap f) := by
  induction h with
  | nil => exact .nil
  | cons hfirst _ ih =>
    obtain ⟨value, hvalue, hof⟩ := hfirst
    rw [List.filterMap_cons_some hvalue]
    exact .cons hof ih

section Place

variable {α : Type} {items : List α} {place : ℕ} {item : α} {chosen : α → Bool}

/-- An item that is chosen comes after those that are chosen before it. -/
theorem getElem?_filter_of_chosen (hitem : items[place]? = some item) (hchosen : chosen item) :
    (items.filter chosen)[(items.take place).countP chosen]? = some item := by
  obtain ⟨hlt, rfl⟩ := List.getElem?_eq_some_iff.mp hitem
  have hfilter : items.filter chosen = (items.take place).filter chosen ++
      items[place] :: (items.drop (place + 1)).filter chosen := by
    conv_lhs => rw [← List.take_append_drop place items, List.drop_eq_getElem_cons hlt]
    rw [List.filter_append, List.filter_cons_of_pos hchosen]
  rw [hfilter, List.countP_eq_length_filter, List.getElem?_append_right (Nat.le_refl _),
    Nat.sub_self]
  rfl

/-- A choice that leaves an item out is the same without that item. -/
theorem filter_eraseIdx_of_not_chosen (hitem : items[place]? = some item) (hchosen : ¬chosen item) :
    (items.eraseIdx place).filter chosen = items.filter chosen := by
  obtain ⟨hlt, rfl⟩ := List.getElem?_eq_some_iff.mp hitem
  conv_rhs => rw [← List.take_append_drop place items, List.drop_eq_getElem_cons hlt]
  rw [List.eraseIdx_eq_take_drop_succ, List.filter_append, List.filter_append,
    List.filter_cons_of_neg hchosen]

end Place

/-- A choice from a numbered list is the choice from the list, each item with its own number. -/
theorem forall₂_zipIdx_filter {α : Type} (items : List α) (first : ℕ) (chosen : α → Bool) :
    List.Forall₂ (fun item entry => entry ∈ items.zipIdx first ∧ entry.1 = item ∧ chosen item)
      (items.filter chosen) ((items.zipIdx first).filter fun entry => chosen entry.1) := by
  have hfst : items.filter chosen =
      ((items.zipIdx first).filter fun entry => chosen entry.1).map Prod.fst := by
    conv_lhs => rw [← List.zipIdx_map_fst first items, List.filter_map]
    rfl
  rw [hfst, List.forall₂_map_left_iff, List.forall₂_same]
  intro entry hentry
  obtain ⟨hmem, hchosen⟩ := List.mem_filter.mp hentry
  exact ⟨hmem, rfl, hchosen⟩

end Montage
