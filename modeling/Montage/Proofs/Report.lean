import Montage.Report

/-!
# Results of reports

Reports are a lawful monad, and the result of a report is the same sequence of results without the
entries. These lemmas take the entries out of an operation, so that what it gives can be told without
what it tells.
-/

namespace Montage.Report

variable {α β σ : Type}

/-! ## Results -/

@[simp]
theorem result_pure (value : α) : (pure value : Report α).result = .ok value := rfl

@[simp]
theorem result_tell (entries : List Log.Entry) : (tell entries).result = .ok () := rfl

@[simp]
theorem result_liftM (result : Except Failure α) : (liftM result : Report α).result = result := rfl

/-- The result of two steps is that of the second, on what the first returned. -/
@[simp]
theorem result_bind (report : Report α) (next : α → Report β) :
    (report >>= next).result = report.result >>= fun value => (next value).result := by
  show (report.andThen next).result = _
  rw [andThen]
  rcases report.result with failure | value <;> rfl

/-! ## Laws -/

theorem id_map (report : Report α) : id <$> report = report := by
  show report.andThen (fun value => ofResult (.ok value)) = report
  rw [andThen]
  obtain ⟨entries, _ | value⟩ := report <;> simp [ofResult]

theorem pure_bind (value : α) (next : α → Report β) : (pure value >>= next) = next value := by
  show (ofResult (.ok value)).andThen next = next value
  simp [andThen, ofResult]

/-- Steps may be grouped either way, as the log is one sequence. -/
theorem bind_assoc (report : Report α) (next : α → Report β) (last : β → Report σ) :
    report >>= next >>= last = report >>= fun value => next value >>= last := by
  show (report.andThen next).andThen last = report.andThen fun value => (next value).andThen last
  obtain ⟨entries, failure | value⟩ := report
  · rfl
  · simp only [andThen]
    rcases (next value).result with failure | other <;> simp

instance : LawfulMonad Report :=
  LawfulMonad.mk' Report id_map pure_bind bind_assoc

/-! ## Sequences -/

/-- The result of a fold is the fold of the results, whatever is logged. -/
theorem result_foldlM (step : σ → α → Report σ) (state : σ) (items : List α) :
    (items.foldlM step state).result =
      items.foldlM (fun state item => (step state item).result) state := by
  induction items generalizing state with
  | nil => rfl
  | cons item rest ih => simp only [List.foldlM_cons, result_bind, ih]

theorem result_mapM (step : α → Report β) (items : List α) :
    (items.mapM step).result = items.mapM fun item => (step item).result := by
  induction items with
  | nil => rfl
  | cons item rest ih =>
    simp only [List.mapM_cons, result_bind, result_pure, ih]
    rfl

end Montage.Report
