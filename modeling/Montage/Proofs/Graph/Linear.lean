import Mathlib.Data.List.Induction
import Mathlib.Data.List.Nodup
import Montage.Graph.Compilation

/-!
# What the label ledger accepts

A list of stages is *linear* (`Linear`) when the labels that it writes are distinct, and every label
that it reads, pads aside, is written by an earlier stage and read only once.

`Workbench.addAll` adds stages one after the other. While they are accepted, the ledger is a view of
the stages so far (`Ledger.ofStages`), so that one entry of the ledger is one step from linear to
linear lists (`Ledger.add_eq_none_iff`, `linear_concat_iff`). `Workbench.addAll_empty_iff` follows
by induction on the list from its end: the lists that are accepted are the linear ones.
-/

namespace Montage

/-! ## Linear lists of stages -/

namespace Ledger

/-- The labels among some that are entered when they are read: all but the pads. -/
def fed (labels : List String) : List String :=
  labels.filter fun label => !isPad label

@[simp] theorem fed_nil : fed [] = [] := rfl

/-- A label is fed when a stage reads it and it is not a pad. -/
@[simp] theorem mem_fed {label : String} {labels : List String} :
    label ∈ fed labels ↔ label ∈ labels ∧ isPad label = false := by
  simp [fed]

@[simp] theorem fed_append (first second : List String) :
    fed (first ++ second) = fed first ++ fed second :=
  List.filter_append ..

theorem fed_cons_of_pad {label : String} (h : isPad label = true) (rest : List String) :
    fed (label :: rest) = fed rest := by
  simp [fed, h]

theorem fed_cons_of_not_pad {label : String} (h : isPad label = false) (rest : List String) :
    fed (label :: rest) = label :: fed rest := by
  simp [fed, h]

/-- Labels are entered without repetition when each of them, pads aside, occurs at most once. -/
theorem fed_nodup_iff (labels : List String) :
    (fed labels).Nodup ↔ ∀ label, isPad label = false → labels.count label ≤ 1 := by
  rw [List.nodup_iff_count_le_one]
  apply forall_congr'
  intro label
  by_cases h : isPad label
  · have habsent : (fed labels).count label = 0 := by
      rw [List.count_eq_zero, mem_fed]
      simp [h]
    simp [habsent, h]
  · rw [fed, List.count_filter (by simp [h])]
    simp [h]

end Ledger

open Ledger

/-- Every label is written by one stage, and is read at most once, by a later stage. Pads may be
read anywhere. -/
structure Linear (stages : List Stage) : Prop where
  outputs_nodup : (stages.map Stage.output).Nodup
  read_later : ∀ i stage, stages[i]? = some stage → ∀ label ∈ stage.inputs, isPad label = false →
    label ∈ (stages.take i).map Stage.output
  read_once : ∀ label, isPad label = false → (stages.flatMap Stage.inputs).count label ≤ 1

/-- What holds of each stage and the stages before it, in a list with one more stage at its end. -/
theorem forall_stage_concat_iff {P : List Stage → Stage → Prop} (stages : List Stage)
    (last : Stage) :
    (∀ i stage, (stages ++ [last])[i]? = some stage → P ((stages ++ [last]).take i) stage) ↔
      (∀ i stage, stages[i]? = some stage → P (stages.take i) stage) ∧ P stages last := by
  -- a stage of the longer list is one of the others, or the last with all others before it
  constructor
  · intro h
    refine ⟨fun i stage hi => ?_, ?_⟩
    · have hlt : i < stages.length := (List.getElem?_eq_some_iff.mp hi).1
      have hstage := h i stage (by rw [List.getElem?_append_left hlt, hi])
      rwa [List.take_append_of_le_length (Nat.le_of_lt hlt)] at hstage
    · have hlast := h stages.length last (by simp)
      rwa [List.take_left' rfl] at hlast
  · rintro ⟨hstages, hlast⟩ i stage hi
    have hle : i < (stages ++ [last]).length := (List.getElem?_eq_some_iff.mp hi).1
    rw [List.length_append, List.length_singleton] at hle
    rcases Nat.lt_or_ge i stages.length with hlt | hge
    · rw [List.getElem?_append_left hlt] at hi
      rw [List.take_append_of_le_length (Nat.le_of_lt hlt)]
      exact hstages i stage hi
    · obtain rfl : i = stages.length := by omega
      rw [List.getElem?_concat_length, Option.some.injEq] at hi
      rw [List.take_left' rfl, ← hi]
      exact hlast

/-- One more stage keeps a list linear when it writes a new label and reads, without repetition,
labels that have been written and not been read. -/
theorem linear_concat_iff (stages : List Stage) (stage : Stage) :
    Linear (stages ++ [stage]) ↔
      Linear stages ∧ stage.output ∉ stages.map Stage.output ∧
        (∀ label ∈ fed stage.inputs,
          label ∈ stages.map Stage.output ∧ label ∉ fed (stages.flatMap Stage.inputs)) ∧
        (fed stage.inputs).Nodup := by
  have hlater := forall_stage_concat_iff (P := fun before stage => ∀ label ∈ stage.inputs,
    isPad label = false → label ∈ before.map Stage.output) stages stage
  -- each of the three conditions is split at the last stage
  constructor
  · rintro ⟨hout, hread, honce⟩
    rw [List.map_append, List.map_singleton, ← List.concat_eq_append, List.nodup_concat] at hout
    rw [← fed_nodup_iff, List.flatMap_append, List.flatMap_singleton, fed_append,
      List.nodup_append'] at honce
    obtain ⟨hbefore, hlast⟩ := hlater.mp hread
    refine ⟨⟨hout.2, hbefore, (fed_nodup_iff _).mp honce.1⟩, hout.1, fun label hlabel => ?_,
      honce.2.1⟩
    have hmem := mem_fed.mp hlabel
    exact ⟨hlast label hmem.1 hmem.2, fun hread => honce.2.2 hread hlabel⟩
  · rintro ⟨⟨hout, hread, honce⟩, hfresh, hinputs, hnodup⟩
    refine ⟨?_, hlater.mpr ⟨hread, fun label hlabel hpad => ?_⟩, ?_⟩
    · rw [List.map_append, List.map_singleton, ← List.concat_eq_append, List.nodup_concat]
      exact ⟨hfresh, hout⟩
    · exact (hinputs label (mem_fed.mpr ⟨hlabel, hpad⟩)).1
    · rw [← fed_nodup_iff, List.flatMap_append, List.flatMap_singleton, fed_append,
        List.nodup_append']
      exact ⟨(fed_nodup_iff _).mpr honce, hnodup,
        fun label hread hlabel => (hinputs label hlabel).2 hread⟩

/-! ## One entry of the ledger -/

namespace Ledger

variable (ledger : Ledger)

/-- Labels can be read one after the other when those that are entered are distinct, have been
produced and have not been consumed. -/
theorem consumeAll_eq_none_iff (labels : List String) (next : Ledger) :
    ledger.consumeAll labels = (next, none) ↔
      (∀ label ∈ fed labels, label ∈ ledger.produced ∧ label ∉ ledger.consumed) ∧
        (fed labels).Nodup ∧
        next = { ledger with consumed := (fed labels).reverse ++ ledger.consumed } := by
  induction labels generalizing ledger with
  | nil => simp [consumeAll, eq_comm]
  | cons label rest ih =>
    by_cases hpad : isPad label
    · rw [consumeAll, consume, if_pos hpad, fed_cons_of_pad hpad]
      exact ih ledger
    · rw [Bool.not_eq_true] at hpad
      rw [consumeAll, consume, if_neg (by simp [hpad]), fed_cons_of_not_pad hpad]
      -- `ih` speaks of the ledger with this label consumed: later labels then differ from it
      by_cases hproduced : label ∈ ledger.produced
      · by_cases hconsumed : label ∈ ledger.consumed
        · simp [hproduced, hconsumed]
        · rw [if_neg (by simp [hproduced]), if_neg hconsumed]
          simp only [ih, List.forall_mem_cons, List.nodup_cons, List.reverse_cons,
            List.append_assoc, List.singleton_append]
          constructor
          · rintro ⟨hrest, hnodup, hnext⟩
            refine ⟨⟨⟨hproduced, hconsumed⟩, fun other hother => ?_⟩, ⟨?_, hnodup⟩, hnext⟩
            · exact ⟨(hrest other hother).1,
                fun h => (hrest other hother).2 (List.mem_cons_of_mem _ h)⟩
            · exact fun h => (hrest label h).2 List.mem_cons_self
          · rintro ⟨⟨-, hrest⟩, ⟨hnew, hnodup⟩, hnext⟩
            refine ⟨fun other hother => ⟨(hrest other hother).1, fun h => ?_⟩, hnodup, hnext⟩
            rcases List.mem_cons.mp h with rfl | h
            · exact hnew hother
            · exact (hrest other hother).2 h
      · simp [hproduced]

/-- A stage is entered when its output is new and its inputs can be read. -/
theorem add_eq_none_iff (inputs : List String) (output : String) (next : Ledger) :
    ledger.add inputs output = (next, none) ↔
      output ∉ ledger.produced ∧
        (∀ label ∈ fed inputs, label ∈ ledger.produced ∧ label ∉ ledger.consumed) ∧
        (fed inputs).Nodup ∧
        next = ⟨output :: ledger.produced, (fed inputs).reverse ++ ledger.consumed⟩ := by
  -- a label that is written twice is refused before the inputs are looked at
  by_cases hout : output ∈ ledger.produced
  · simp [add, hout]
  · rw [add, if_neg hout]
    rcases hread : ledger.consumeAll inputs with ⟨after, _ | failure⟩
    · obtain ⟨hlabels, hnodup, rfl⟩ := (consumeAll_eq_none_iff ledger inputs after).mp hread
      simp only [Prod.mk.injEq, and_true]
      constructor
      · rintro rfl
        exact ⟨hout, hlabels, hnodup, rfl⟩
      · rintro ⟨-, -, -, rfl⟩
        rfl
    · simp only [Prod.mk.injEq, reduceCtorEq, and_false, false_iff, not_and]
      intro _ hlabels hnodup _
      have hok := (consumeAll_eq_none_iff ledger inputs _).mpr ⟨hlabels, hnodup, rfl⟩
      rw [hread] at hok
      simp at hok

/-- The ledger of some stages: all their outputs, and all that they read apart from pads. -/
def ofStages (stages : List Stage) : Ledger where
  produced := (stages.map Stage.output).reverse
  consumed := (fed (stages.flatMap Stage.inputs)).reverse

/-- The ledger of a list with one more stage has noted its output and its inputs. -/
theorem ofStages_concat (stages : List Stage) (stage : Stage) :
    ofStages (stages ++ [stage]) =
      ⟨stage.output :: (ofStages stages).produced,
        (fed stage.inputs).reverse ++ (ofStages stages).consumed⟩ := by
  simp [ofStages]

theorem least?_eq_none_iff (labels : List String) : least? labels = none ↔ labels = [] := by
  cases labels with
  | nil => simp [least?]
  | cons label rest =>
    unfold least?
    split <;> simp

/-- A label dangles when it has been produced and never consumed. -/
theorem mem_dangling_iff (label : String) :
    label ∈ ledger.dangling ↔ label ∈ ledger.produced ∧ label ∉ ledger.consumed := by
  unfold dangling
  rw [List.mem_filter, decide_eq_true_eq]

/-- Nothing is left over when every label that has been produced is consumed or delivered. -/
theorem checkDangling_eq_ok_iff (outputs : List String) :
    ledger.checkDangling outputs = .ok () ↔
      ∀ label ∈ ledger.produced, label ∈ ledger.consumed ∨ label ∈ outputs := by
  -- the least label is looked for only to name it, so it is enough that there is none
  have hnil : ledger.checkDangling outputs = .ok () ↔
      ledger.dangling.filter (· ∉ outputs) = [] := by
    rw [← least?_eq_none_iff, checkDangling]
    rcases least? (ledger.dangling.filter (· ∉ outputs)) with _ | label <;> simp
  rw [hnil, List.filter_eq_nil_iff]
  constructor
  · intro h label hproduced
    by_cases hconsumed : label ∈ ledger.consumed
    · exact .inl hconsumed
    · have hout := h label ((ledger.mem_dangling_iff label).mpr ⟨hproduced, hconsumed⟩)
      rw [decide_eq_true_eq, not_not] at hout
      exact .inr hout
  · intro h label hdangling
    obtain ⟨hproduced, hunread⟩ := (ledger.mem_dangling_iff label).mp hdangling
    rw [decide_eq_true_eq, not_not]
    exact (h label hproduced).resolve_left hunread

end Ledger

/-! ## Runs of entries -/

namespace Workbench

/-- The workbench after stages, up to the first that is refused, with what stopped them if anything
did. -/
def addAll (bench : Workbench) : List Stage → Workbench × Option Failure
  | [] => (bench, none)
  | stage :: rest =>
    match bench.add stage with
    | (next, none) => next.addAll rest
    | stopped => stopped

/-- Adding two lists stops at the first failure in either. -/
theorem addAll_append (bench : Workbench) (first second : List Stage) :
    bench.addAll (first ++ second) =
      match bench.addAll first with
      | (next, none) => next.addAll second
      | stopped => stopped := by
  induction first generalizing bench with
  | nil => rfl
  | cons stage rest ih =>
    rw [List.cons_append, addAll, addAll]
    rcases bench.add stage with ⟨next, _ | failure⟩
    · exact ih next
    · rfl

@[simp] theorem addAll_singleton (bench : Workbench) (stage : Stage) :
    bench.addAll [stage] = bench.add stage := by
  rw [addAll]
  rcases bench.add stage with ⟨next, _ | failure⟩ <;> rfl

/-- A stage is added when the ledger accepts it. -/
theorem add_eq_none_iff (bench : Workbench) (stage : Stage) (next : Workbench) :
    bench.add stage = (next, none) ↔
      ∃ ledger, bench.ledger.add stage.inputs stage.output = (ledger, none) ∧
        next = ⟨ledger, bench.stages ++ [stage], bench.labels⟩ := by
  rw [add]
  rcases bench.ledger.add stage.inputs stage.output with ⟨ledger, _ | failure⟩
  · simp [eq_comm]
  · simp

/-- **The stages that are accepted one after the other are the linear lists**, and the ledger is
then the ledger of the list. -/
theorem addAll_empty_iff (stages : List Stage) (bench : Workbench) :
    empty.addAll stages = (bench, none) ↔
      Linear stages ∧ bench = ⟨.ofStages stages, stages, 0⟩ := by
  -- from the end of the list, where the ledger of all stages before is known
  induction stages using List.reverseRecOn generalizing bench with
  | nil =>
    have hlinear : Linear [] := ⟨by simp, by simp, by simp⟩
    simp [addAll, hlinear, empty, Ledger.empty, Ledger.ofStages, eq_comm]
  | append_singleton stages stage ih =>
    rw [addAll_append, linear_concat_iff]
    rcases hrun : empty.addAll stages with ⟨before, _ | failure⟩
    · obtain ⟨hlinear, rfl⟩ := (ih before).mp hrun
      have hproduced : ∀ label, label ∈ (Ledger.ofStages stages).produced ↔
          label ∈ stages.map Stage.output := fun _ => List.mem_reverse
      have hconsumed : ∀ label, label ∈ (Ledger.ofStages stages).consumed ↔
          label ∈ fed (stages.flatMap Stage.inputs) := fun _ => List.mem_reverse
      dsimp only
      rw [addAll_singleton, add_eq_none_iff]
      simp only [Ledger.add_eq_none_iff, Ledger.ofStages_concat, hproduced, hconsumed, hlinear,
        true_and]
      constructor
      · rintro ⟨ledger, ⟨hfresh, hinputs, hnodup, rfl⟩, rfl⟩
        exact ⟨⟨hfresh, hinputs, hnodup⟩, rfl⟩
      · rintro ⟨⟨hfresh, hinputs, hnodup⟩, rfl⟩
        exact ⟨_, ⟨hfresh, hinputs, hnodup, rfl⟩, rfl⟩
    · have hnot : ¬Linear stages := fun hlinear => by
        have hok := (ih _).mpr ⟨hlinear, rfl⟩
        rw [hrun] at hok
        simp at hok
      simp [hnot]

end Workbench

/-- Every label that is written is delivered, or read from by a later stage. -/
def Delivered (stages : List Stage) (outputs : List String) : Prop :=
  ∀ i stage, stages[i]? = some stage → stage.output ∈ outputs ∨
    isPad stage.output = false ∧ ∃ later ∈ stages.drop (i + 1), stage.output ∈ later.inputs

/-- The stages before a position hold just the stages at earlier positions. -/
theorem mem_take_iff {stages : List Stage} {n : ℕ} {stage : Stage} :
    stage ∈ stages.take n ↔ ∃ i < n, stages[i]? = some stage := by
  rw [List.mem_iff_getElem?]
  apply exists_congr
  intro i
  rw [List.getElem?_take]
  by_cases hlt : i < n <;> simp [hlt]

/-- A label of a linear list is written at one position only. -/
theorem Linear.position_unique {stages : List Stage} (h : Linear stages) {i j : ℕ}
    {first second : Stage} (hi : stages[i]? = some first) (hj : stages[j]? = some second)
    (hout : first.output = second.output) : i = j := by
  have hlt : i < (stages.map Stage.output).length := by
    rw [List.length_map]
    exact (List.getElem?_eq_some_iff.mp hi).1
  rw [← List.getElem?_inj hlt h.outputs_nodup, List.getElem?_map, List.getElem?_map, hi, hj]
  exact congrArg some hout

/-- In a linear list, a label is read by stages after the one that writes it only. -/
theorem Linear.read_after {stages : List Stage} (h : Linear stages) {i : ℕ} {stage reader : Stage}
    (hi : stages[i]? = some stage) (hreader : reader ∈ stages) (hread : stage.output ∈ reader.inputs)
    (hpad : isPad stage.output = false) : reader ∈ stages.drop (i + 1) := by
  obtain ⟨j, hj⟩ := List.mem_iff_getElem?.mp hreader
  obtain ⟨writer, hwriter, hout⟩ := List.mem_map.mp (h.read_later j reader hj _ hread hpad)
  obtain ⟨k, hkj, hk⟩ := mem_take_iff.mp hwriter
  obtain rfl : k = i := h.position_unique hk hi hout
  refine List.mem_iff_getElem?.mpr ⟨j - (k + 1), ?_⟩
  rw [List.getElem?_drop, Nat.add_sub_cancel' hkj, hj]

/-- The ledger of a linear list has nothing left over when all labels are delivered. -/
theorem Linear.checkDangling_eq_ok_iff {stages : List Stage} (h : Linear stages)
    (outputs : List String) :
    (Ledger.ofStages stages).checkDangling outputs = .ok () ↔ Delivered stages outputs := by
  rw [Ledger.checkDangling_eq_ok_iff]
  -- what has been consumed is read by some stage, and by linearity that stage comes later
  constructor
  · intro hall i stage hi
    have hmem : stage.output ∈ (Ledger.ofStages stages).produced :=
      List.mem_reverse.mpr (List.mem_map_of_mem (List.mem_of_getElem? hi))
    rcases hall _ hmem with hread | hout
    · obtain ⟨hread, hpad⟩ := mem_fed.mp (List.mem_reverse.mp hread)
      obtain ⟨reader, hreader, hread⟩ := List.mem_flatMap.mp hread
      exact .inr ⟨hpad, reader, h.read_after hi hreader hread hpad, hread⟩
    · exact .inl hout
  · intro hall label hlabel
    obtain ⟨stage, hstage, rfl⟩ := List.mem_map.mp (List.mem_reverse.mp hlabel)
    obtain ⟨i, hi⟩ := List.mem_iff_getElem?.mp hstage
    rcases hall i stage hi with hout | ⟨hpad, reader, hreader, hread⟩
    · exact .inr hout
    · refine .inl (List.mem_reverse.mpr (mem_fed.mpr ⟨?_, hpad⟩))
      exact List.mem_flatMap.mpr ⟨reader, List.mem_of_mem_drop hreader, hread⟩

/-- **The ledger accepts exactly the linear lists of stages**, entered one after the other from an
empty ledger. Once they are entered, its last check passes just when every label is delivered or
read by a later stage. -/
theorem addAll_accepts_linear (stages : List Stage) :
    ((Workbench.empty.addAll stages).2 = none ↔ Linear stages) ∧
      (Linear stages → ∀ outputs,
        ((Workbench.empty.addAll stages).1.ledger.checkDangling outputs = .ok () ↔
          Delivered stages outputs)) := by
  constructor
  · constructor
    · intro h
      exact ((Workbench.addAll_empty_iff stages _).mp (Prod.ext rfl h)).1
    · intro h
      rw [(Workbench.addAll_empty_iff stages _).mpr ⟨h, rfl⟩]
  · intro h outputs
    rw [(Workbench.addAll_empty_iff stages _).mpr ⟨h, rfl⟩]
    exact h.checkDangling_eq_ok_iff outputs

/-- Stages of which the first writes a label in the shape of a pad, which the others read. -/
def padStages : List Stage :=
  [⟨["0:v", "0:v"], "1:v", []⟩, ⟨["1:v"], "v", []⟩, ⟨["1:v", "v"], "w", []⟩]

/-- A label in the shape of a pad can be read any number of times, and is left over all the same. -/
theorem addAll_accepts_linear_pad :
    Linear padStages ∧ ¬Delivered padStages ["w"] ∧ Delivered padStages ["w", "1:v"] := by
  have hlinear : Linear padStages := (addAll_accepts_linear padStages).1.mp (by decide +kernel)
  have hcheck := (addAll_accepts_linear padStages).2 hlinear
  refine ⟨hlinear, fun h => ?_, (hcheck _).mp ?_⟩
  · have hok := (hcheck _).mpr h
    rw [Ledger.checkDangling_eq_ok_iff] at hok
    revert hok
    decide +kernel
  · rw [Ledger.checkDangling_eq_ok_iff]
    decide +kernel

end Montage
