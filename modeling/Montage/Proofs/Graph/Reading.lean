import Montage.Graph.Basic

/-!
# Reading the text of a graph

The text of a graph keeps its parts apart by marks: stages by semicolons, labels by brackets, filters
by commas, arguments by colons, and names from what they name by an equals sign. `readStages`
takes a text apart again, from the outside in. A comma in quotes does not end a filter.

What is written is read back (`readStages_render`) when no part of it has a mark of its own, save for
the colons of pads and the commas of a value in quotes (`Stage.Legible`).
-/

namespace Montage

/-! ## Reading -/

/-- The characters that keep the parts of a text apart. -/
def marks : List Char := ['[', ']', ',', ';', ':', '=', '\'']

/-- The parts of a text before and after the first place of a mark. -/
def cut (mark : Char) (text : List Char) : List Char × List Char :=
  (text.takeWhile (· ≠ mark), (text.dropWhile (· ≠ mark)).tail)

/-- The parts of a text between the commas that are not in quotes, from within quotes or without. -/
def splitUnquoted : Bool → List Char → List (List Char)
  | _, [] => [[]]
  | quoted, c :: rest =>
    if quoted = false ∧ c = ',' then [] :: splitUnquoted false rest
    else (splitUnquoted (quoted ^^ c = '\'') rest).modifyHead (c :: ·)

/-- The argument that a text writes, with a key when there is an equals sign. -/
def readArgument (text : List Char) : Argument :=
  if '=' ∈ text then
    let (key, value) := cut '=' text
    ⟨some (String.ofList key), String.ofList value⟩
  else ⟨none, String.ofList text⟩

/-- The filter that a text writes, with arguments when there is an equals sign. -/
def readFilter (text : List Char) : Filter :=
  if '=' ∈ text then
    let (name, arguments) := cut '=' text
    ⟨String.ofList name, (arguments.splitOn ':').map readArgument⟩
  else ⟨String.ofList text, []⟩

/-- The stage that a text writes. Each label ends at a bracket, the last one with the text. -/
def readStage (text : List Char) : Stage :=
  let labels := (text.splitOn ']').dropLast
  let (chain, output) := cut '[' (labels.getLastD [])
  { inputs := labels.dropLast.map fun label => String.ofList label.tail
    output := String.ofList output
    filters := (splitUnquoted false chain).map readFilter }

/-- The stages that the text of a graph writes. -/
def readStages (text : String) : List Stage :=
  (text.toList.splitOn ';').map readStage

/-! ## Taking texts apart -/

/-- A text is cut at its first mark. -/
theorem cut_append {mark : Char} {first : List Char} (h : mark ∉ first) (second : List Char) :
    cut mark (first ++ mark :: second) = (first, second) := by
  have hne : ∀ c ∈ first, decide (c ≠ mark) = true := fun c hc =>
    decide_eq_true (ne_of_mem_of_not_mem hc h)
  rw [cut, List.takeWhile_append_of_pos hne, List.dropWhile_append_of_pos hne]
  simp

/-- Items are read back when each of them is. -/
theorem map_read {α : Type} {read : List Char → α} {write : α → List Char} {items : List α}
    (h : ∀ item ∈ items, read (write item) = item) : (items.map write).map read = items := by
  rw [List.map_map]
  exact (List.map_congr_left h).trans (List.map_id items)

/-- The commas of a text are in quotes, and all quotes are closed. -/
def Whole : Bool → List Char → Prop
  | quoted, [] => quoted = false
  | quoted, c :: rest => ¬(quoted = false ∧ c = ',') ∧ Whole (quoted ^^ c = '\'') rest

theorem Whole.append {quoted : Bool} {first second : List Char} (hfirst : Whole quoted first)
    (hsecond : Whole false second) : Whole quoted (first ++ second) := by
  induction first generalizing quoted with
  | nil =>
    obtain rfl : quoted = false := hfirst
    exact hsecond
  | cons c rest ih =>
    obtain ⟨hcomma, hrest⟩ := hfirst
    exact ⟨hcomma, ih hrest⟩

theorem Whole.cons {c : Char} (hcomma : c ≠ ',') (hquote : c ≠ '\'') {rest : List Char}
    (h : Whole false rest) : Whole false (c :: rest) := by
  refine ⟨fun hsplit => hcomma hsplit.2, ?_⟩
  rwa [decide_eq_false hquote]

/-- A text without commas and quotes is whole. -/
theorem whole_of_not_mem {text : List Char} (hcomma : ',' ∉ text) (hquote : '\'' ∉ text) :
    Whole false text := by
  induction text with
  | nil => rfl
  | cons c rest ih =>
    rw [List.mem_cons, not_or] at hcomma hquote
    exact (ih hcomma.2 hquote.2).cons (Ne.symm hcomma.1) (Ne.symm hquote.1)

/-- Whole texts that are joined by another mark than a comma or a quote are whole. -/
theorem whole_intercalate {mark : Char} (hcomma : mark ≠ ',') (hquote : mark ≠ '\'')
    {texts : List (List Char)} (h : ∀ text ∈ texts, Whole false text) :
    Whole false ([mark].intercalate texts) := by
  match texts with
  | [] => rfl
  | [text] =>
    rw [List.intercalate_singleton]
    exact h text List.mem_cons_self
  | first :: second :: rest =>
    obtain ⟨hfirst, hrest⟩ := List.forall_mem_cons.mp h
    rw [List.intercalate_cons_cons, List.append_assoc, List.singleton_append]
    exact hfirst.append ((whole_intercalate hcomma hquote hrest).cons hcomma hquote)

/-- A text in quotes is whole. -/
theorem whole_quoted {text : List Char} (hquote : '\'' ∉ text) :
    Whole false ('\'' :: (text ++ ['\''])) := by
  refine ⟨by decide, ?_⟩
  show Whole true (text ++ ['\''])
  induction text with
  | nil => exact ⟨by decide, rfl⟩
  | cons c rest ih =>
    rw [List.mem_cons, not_or] at hquote
    refine ⟨by simp, ?_⟩
    rw [decide_eq_false (Ne.symm hquote.1)]
    exact ih hquote.2

/-- A text that is whole has no comma outside of its quotes. -/
theorem splitUnquoted_whole {quoted : Bool} {text : List Char} (h : Whole quoted text) :
    splitUnquoted quoted text = [text] := by
  induction text generalizing quoted with
  | nil => rfl
  | cons c rest ih =>
    obtain ⟨hcomma, hrest⟩ := h
    rw [splitUnquoted, if_neg hcomma, ih hrest]
    rfl

/-- Text is split after a whole part, at the comma that follows. -/
theorem splitUnquoted_append {quoted : Bool} {first : List Char} (h : Whole quoted first)
    (second : List Char) :
    splitUnquoted quoted (first ++ ',' :: second) = first :: splitUnquoted false second := by
  induction first generalizing quoted with
  | nil =>
    obtain rfl : quoted = false := h
    rw [List.nil_append, splitUnquoted, if_pos ⟨rfl, rfl⟩]
  | cons c rest ih =>
    obtain ⟨hcomma, hrest⟩ := h
    rw [List.cons_append, splitUnquoted, if_neg hcomma, ih hrest]
    rfl

/-- Whole texts that are joined by commas are split again. -/
theorem splitUnquoted_intercalate {texts : List (List Char)} (hne : texts ≠ [])
    (h : ∀ text ∈ texts, Whole false text) :
    splitUnquoted false ([','].intercalate texts) = texts := by
  match texts, hne with
  | [text], _ =>
    rw [List.intercalate_singleton, splitUnquoted_whole (h text List.mem_cons_self)]
  | first :: second :: rest, _ =>
    obtain ⟨hfirst, hrest⟩ := List.forall_mem_cons.mp h
    rw [List.intercalate_cons_cons, List.append_assoc, List.singleton_append,
      splitUnquoted_append hfirst, splitUnquoted_intercalate (List.cons_ne_nil _ _) hrest]

/-- Labels in brackets are split off at the brackets that close them. -/
theorem splitOn_brackets {labels : List String} (h : ∀ label ∈ labels, ']' ∉ label.toList)
    (rest : List Char) :
    ((labels.flatMap fun label => '[' :: (label.toList ++ [']'])) ++ rest).splitOn ']' =
      (labels.map fun label => '[' :: label.toList) ++ rest.splitOn ']' := by
  induction labels with
  | nil => rfl
  | cons label others ih =>
    obtain ⟨hlabel, hothers⟩ := List.forall_mem_cons.mp h
    have hopen : ']' ∉ '[' :: label.toList := by simp [hlabel]
    rw [List.flatMap_cons, List.append_assoc, ← List.cons_append, List.append_assoc,
      List.singleton_append, List.splitOn_append_cons_self_of_not_mem hopen, ih hothers,
      List.map_cons, List.cons_append]

/-! ## Legible texts -/

/-- A text has no marks other than some that are expected in it. -/
def Within (expected text : List Char) : Prop :=
  ∀ c ∈ text, c ∈ marks → c ∈ expected

def Clear (text : String) : Prop :=
  ∀ c ∈ text.toList, c ∉ marks

instance (text : String) : Decidable (Clear text) :=
  List.decidableBAll (fun c => c ∉ marks) text.toList

section Within

variable {expected text : List Char}

/-- Text without marks is within any marks. -/
theorem Clear.within {text : String} (h : Clear text) : Within expected text.toList :=
  fun c hc hmark => absurd hmark (h c hc)

theorem Clear.not_mem {text : String} (h : Clear text) {mark : Char} (hmark : mark ∈ marks) :
    mark ∉ text.toList :=
  fun hmem => h mark hmem hmark

theorem Clear.whole {text : String} (h : Clear text) : Whole false text.toList :=
  whole_of_not_mem (h.not_mem (by decide)) (h.not_mem (by decide))

theorem Within.not_mem (h : Within expected text) {mark : Char} (hmark : mark ∈ marks)
    (hother : mark ∉ expected) : mark ∉ text :=
  fun hmem => hother (h mark hmem hmark)

theorem Within.mono (h : Within expected text) {more : List Char} (hmore : expected ⊆ more) :
    Within more text :=
  fun c hc hmark => hmore (h c hc hmark)

theorem Within.append (h : Within expected text) {other : List Char}
    (hother : Within expected other) : Within expected (text ++ other) := by
  intro c hc
  rcases List.mem_append.mp hc with hc | hc
  · exact h c hc
  · exact hother c hc

theorem Within.cons (h : Within expected text) {mark : Char} (hmark : mark ∈ expected) :
    Within expected (mark :: text) := by
  intro c hc
  rcases List.mem_cons.mp hc with rfl | hc
  · exact fun _ => hmark
  · exact h c hc

/-- Texts within some marks are joined by one of them to a text within the same. -/
theorem Within.intercalate {texts : List (List Char)} {mark : Char} (hmark : mark ∈ expected)
    (h : ∀ text ∈ texts, Within expected text) : Within expected ([mark].intercalate texts) := by
  match texts with
  | [] => simp [Within]
  | [text] =>
    rw [List.intercalate_singleton]
    exact h text List.mem_cons_self
  | first :: second :: rest =>
    obtain ⟨hfirst, hrest⟩ := List.forall_mem_cons.mp h
    rw [List.intercalate_cons_cons, List.append_assoc, List.singleton_append]
    exact hfirst.append ((Within.intercalate hmark hrest).cons hmark)

end Within

/-- A value that can be read: it has no marks, or it is in quotes and has no marks but commas. -/
inductive LegibleValue : String → Prop
  | clear {value : String} (h : Clear value) : LegibleValue value
  | quoted {inner : String} (h : Within [','] inner.toList) : LegibleValue ("'" ++ inner ++ "'")

theorem toList_quoted (inner : String) :
    ("'" ++ inner ++ "'").toList = '\'' :: (inner.toList ++ ['\'']) := by
  simp

/-- A value has no marks but commas, and quotes around them. -/
theorem LegibleValue.within {value : String} (h : LegibleValue value) :
    Within [',', '\''] value.toList := by
  cases h with
  | clear h => exact h.within
  | quoted h =>
    rw [toList_quoted]
    have hquote : Within [',', '\''] ['\''] := by simp [Within]
    exact ((h.mono (by simp)).append hquote).cons (by simp)

/-- A value is not split, as its commas are quoted. -/
theorem LegibleValue.whole {value : String} (h : LegibleValue value) : Whole false value.toList := by
  cases h with
  | clear h => exact h.whole
  | quoted h =>
    rw [toList_quoted]
    exact whole_quoted (h.not_mem (by decide) (by decide))

/-! ## Arguments -/

structure Argument.Legible (argument : Argument) : Prop where
  key : ∀ key ∈ argument.key, Clear key
  value : LegibleValue argument.value

namespace Argument

/-- An argument with a key is written as the key and the value, with the equals sign between. -/
theorem render_keyed (key value : String) :
    (Argument.mk (some key) value).render.toList = key.toList ++ '=' :: value.toList := by
  rw [render, String.toList_append, String.toList_append, List.append_assoc]
  rfl

namespace Legible

variable {argument : Argument}

theorem within (h : argument.Legible) : Within ['=', ',', '\''] argument.render.toList := by
  obtain ⟨hkey, hvalue⟩ := h
  have hwithin := hvalue.within.mono (List.subset_cons_self '=' _)
  rcases argument with ⟨_ | key, value⟩
  · exact hwithin
  · rw [render_keyed]
    exact (hkey key rfl).within.append (hwithin.cons List.mem_cons_self)

theorem whole (h : argument.Legible) : Whole false argument.render.toList := by
  obtain ⟨hkey, hvalue⟩ := h
  rcases argument with ⟨_ | key, value⟩
  · exact hvalue.whole
  · rw [render_keyed]
    exact (hkey key rfl).whole.append (hvalue.whole.cons (by decide) (by decide))

/-- **An argument is read back.** -/
theorem read_render (h : argument.Legible) : readArgument argument.render.toList = argument := by
  obtain ⟨hkey, hvalue⟩ := h
  rcases argument with ⟨_ | key, value⟩
  · have hnone : '=' ∉ value.toList := hvalue.within.not_mem (by decide) (by decide)
    rw [render, readArgument, if_neg hnone, String.ofList_toList]
  · have hnone : '=' ∉ key.toList := (hkey key rfl).not_mem (by decide)
    rw [render_keyed, readArgument, if_pos (by simp), cut_append hnone]
    simp only [String.ofList_toList]

end Legible

end Argument

/-! ## Filters -/

structure Filter.Legible (filter : Filter) : Prop where
  name : Clear filter.name
  arguments : ∀ argument ∈ filter.arguments, argument.Legible

namespace Filter

def argumentsText (arguments : List Argument) : List Char :=
  [':'].intercalate (arguments.map fun argument => argument.render.toList)

theorem render_of_ne_nil (name : String) {arguments : List Argument} (hne : arguments ≠ []) :
    (Filter.mk name arguments).render.toList = name.toList ++ '=' :: argumentsText arguments := by
  rw [render, if_neg (by simpa using hne), String.toList_append, String.toList_append,
    String.toList_intercalate, List.map_map, List.append_assoc]
  rfl

namespace Legible

variable {filter : Filter}

/-- A filter is written with no marks but those of its arguments. -/
theorem within (h : filter.Legible) : Within [':', '=', ',', '\''] filter.render.toList := by
  obtain ⟨hname, harguments⟩ := h
  rcases filter with ⟨name, arguments⟩
  by_cases hne : arguments = []
  · subst hne
    exact hname.within
  · rw [render_of_ne_nil name hne]
    refine hname.within.append (Within.cons (Within.intercalate List.mem_cons_self ?_) (by simp))
    rw [List.forall_mem_map]
    intro argument hargument
    exact (harguments argument hargument).within.mono (List.subset_cons_self _ _)

/-- A filter is not split. -/
theorem whole (h : filter.Legible) : Whole false filter.render.toList := by
  obtain ⟨hname, harguments⟩ := h
  rcases filter with ⟨name, arguments⟩
  by_cases hne : arguments = []
  · subst hne
    exact hname.whole
  · rw [render_of_ne_nil name hne]
    refine hname.whole.append (Whole.cons (by decide) (by decide) ?_)
    refine whole_intercalate (by decide) (by decide) ?_
    rw [List.forall_mem_map]
    exact fun argument hargument => (harguments argument hargument).whole

/-- **A filter is read back.** -/
theorem read_render (h : filter.Legible) : readFilter filter.render.toList = filter := by
  obtain ⟨hname, harguments⟩ := h
  have hnone : '=' ∉ filter.name.toList := hname.not_mem (by decide)
  rcases filter with ⟨name, arguments⟩
  -- without arguments there is no equals sign, and the text is the name
  by_cases hne : arguments = []
  · subst hne
    show readFilter name.toList = _
    rw [readFilter, if_neg hnone, String.ofList_toList]
  · -- the arguments have no colon of their own, so the text is split between them
    have hcolon : ∀ text ∈ arguments.map fun argument => argument.render.toList, ':' ∉ text := by
      rw [List.forall_mem_map]
      intro argument hargument
      exact (harguments argument hargument).within.not_mem (by decide) (by decide)
    have hread : (arguments.map fun argument => argument.render.toList).map readArgument =
        arguments := map_read fun argument hargument => (harguments argument hargument).read_render
    rw [render_of_ne_nil name hne, readFilter, if_pos (by simp), cut_append hnone]
    dsimp only
    rw [argumentsText, List.splitOn_intercalate _ hcolon (by simpa using hne), hread,
      String.ofList_toList]

end Legible

end Filter

/-! ## Stages -/

/-- A stage that can be read: labels may have colons, as pads do. -/
structure Stage.Legible (stage : Stage) : Prop where
  inputs : ∀ label ∈ stage.inputs, Within [':'] label.toList
  output : Within [':'] stage.output.toList
  filters_ne_nil : stage.filters ≠ []
  filters : ∀ filter ∈ stage.filters, filter.Legible

namespace Stage

def chainText (filters : List Filter) : List Char :=
  [','].intercalate (filters.map fun filter => filter.render.toList)

theorem bracket_toList (label : String) : (bracket label).toList = '[' :: (label.toList ++ [']']) := by
  simp [bracket]

/-- A stage is written as its inputs, its chain and its output. -/
theorem render_toList (stage : Stage) : stage.render.toList =
    (stage.inputs.flatMap fun label => '[' :: (label.toList ++ [']'])) ++
      ((chainText stage.filters ++ '[' :: stage.output.toList) ++ [']']) := by
  rw [render, String.toList_append, String.toList_append, String.toList_join, List.flatMap_map,
    String.toList_intercalate, List.map_map, bracket_toList, List.append_assoc, List.append_assoc,
    List.cons_append]
  simp only [bracket_toList]
  rfl

namespace Legible

variable {stage : Stage}

/-- A chain of filters has neither brackets nor semicolons. -/
theorem chain_within (h : stage.Legible) :
    Within [',', ':', '=', '\''] (chainText stage.filters) := by
  refine Within.intercalate List.mem_cons_self ?_
  rw [List.forall_mem_map]
  intro filter hfilter
  exact (h.filters filter hfilter).within.mono (by simp)

/-- A stage has no semicolon, which separates it from the next. -/
theorem not_mem_render (h : stage.Legible) : ';' ∉ stage.render.toList := by
  have hinputs : ∀ label ∈ stage.inputs, ';' ∉ label.toList := fun label hlabel =>
    (h.inputs label hlabel).not_mem (by decide) (by decide)
  have houtput : ';' ∉ stage.output.toList := h.output.not_mem (by decide) (by decide)
  have hchain : ';' ∉ chainText stage.filters := h.chain_within.not_mem (by decide) (by decide)
  rw [render_toList]
  simpa [hchain, houtput] using hinputs

/-- The brackets that close a label end the parts of the text. -/
theorem splitOn_render (h : stage.Legible) : stage.render.toList.splitOn ']' =
    (stage.inputs.map fun label => '[' :: label.toList) ++
      [chainText stage.filters ++ '[' :: stage.output.toList, []] := by
  have hinputs : ∀ label ∈ stage.inputs, ']' ∉ label.toList := fun label hlabel =>
    (h.inputs label hlabel).not_mem (by decide) (by decide)
  have houtput : ']' ∉ stage.output.toList := h.output.not_mem (by decide) (by decide)
  have hchain : ']' ∉ chainText stage.filters := h.chain_within.not_mem (by decide) (by decide)
  have hlast : ']' ∉ chainText stage.filters ++ '[' :: stage.output.toList := by
    simp [hchain, houtput]
  rw [render_toList, splitOn_brackets hinputs, List.splitOn_append_cons_self_of_not_mem hlast,
    List.splitOn_nil]

/-- **A stage is read back.** -/
theorem read_render (h : stage.Legible) : readStage stage.render.toList = stage := by
  -- split at the closing brackets, the text has one part for each input and one for the chain with
  -- the output
  have hlabels : (stage.render.toList.splitOn ']').dropLast =
      (stage.inputs.map fun label => '[' :: label.toList) ++
        [chainText stage.filters ++ '[' :: stage.output.toList] := by
    rw [h.splitOn_render, List.dropLast_append_of_ne_nil (List.cons_ne_nil _ _)]
    rfl
  have hinputs : (stage.inputs.map fun label => '[' :: label.toList).map
      (fun label => String.ofList label.tail) = stage.inputs :=
    map_read fun label _ => String.ofList_toList
  have hchain : '[' ∉ chainText stage.filters := h.chain_within.not_mem (by decide) (by decide)
  have hfilters : (splitUnquoted false (chainText stage.filters)).map readFilter =
      stage.filters := by
    rw [chainText, splitUnquoted_intercalate (by simpa using h.filters_ne_nil)]
    · exact map_read fun filter hfilter => (h.filters filter hfilter).read_render
    · rw [List.forall_mem_map]
      exact fun filter hfilter => (h.filters filter hfilter).whole
  rw [readStage, hlabels, List.getLastD_concat, cut_append hchain, List.dropLast_concat]
  dsimp only
  rw [hinputs, hfilters, String.ofList_toList]

end Legible

end Stage

/-! ## Graphs -/

/-- **The stages of a graph are read back from its text**, when there are any. -/
theorem readStages_render {graph : Graph} (hne : graph.stages ≠ [])
    (h : ∀ stage ∈ graph.stages, stage.Legible) : readStages graph.render = graph.stages := by
  have htexts : graph.render.toList =
      [';'].intercalate (graph.stages.map fun stage => stage.render.toList) := by
    rw [Graph.render, String.toList_intercalate, List.map_map]
    rfl
  rw [readStages, htexts, List.splitOn_intercalate]
  · exact map_read fun stage hstage => (h stage hstage).read_render
  · rw [List.forall_mem_map]
    exact fun stage hstage => (h stage hstage).not_mem_render
  · simpa using hne

example : readStages "[v_base_0][v_embed_src_1]overlay=8:-2:enable='between(t,1,2.5)'[v_embed_2]" =
    [⟨["v_base_0", "v_embed_src_1"], "v_embed_2",
      [⟨"overlay", [⟨none, "8"⟩, ⟨none, "-2"⟩, ⟨some "enable", "'between(t,1,2.5)'"⟩]⟩]⟩] := by
  decide +kernel

end Montage
