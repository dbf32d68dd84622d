import Montage.Command

/-!
# Words read by a shell

`Shell.split` takes a text apart into words as a shell does: blanks outside quotes keep words apart,
quotes keep their text as it is, and pieces that touch are one word. A text is refused when a quote is
left open or when a mark stands where a shell would act on it.

What is written for a list of arguments is read back as the list (`split_join`), the empty arguments
and those with quotes included, and so is the line of a command (`Command.split_shell`).
-/

namespace Montage.Shell

/-! ## Reading -/

/-- Where a reader of words stands: between two words, or in a word and there outside quotes, in single
or in double quotes. -/
inductive Place where
  | gap
  | bare
  | single
  | double

/-- The marks that keep words apart. -/
def blanks : List Char := [' ', '\t']

/-- The marks that a shell acts on outside quotes: operators, expansions, escapes, patterns, comments
and the end of a line. -/
def active : List Char :=
  ['|', '&', ';', '<', '>', '(', ')', '$', '`', '\\', '*', '?', '[', '#', '~', '\n']

/-- The marks that a shell acts on also in double quotes. -/
def activeInDouble : List Char := ['$', '`', '\\']

/-- The words that follow a blank, after the one that the blank ends. -/
def Place.ended : Place → List (List Char) → List (List Char)
  | gap, words => words
  | _, words => [] :: words

/-- Characters put in front of the first word. -/
def prepend (cs : List Char) (words : List (List Char)) : List (List Char) :=
  words.modifyHead (cs ++ ·)

/-- The words of a text from a place on. In a word, the first of them is what is left of it. -/
def wordsFrom : Place → List Char → Option (List (List Char))
  | .gap, [] => some []
  | .bare, [] => some [[]]
  | _, [] => none
  | .single, c :: rest =>
    if c = '\'' then wordsFrom .bare rest else (wordsFrom .single rest).map (prepend [c])
  | .double, c :: rest =>
    if c = '"' then wordsFrom .bare rest
    else if c ∈ activeInDouble then none
    else (wordsFrom .double rest).map (prepend [c])
  | place, c :: rest =>
    if c ∈ blanks then (wordsFrom .gap rest).map place.ended
    else if c = '\'' then wordsFrom .single rest
    else if c = '"' then wordsFrom .double rest
    else if c ∈ active then none
    else (wordsFrom .bare rest).map (prepend [c])

def split (text : String) : Option (List String) :=
  (wordsFrom .gap text.toList).map (·.map String.ofList)

/-! ## Written words -/

theorem prepend_nil : prepend [] = id := by
  funext words
  cases words <;> rfl

theorem prepend_comp (first second : List Char) :
    prepend first ∘ prepend second = prepend (first ++ second) := by
  funext words
  cases words <;> simp [prepend]

/-- A shell acts on no safe character. -/
theorem isSafe_eq_false {c : Char} (h : c ∈ blanks ++ ['\'', '"'] ++ active) : isSafe c = false := by
  have hall : (blanks ++ ['\'', '"'] ++ active).all (!isSafe ·) = true := by decide
  simpa using List.all_eq_true.mp hall c h

/-- Outside quotes, a safe character is part of a word. -/
theorem wordsFrom_cons {place : Place} (houtside : place = .gap ∨ place = .bare) {c : Char}
    (hsafe : isSafe c) (rest : List Char) :
    wordsFrom place (c :: rest) = (wordsFrom .bare rest).map (prepend [c]) := by
  have hne : c ∉ blanks ++ ['\'', '"'] ++ active := by
    intro hmem
    rw [isSafe_eq_false hmem] at hsafe
    cases hsafe
  simp only [List.mem_append, List.mem_cons, List.not_mem_nil, or_false, not_or] at hne
  obtain ⟨⟨hblank, hsingle, hdouble⟩, hactive⟩ := hne
  rw [wordsFrom, if_neg hblank, if_neg hsingle, if_neg hdouble, if_neg hactive]
  all_goals
    rintro rfl
    simp at houtside

/-- Safe characters are part of the word that they stand in. -/
theorem wordsFrom_bare {cs : List Char} (hsafe : ∀ c ∈ cs, isSafe c) (rest : List Char) :
    wordsFrom .bare (cs ++ rest) = (wordsFrom .bare rest).map (prepend cs) := by
  induction cs with
  | nil => rw [prepend_nil, Option.map_id, id, List.nil_append]
  | cons c cs ih =>
    obtain ⟨hc, hcs⟩ := List.forall_mem_cons.mp hsafe
    rw [List.cons_append, wordsFrom_cons (.inr rfl) hc, ih hcs, Option.map_map,
      prepend_comp, List.singleton_append]

/-- What is written between single quotes is read as it was, up to the quote that ends it. -/
theorem wordsFrom_body (cs rest : List Char) :
    wordsFrom .single (body cs ++ '\'' :: rest) = (wordsFrom .bare rest).map (prepend cs) := by
  induction cs with
  | nil => rw [prepend_nil, Option.map_id, id, body, List.nil_append, wordsFrom, if_pos rfl]
  | cons c cs ih =>
    by_cases hquote : c = '\''
    · -- the quote ends the piece, stands in double quotes by itself, and another piece begins
      subst hquote
      have hescaped : wordsFrom .single (body ('\'' :: cs) ++ '\'' :: rest) =
          (wordsFrom .single (body cs ++ '\'' :: rest)).map (prepend ['\'']) := by
        rfl
      rw [hescaped, ih, Option.map_map, prepend_comp, List.singleton_append]
    · rw [body, if_neg hquote, List.cons_append, wordsFrom, if_neg hquote, ih,
        Option.map_map, prepend_comp, List.singleton_append]

/-- A written word is read as the word, together with what follows it without a blank. -/
theorem wordsFrom_word (cs rest : List Char) :
    wordsFrom .gap (word cs ++ rest) = (wordsFrom .bare rest).map (prepend cs) := by
  rw [word]
  split
  · rename_i hbare
    obtain ⟨hne, hall⟩ := hbare
    obtain ⟨c, cs, rfl⟩ := List.exists_cons_of_ne_nil hne
    obtain ⟨hc, hcs⟩ := List.forall_mem_cons.mp (List.all_eq_true.mp hall)
    rw [List.cons_append, wordsFrom_cons (.inl rfl) hc, wordsFrom_bare hcs, Option.map_map,
      prepend_comp, List.singleton_append]
  · show wordsFrom .single (body cs ++ ['\''] ++ rest) = _
    rw [List.append_assoc, List.singleton_append, wordsFrom_body]

/-- Written words are read as the words. -/
theorem wordsFrom_line (words : List (List Char)) : wordsFrom .gap (line words) = some words := by
  fun_induction line words with
  | case1 => rfl
  | case2 only =>
    rw [← List.append_nil (word only), wordsFrom_word]
    simp [wordsFrom, prepend]
  | case3 first rest hrest ih =>
    -- the blank ends the word before it
    have hblank : wordsFrom .bare (' ' :: line rest) = (wordsFrom .gap (line rest)).map ([] :: ·) := by
      rfl
    rw [wordsFrom_word, hblank, ih]
    simp [prepend]

/-- **What is written for a list of arguments is read as the list.** -/
theorem split_join (arguments : List String) : split (join arguments) = some arguments := by
  rw [split, join, String.toList_ofList, wordsFrom_line, Option.map_some, List.map_map]
  simp [Function.comp_def]

/-- An empty argument is a pair of quotes, and a quote is put in quotes of the other kind. -/
example : join ["a b", "", "it's"] = "'a b' '' 'it'\"'\"'s'" ∧
    split "'a b' '' 'it'\"'\"'s'" = some ["a b", "", "it's"] := by
  decide +kernel

/-- Without its quotes, an argument is two words or is refused. -/
example : split "a b" = some ["a", "b"] ∧ split "a;b" = none ∧ split "it's" = none := by
  decide +kernel

end Montage.Shell

namespace Montage.Command

/-- **The line of a command is read as its arguments**, whatever characters they have. -/
theorem split_shell (command : Command) : Shell.split command.shell = some command.arguments :=
  Shell.split_join command.arguments

end Montage.Command
