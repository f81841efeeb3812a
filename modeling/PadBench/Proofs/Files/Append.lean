import PadBench.Files.Tree

/-!
Adding text to a file.

* `opened`: what a path leads to when a file is opened for more text, with the directories made on the way;
* `opened_again`: a file that was opened once can be opened again, and nothing is made then;
* `append_append`: two texts added one after the other are one text added;
* `read_append`: what is read is what the file held before and the text.
-/
namespace PadBench.Files.Tree

/-- Two steps that can fail succeed when each of them does. -/
theorem bind_eq_ok_iff {ε α β : Type} {first : Except ε α} {rest : α → Except ε β} {result : β} :
    (first >>= rest) = .ok result ↔ ∃ value, first = .ok value ∧ rest value = .ok result := by
  cases first <;> simp [bind, Except.bind]

variable {tree made : Tree} {path text : String} {place last : Place}

/-- The tree with every directory on the way to a file, and the file's place, if text can be added there. -/
def opened (tree : Tree) (path : String) : Except Fault (Tree × Place) := do
  let (tree, place) ← tree.make [] (parts path).dropLast
  match fileName? path with
  | none => throw .isDirectory
  | some name =>
    let place := place ++ [name]
    if meansDirectory path || tree.isDirectory place then throw .isDirectory
    return (tree, place)

/-- The tree with some text at the end of the file at a place. -/
def extended (tree : Tree) (place : Place) (text : String) : Tree :=
  { tree with files := extend place text tree.files }

theorem append_eq (tree : Tree) (path text : String) :
    tree.append path text = (tree.opened path).map fun (made, place) => made.extended place text := by
  rw [append, opened]
  cases tree.make [] (parts path).dropLast with
  | error fault => rfl
  | ok made =>
    cases fileName? path with
    | none => rfl
    | some name =>
      simp only [Bind.bind, Except.bind]
      split <;> rfl

theorem append_of_opened (opens : tree.opened path = .ok (made, place)) (text : String) :
    tree.append path text = .ok (made.extended place text) := by
  rw [append_eq, opens]
  rfl

section Walking

/-- Going into a directory takes no more than that it is one. -/
theorem enter_of_directories {more : Tree} {part : String} {next : Place}
    (kept : tree.directories ⊆ more.directories) (entered : tree.enter place part = .ok next) :
    more.enter place part = .ok next := by
  unfold enter at entered ⊢
  split at entered
  · rename_i up
    rw [if_pos up]
    exact entered
  · rename_i down
    split at entered
    · rename_i inside
      have still : more.isDirectory (place ++ [part]) = true := by
        rw [isDirectory, Bool.or_eq_true] at inside ⊢
        refine inside.imp id fun listed => ?_
        exact List.contains_iff_mem.mpr (kept (List.contains_iff_mem.mp listed))
      rw [if_neg down, if_pos still]
      exact entered
    · split at entered <;> cases entered

/-- After a step the next part is a directory, the files are the same, and no directory is lost. -/
theorem makeStep_enters {isLast : Bool} {part : String} {next : Place}
    (stepped : makeStep isLast (tree, place) part = .ok (made, next)) :
    made.enter place part = .ok next ∧ made.files = tree.files ∧ tree.directories ⊆ made.directories := by
  rw [makeStep] at stepped
  cases entered : tree.enter place part with
  | ok inside =>
    rw [entered] at stepped
    cases stepped
    exact ⟨entered, rfl, fun _ listed => listed⟩
  | error fault =>
    rw [entered] at stepped
    cases fault with
    | notFound =>
      cases stepped
      -- Going up never fails, so the part that is missing has a name.
      have down : part ≠ ".." := by
        rintro rfl
        cases entered
      refine ⟨?_, rfl, fun _ listed => List.mem_append_left _ listed⟩
      simp [enter, down, isDirectory]
    | _ => cases stepped

theorem walks_of_directories (tree more : Tree) {parts : List String}
    (kept : tree.directories ⊆ more.directories) (walked : parts.foldlM tree.enter place = .ok last) :
    parts.foldlM more.enter place = .ok last := by
  induction parts generalizing place with
  | nil => exact walked
  | cons part rest ih =>
    rw [List.foldlM_cons, bind_eq_ok_iff] at walked ⊢
    obtain ⟨next, entered, walked⟩ := walked
    exact ⟨next, enter_of_directories kept entered, ih walked⟩

/-- Once the directories are made, one can walk through them. -/
theorem make_walks {parts : List String} (makes : tree.make place parts = .ok (made, last)) :
    parts.foldlM made.enter place = .ok last ∧ made.files = tree.files ∧
      tree.directories ⊆ made.directories := by
  induction parts generalizing tree place with
  | nil =>
    cases makes
    exact ⟨rfl, rfl, fun _ listed => listed⟩
  | cons part rest ih =>
    rw [make, bind_eq_ok_iff] at makes
    obtain ⟨⟨between, next⟩, stepped, makes⟩ := makes
    obtain ⟨entered, sameFiles, kept⟩ := makeStep_enters stepped
    obtain ⟨walked, files, grown⟩ := ih makes
    refine ⟨?_, files.trans sameFiles, fun _ listed => grown (kept listed)⟩
    rw [List.foldlM_cons, bind_eq_ok_iff]
    exact ⟨next, enter_of_directories grown entered, walked⟩

/-- Where one can walk, nothing has to be made. -/
theorem make_of_walks {parts : List String} (walked : parts.foldlM tree.enter place = .ok last) :
    tree.make place parts = .ok (tree, last) := by
  induction parts generalizing place with
  | nil =>
    cases walked
    rfl
  | cons part rest ih =>
    rw [List.foldlM_cons, bind_eq_ok_iff] at walked
    obtain ⟨next, entered, walked⟩ := walked
    rw [make, makeStep, entered]
    exact ih walked

end Walking

section Opening

/-- What it takes to open a file: the directory it is in, its name, and no directory of that name. -/
theorem opened_eq_ok_iff : tree.opened path = .ok (made, place) ↔
    ∃ directory name, tree.make [] (parts path).dropLast = .ok (made, directory) ∧
      fileName? path = some name ∧ place = directory ++ [name] ∧
      meansDirectory path = false ∧ made.isDirectory place = false := by
  rw [opened, bind_eq_ok_iff]
  constructor
  · rintro ⟨⟨reached, directory⟩, makes, opens⟩
    cases named : fileName? path with
    | none =>
      simp only [named] at opens
      cases opens
    | some name =>
      simp only [named] at opens
      split at opens
      · cases opens
      · rename_i file
        cases opens
        rw [Bool.or_eq_true, not_or, Bool.not_eq_true, Bool.not_eq_true] at file
        exact ⟨directory, name, makes, rfl, rfl, file⟩
  · rintro ⟨directory, name, makes, named, rfl, ends, isFile⟩
    refine ⟨(made, directory), makes, ?_⟩
    simp only [named, ends, isFile, Bool.or_self, Bool.false_eq_true, if_false]
    rfl

theorem files_of_opened (opens : tree.opened path = .ok (made, place)) : made.files = tree.files := by
  obtain ⟨_, _, makes, _⟩ := opened_eq_ok_iff.mp opens
  exact (make_walks makes).2.1

/-- The same file is opened again, whatever has become of the contents, and nothing is made on the way. -/
theorem opened_again (more : Tree) (opens : tree.opened path = .ok (made, place))
    (same : more.directories = made.directories) : more.opened path = .ok (more, place) := by
  obtain ⟨directory, name, makes, named, rfl, ends, isFile⟩ := opened_eq_ok_iff.mp opens
  have walked := walks_of_directories made more (fun _ listed => same ▸ listed) (make_walks makes).1
  refine opened_eq_ok_iff.mpr ⟨directory, name, make_of_walks walked, named, rfl, ends, ?_⟩
  rw [isDirectory, same]
  exact isFile

end Opening

theorem lookup_extend (place : Place) (text : String) (files : List (Place × String)) :
    (extend place text files).lookup place = some ((files.lookup place).getD "" ++ text) := by
  induction files with
  | nil => simp [extend]
  | cons file files ih =>
    obtain ⟨other, content⟩ := file
    rw [extend]
    split
    · rename_i here
      simp [here]
    · rename_i elsewhere
      have passed : (place == other) = false := beq_false_of_ne (Ne.symm elsewhere)
      rw [List.lookup_cons, passed, List.lookup_cons, passed]
      exact ih

theorem extend_extend (place : Place) (text more : String) (files : List (Place × String)) :
    extend place more (extend place text files) = extend place (text ++ more) files := by
  induction files with
  | nil => simp [extend]
  | cons file files ih =>
    obtain ⟨other, content⟩ := file
    rw [extend, extend]
    split
    · rename_i here
      rw [extend, if_pos here, String.append_assoc]
    · rename_i elsewhere
      rw [extend, if_neg elsewhere, ih]

theorem extended_extended (tree : Tree) (place : Place) (text more : String) :
    (tree.extended place text).extended place more = tree.extended place (text ++ more) := by
  simp only [extended, extend_extend]

/-- Two texts added one after the other are one text added, or fail as it does. -/
theorem append_append (tree : Tree) (path text more : String) :
    (tree.append path text >>= fun after => after.append path more) = tree.append path (text ++ more) := by
  cases opens : tree.opened path with
  | error fault =>
    rw [append_eq, append_eq, opens]
    rfl
  | ok step =>
    obtain ⟨made, place⟩ := step
    have again := opened_again (made.extended place text) opens rfl
    rw [append_of_opened opens, append_of_opened opens, ← extended_extended]
    exact append_of_opened again more

/-- What is read is what the file held before, if there was one, and the text. -/
theorem read_append (opens : tree.opened path = .ok (made, place)) (text : String) :
    (made.extended place text).read path = .ok ((tree.content? place).getD "" ++ text) := by
  obtain ⟨directory, name, makes, named, rfl, ends, isFile⟩ := opened_eq_ok_iff.mp opens
  have walked : (made.extended (directory ++ [name]) text).directory (parts path).dropLast = .ok directory :=
    walks_of_directories made _ (fun _ listed => listed) (make_walks makes).1
  have file : (made.extended (directory ++ [name]) text).isDirectory (directory ++ [name]) = false := isFile
  have content : (made.extended (directory ++ [name]) text).content? (directory ++ [name]) =
      some ((tree.content? (directory ++ [name])).getD "" ++ text) := by
    rw [content?, extended, lookup_extend, files_of_opened opens, content?]
  simp only [read, named, walked, Bind.bind, Except.bind, file, content, ends, Bool.false_eq_true, if_false]
  rfl

end PadBench.Files.Tree
