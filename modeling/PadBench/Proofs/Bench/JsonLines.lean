import Mathlib.Algebra.GroupWithZero.Nat
import PadBench.Bench.JsonLines
import PadBench.Proofs.Files.Append
import PadBench.Proofs.Json.OneLine
import PadBench.Proofs.Json.Order
import PadBench.Proofs.Json.RoundTrip

/-!
Files with one value on each line.

* `ofList_eq`: what one writer has written, and how many lines it counts;
* `sessions_eq`: several writers on one file, each done before the next, leave what one would leave;
* `linesOf_join`: the lines of what is written are the compact texts of the values, whatever they hold;
* `sessions_lines`: so the file has one line for each value, and each line is read as its value.
-/
namespace PadBench.JsonLines

open Files (Tree Place)

/-- Writing adds each value as a line, in order. -/
theorem foldl_write (values : List Json) (written : JsonLines) :
    values.foldl write written =
      ⟨written.text ++ String.join (values.map line), written.lines + values.length⟩ := by
  induction values generalizing written with
  | nil => simp
  | cons value values ih =>
    rw [List.foldl_cons, ih, write]
    simp only [List.map_cons, String.join_cons, List.length_cons, String.append_assoc, JsonLines.mk.injEq,
      true_and]
    omega

theorem ofList_eq (values : List Json) :
    ofList values = ⟨String.join (values.map line), values.length⟩ := by
  simp [ofList, foldl_write, empty]

/-- Several writers on one file leave what one writer of all their values leaves, or fail as it does. -/
theorem sessions_eq {writers : List (List Json)} (some_writes : writers ≠ []) (path : String) (tree : Tree) :
    sessions path writers tree =
      (tree.append path (String.join (writers.flatten.map line))).map (·, writers.map List.length) := by
  induction writers generalizing tree with
  | nil => exact absurd rfl some_writes
  | cons values rest ih =>
    rw [sessions, appendTo, ofList_eq]
    cases rest with
    | nil =>
      rw [List.flatten_cons, List.flatten_nil, List.append_nil]
      cases tree.append path (String.join (values.map line)) <;> rfl
    | cons next rest =>
      rw [List.flatten_cons, List.map_append, String.join_append, ← Files.Tree.append_append]
      cases tree.append path (String.join (values.map line)) with
      | error fault => rfl
      | ok after =>
        simp only [Bind.bind, Except.bind, ih (List.cons_ne_nil _ _)]
        cases after.append path (String.join ((next :: rest).flatten.map line)) <;> rfl

section Lines

/-- The lines of a text, each without the line feed at its end. -/
def linesOf (text : String) : List (List Char) := (text.toList.splitOn '\n').dropLast

theorem toList_line (value : Json) : (line value).toList = value.chars ++ ['\n'] := by
  rw [line, Json.render, String.toList_append, String.toList_ofList]
  rfl

/-- No line is broken by what its value holds. -/
theorem splitOn_join (values : List Json) :
    (String.join (values.map line)).toList.splitOn '\n' = values.map Json.chars ++ [[]] := by
  induction values with
  | nil => rfl
  | cons value values ih =>
    have unbroken : ∀ c ∈ value.chars, (c == '\n') = false := by
      intro c member
      refine beq_false_of_ne fun feed => ?_
      exact Json.newline_not_mem_chars value (feed ▸ member)
    rw [List.map_cons, String.join_cons, String.toList_append, toList_line, List.append_assoc,
      List.singleton_append, List.splitOn, List.splitOnP_append_cons (p := (· == '\n')) _ _ rfl,
      List.splitOnP_eq_singleton unbroken, ← List.splitOn, ih]
    rfl

/-- The lines of what is written are the compact texts of the values. -/
theorem linesOf_join (values : List Json) :
    linesOf (String.join (values.map line)) = values.map Json.chars := by
  rw [linesOf, splitOn_join, List.dropLast_concat]

theorem count_newline_join (values : List Json) :
    (String.join (values.map line)).toList.count '\n' = values.length := by
  induction values with
  | nil => rfl
  | cons value values ih =>
    rw [List.map_cons, String.join_cons, String.toList_append, toList_line, List.count_append, List.count_append,
      List.count_eq_zero_of_not_mem (Json.newline_not_mem_chars value), ih, List.length_cons]
    exact Nat.add_comm _ _

/-- Each line is read as its value, with the members of each object in the order they are kept in. -/
theorem parse?_linesOf_join {values : List Json}
    (readable : ∀ value ∈ values, value.IsWhole ∧ value.depth ≤ Json.deepest) :
    (linesOf (String.join (values.map line))).map Json.parse? = values.map fun value => some value.sorted := by
  rw [linesOf_join, List.map_map]
  refine List.map_congr_left fun value member => ?_
  obtain ⟨whole, shallow⟩ := readable value member
  exact Json.parse?_chars whole shallow

end Lines

/-- Writers on one file, each done before the next is there: the file holds what it held, if it was there, and
the line of each value in order. There are as many line feeds as values, as many as the writers counted in all.
Each line is read as its value, and as the very same if the members of its objects are in order. -/
theorem sessions_lines {tree made : Tree} {path : String} {place : Place} (writers : List (List Json))
    (opened : tree.opened path = .ok (made, place))
    (readable : ∀ value ∈ writers.flatten, value.IsWhole ∧ value.depth ≤ Json.deepest) :
    ∃ after counts text,
      sessions path writers tree = .ok (after, counts) ∧
      (writers ≠ [] → after.read path = .ok ((tree.content? place).getD "" ++ text)) ∧
      text = String.join (writers.flatten.map line) ∧
      counts = writers.map List.length ∧
      text.toList.count '\n' = writers.flatten.length ∧
      counts.sum = writers.flatten.length ∧
      (linesOf text).map Json.parse? = writers.flatten.map (fun value => some value.sorted) ∧
      ((∀ value ∈ writers.flatten, value.IsOrdered) →
        (linesOf text).map Json.parse? = writers.flatten.map some) := by
  obtain ⟨after, done, held⟩ : ∃ after, sessions path writers tree = .ok (after, writers.map List.length) ∧
      (writers ≠ [] → after.read path =
        .ok ((tree.content? place).getD "" ++ String.join (writers.flatten.map line))) := by
    by_cases none_writes : writers = []
    · subst none_writes
      exact ⟨tree, rfl, absurd rfl⟩
    · refine ⟨_, ?_, fun _ => Files.Tree.read_append opened _⟩
      rw [sessions_eq none_writes, Files.Tree.append_of_opened opened]
      rfl
  have given := parse?_linesOf_join readable
  refine ⟨after, _, _, done, held, rfl, rfl, count_newline_join _, List.length_flatten.symm, given, ?_⟩
  intro ordered
  rw [given]
  exact List.map_congr_left fun value member => congrArg some (Json.sorted_of_isOrdered (ordered value member))

/-- Three writers on a new file, in a directory that is made for it: one writes nothing, and a string and a key
hold line feeds. -/
theorem sessions_lines_new :
    Tree.empty.opened "nested/oracle.jsonl" = .ok (⟨[], [["nested"]]⟩, ["nested", "oracle.jsonl"]) ∧
    ∃ after counts text,
      sessions "nested/oracle.jsonl" [[.str "a\n\"b\""], [], [.obj [("c\n", .int 1)], .null]] .empty =
        .ok (after, counts) ∧
      after.read "nested/oracle.jsonl" = .ok text ∧ counts = [1, 0, 2] ∧ text.toList.count '\n' = 3 ∧
      (linesOf text).map Json.parse? =
        [some (.str "a\n\"b\""), some (.obj [("c\n", .int 1)]), some .null] := by
  have opened : Tree.empty.opened "nested/oracle.jsonl" =
      .ok (⟨[], [["nested"]]⟩, ["nested", "oracle.jsonl"]) := rfl
  obtain ⟨after, counts, text, done, held, -, counted, feeds, -, -, given⟩ :=
    sessions_lines [[.str "a\n\"b\""], [], [.obj [("c\n", .int 1)], .null]] opened (by
      simp [Json.IsWhole, Json.MembersWhole, Json.Numeral.InRange, Json.Numeral.leastInt,
        Json.Numeral.greatestInt, Json.depth, Json.membersDepth, Json.deepest])
  refine ⟨opened, after, counts, text, done, ?_, counted, feeds, given ?_⟩
  · rw [held (List.cons_ne_nil _ _)]
    exact congrArg Except.ok String.empty_append
  · simp [Json.IsOrdered, Json.MembersOrdered, Json.Ascending]

end PadBench.JsonLines
