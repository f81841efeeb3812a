import PadBench.Bench.JsonLines
import PadBench.Proofs.Json.Fields
import PadBench.Record.Line

/-!
Lines that hold a printed object: they are read as its members in order (`object?_line`).
-/
namespace PadBench

theorem Text.trimBlanks_solid {first last : Char} (middle : List Char) {blanks : List Char}
    (solidFirst : isBlank first = false) (solidLast : isBlank last = false)
    (blank : ∀ c ∈ blanks, isBlank c = true) :
    trimBlanks (first :: middle ++ last :: blanks) = first :: middle ++ [last] := by
  have front : (first :: middle ++ last :: blanks).dropWhile isBlank =
      first :: middle ++ last :: blanks := by
    rw [List.cons_append, List.dropWhile_cons, solidFirst]
    rfl
  have behind : (first :: middle ++ last :: blanks).reverse =
      blanks.reverse ++ last :: (first :: middle).reverse := by
    rw [List.reverse_append, List.reverse_cons, List.append_assoc, List.singleton_append]
  have dropped : (blanks.reverse ++ last :: (first :: middle).reverse).dropWhile isBlank =
      last :: (first :: middle).reverse := by
    rw [List.dropWhile_append_of_pos fun c member => blank c (List.mem_reverse.mp member),
      List.dropWhile_cons, solidLast]
    rfl
  rw [trimBlanks, front, dropTail, behind, dropped, List.reverse_cons, List.reverse_reverse]

namespace Record

/-- A text that is a printed object but for blanks at its end. -/
theorem object?_chars {members : Json.Members} {text : String} (blanks : List Char)
    (whole : Json.MembersWhole members) (shallow : Json.membersDepth members < Json.deepest)
    (printed : text.toList = (Json.obj members).chars ++ blanks)
    (blank : ∀ c ∈ blanks, Text.isBlank c = true) :
    object? text = some (Json.sortMembers (Json.sortedMembers members)) := by
  have back : Json.parse? (Json.obj members).chars = _ := Json.parse?_chars whole shallow
  have shape : (Json.obj members).chars = '\x7b' :: (Json.memberChars members ++ ['\x7d']) := rfl
  have trimmed : Text.trimBlanks text.toList = (Json.obj members).chars := by
    rw [printed, shape, List.cons_append, List.append_assoc, List.singleton_append]
    exact Text.trimBlanks_solid _ (by decide) (by decide) blank
  rw [Json.sorted, shape] at back
  rw [object?, trimmed, shape]
  simp only [back]

theorem object?_line {members : Json.Members} (whole : Json.MembersWhole members)
    (shallow : Json.membersDepth members < Json.deepest) :
    object? (JsonLines.line (.obj members)) =
      some (Json.sortMembers (Json.sortedMembers members)) := by
  refine object?_chars ['\n'] whole shallow ?_ (List.forall_mem_singleton.mpr rfl)
  rw [JsonLines.line, Json.render, String.toList_append, String.toList_ofList]
  rfl

end Record

end PadBench
