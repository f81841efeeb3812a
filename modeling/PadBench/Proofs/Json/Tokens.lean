import PadBench.Json.Printing
import PadBench.Json.Token
import PadBench.Proofs.Json.Numerals
import PadBench.Proofs.Json.Strings

/-!
The tokens of a compact text.

* `tokens`: the tokens a value is written with;
* `tokens?_chars`: they are what is read from its compact text, if its numbers are whole.
-/
namespace PadBench.Json

mutual

def tokens : Json → List Token
  | .arr items => .openArray :: itemTokens items ++ [.closeArray]
  | .obj members => .openObject :: memberTokens members ++ [.closeObject]
  | .null => [.scalar .null]
  | .bool value => [.scalar (.bool value)]
  | .int value => [.scalar (.int value)]
  | .real value => [.scalar (.real value)]
  | .str text => [.scalar (.str text)]

def itemTokens : List Json → List Token
  | [] => []
  | [item] => item.tokens
  | item :: next :: rest => item.tokens ++ .comma :: itemTokens (next :: rest)

def memberTokens : List (String × Json) → List Token
  | [] => []
  | [(key, value)] => .scalar (.str key) :: .colon :: value.tokens
  | (key, value) :: next :: rest =>
    .scalar (.str key) :: .colon :: value.tokens ++ .comma :: memberTokens (next :: rest)

end

mutual

/-- Every number in the value is whole and within 64 bits. -/
def IsWhole : Json → Prop
  | .int value => Numeral.InRange value
  | .real _ => False
  | .arr items => ItemsWhole items
  | .obj members => MembersWhole members
  | _ => True

def ItemsWhole : List Json → Prop
  | [] => True
  | item :: items => item.IsWhole ∧ ItemsWhole items

def MembersWhole : List (String × Json) → Prop
  | [] => True
  | (_, value) :: members => value.IsWhole ∧ MembersWhole members

end

/-- Scanning the text comes to `rest` with the tokens read, however much has been read before. -/
def Scans (text : List Char) (read : List Token) (rest : List Char) : Prop :=
  ∀ done fuel, text.length ≤ fuel →
    ∃ left, rest.length ≤ left ∧ Token.scan? done fuel text = Token.scan? (read.reverse ++ done) left rest

theorem Scans.nothing (rest : List Char) : Scans rest [] rest :=
  fun _ fuel enough => ⟨fuel, enough, rfl⟩

theorem Scans.trans {text middle rest : List Char} {read more : List Token}
    (first : Scans text read middle) (second : Scans middle more rest) :
    Scans text (read ++ more) rest := by
  intro done fuel enough
  obtain ⟨left, enoughLeft, here⟩ := first done fuel enough
  obtain ⟨last, enoughLast, there⟩ := second (read.reverse ++ done) left enoughLeft
  refine ⟨last, enoughLast, ?_⟩
  rw [here, there, List.reverse_append, List.append_assoc]

/-- One token, which takes at least the first character. -/
theorem Scans.token {c : Char} {text rest : List Char} {token : Token}
    (solid : Token.isBlank c = false) (next : Token.next? (c :: text) = some (token, rest))
    (shorter : rest.length ≤ text.length) : Scans (c :: text) [token] rest := by
  intro done fuel enough
  obtain ⟨less, rfl⟩ : ∃ less, fuel = less + 1 := by
    cases fuel with
    | zero => cases enough
    | succ less => exact ⟨less, rfl⟩
  refine ⟨less, Nat.le_trans shorter (Nat.le_of_succ_le_succ enough), ?_⟩
  rw [Token.scan?, solid, if_neg Bool.false_ne_true, next]
  rfl

theorem tokens?_of_scans {text : List Char} {read : List Token} (scans : Scans text read []) :
    tokens? text = some read := by
  obtain ⟨left, _, here⟩ := scans [] text.length (Nat.le_refl _)
  rw [tokens?, here, List.append_nil]
  cases left <;> rw [Token.scan?, List.reverse_reverse]

theorem scans_punctuation {c : Char} {token : Token} (found : Token.punctuation? c = some token)
    (rest : List Char) : Scans (c :: rest) [token] rest := by
  unfold Token.punctuation? at found
  split at found <;> cases found <;> exact .token rfl rfl (Nat.le_refl _)

theorem scans_comma (rest : List Char) : Scans (',' :: rest) [.comma] rest :=
  scans_punctuation rfl rest

theorem scans_colon (rest : List Char) : Scans (':' :: rest) [.colon] rest :=
  scans_punctuation rfl rest

theorem scans_quoted (text : String) (rest : List Char) :
    Scans (Text.quoted text.toList ++ rest) [.scalar (.str text)] rest := by
  have shape : Text.quoted text.toList ++ rest =
      '"' :: (text.toList.flatMap Text.escaped ++ '"' :: rest) := by
    simp only [Text.quoted, List.cons_append, List.append_assoc, List.nil_append]
  have longer := Text.length_le_flatMap_escaped text.toList
  have length : (text.toList.flatMap Text.escaped ++ '"' :: rest).length =
      (text.toList.flatMap Text.escaped).length + (rest.length + 1) := List.length_append
  have enough : text.toList.length < (text.toList.flatMap Text.escaped ++ '"' :: rest).length := by
    omega
  have back := Text.scan?_quoted [] text.toList rest enough
  rw [shape]
  refine .token rfl ?_ (by omega)
  rw [Token.next?, back]
  simp

/-- The characters that no numeral starts with, among them all that blanks and other tokens do. -/
def otherStarts : List Char :=
  ['n', 't', 'f', '"', '\x7b', '\x7d', '[', ']', ':', ',', ' ', '\t', '\n', '\r']

theorem ne_of_numeral {c other : Char} (start : c = '-' ∨ c.isDigit = true)
    (member : other ∈ otherStarts) : c ≠ other := by
  rintro rfl
  have none_starts : ∀ other ∈ otherStarts, other ≠ '-' ∧ other.isDigit = false := by
    simp [otherStarts, Char.isDigit]
  obtain ⟨noSign, noDigit⟩ := none_starts c member
  rcases start with sign | digit
  · exact noSign sign
  · rw [noDigit] at digit
    cases digit

theorem next?_numeral {c : Char} (start : c = '-' ∨ c.isDigit = true) (text : List Char) :
    Token.isBlank c = false ∧ Token.next? (c :: text) =
      (Numeral.scan? (c :: text)).map fun (value, rest) => (.scalar value, rest) := by
  have differs : ∀ other ∈ otherStarts, c ≠ other := fun _ member => ne_of_numeral start member
  simp only [otherStarts, List.forall_mem_cons] at differs
  obtain ⟨n, t, f, quote, openObject, closeObject, openArray, closeArray, colon, comma, space, tab, feed,
    back, _⟩ := differs
  refine ⟨by simp [Token.isBlank, space, tab, feed, back], ?_⟩
  have noPunctuation : Token.punctuation? c = none := by
    simp [Token.punctuation?]
  simp [Token.next?, n, t, f, noPunctuation]

theorem scans_intChars {value : Int} (inRange : Numeral.InRange value) {rest : List Char}
    (ends : Ends rest) : Scans (Numeral.intChars value ++ rest) [.scalar (.int value)] rest := by
  have back := Numeral.scan?_intChars inRange ends
  obtain ⟨first, digits, shape, start⟩ : ∃ first digits, Numeral.intChars value = first :: digits ∧
      (first = '-' ∨ first.isDigit = true) := by
    by_cases negative : value < 0
    · exact ⟨'-', Nat.toDigits 10 value.natAbs, by rw [Numeral.intChars, if_pos negative], .inl rfl⟩
    · obtain ⟨first, digits, shape, isDigit⟩ := Numeral.toDigits_cons value.natAbs
      exact ⟨first, digits, by rw [Numeral.intChars, if_neg negative, shape], .inr isDigit⟩
  rw [shape, List.cons_append] at back ⊢
  obtain ⟨solid, next⟩ := next?_numeral start (digits ++ rest)
  refine .token solid ?_ (by rw [List.length_append]; omega)
  rw [next, back]
  rfl

mutual

/-- The compact text of a value is read token by token, whatever may follow it. -/
theorem scans_chars : ∀ (value : Json), value.IsWhole → ∀ {rest : List Char}, Ends rest →
    Scans (value.chars ++ rest) value.tokens rest
  | .null, _, _, _ => .token rfl rfl (Nat.le_add_right _ 3)
  | .bool true, _, _, _ => .token rfl rfl (Nat.le_add_right _ 3)
  | .bool false, _, _, _ => .token rfl rfl (Nat.le_add_right _ 4)
  | .int _, whole, _, ends => scans_intChars whole ends
  | .real _, whole, _, _ => whole.elim
  | .str text, _, rest, _ => scans_quoted text rest
  | .arr items, whole, rest, _ => by
    have opened := scans_punctuation (c := '[') rfl (itemChars items ++ ']' :: rest)
    have inner := scans_itemChars items whole (.array rest)
    have closed := scans_punctuation (c := ']') rfl rest
    rw [chars, List.append_assoc]
    exact (opened.trans inner).trans closed
  | .obj members, whole, rest, _ => by
    have opened := scans_punctuation (c := '\x7b') rfl (memberChars members ++ '\x7d' :: rest)
    have inner := scans_memberChars members whole (.object rest)
    have closed := scans_punctuation (c := '\x7d') rfl rest
    rw [chars, List.append_assoc]
    exact (opened.trans inner).trans closed

theorem scans_itemChars : ∀ (items : List Json), ItemsWhole items → ∀ {rest : List Char}, Ends rest →
    Scans (itemChars items ++ rest) (itemTokens items) rest
  | [], _, rest, _ => .nothing rest
  | [item], whole, _, ends => scans_chars item whole.1 ends
  | item :: next :: items, whole, rest, ends => by
    have first := scans_chars item whole.1 (.comma (itemChars (next :: items) ++ rest))
    have others := scans_itemChars (next :: items) whole.2 ends
    rw [itemChars, List.append_assoc]
    exact first.trans ((scans_comma _).trans others)

theorem scans_memberChars : ∀ (members : List (String × Json)), MembersWhole members →
    ∀ {rest : List Char}, Ends rest → Scans (memberChars members ++ rest) (memberTokens members) rest
  | [], _, rest, _ => .nothing rest
  | [(key, value)], whole, rest, ends => by
    have body := (scans_colon _).trans (scans_chars value whole.1 ends)
    rw [memberChars, List.append_assoc]
    exact (scans_quoted key _).trans body
  | (key, value) :: next :: members, whole, rest, ends => by
    have body := (scans_colon _).trans
      (scans_chars value whole.1 (.comma (memberChars (next :: members) ++ rest)))
    have others := scans_memberChars (next :: members) whole.2 ends
    rw [memberChars, List.append_assoc, List.append_assoc]
    exact ((scans_quoted key _).trans body).trans ((scans_comma _).trans others)

end

theorem tokens?_chars {value : Json} (whole : value.IsWhole) : tokens? value.chars = some value.tokens := by
  have scans := scans_chars value whole .text
  rw [List.append_nil] at scans
  exact tokens?_of_scans scans

end PadBench.Json
