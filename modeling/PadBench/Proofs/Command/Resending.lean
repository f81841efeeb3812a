import PadBench.Proofs.Command.RoundTrip

/-!
Commands read from a frame and written again.

* `nameOf_ok_iff`: a name is read from its bytes and one NUL after them, from nothing else;
* `told_of_ofPayload`: the opcode and the length that the command has when it is written again;
* `resent_iff`: what is read can be written again unless it is a name with a NUL inside.
-/
namespace PadBench.Command

/-- The frame names a device, with a NUL before the one that ends the name. -/
def HoldsInnerNul (frame : List UInt8) : Prop :=
  frame.head? = some 0x03 ∧ 0 ∈ (frame.drop headerLength).dropLast

theorem nameOf_ok_iff {payload : List UInt8} {command : Command} :
    nameOf payload = .ok command ↔
      ∃ text : String, command = .name text ∧ payload = Text.Utf8.encode text.toList ++ [0] := by
  constructor
  · intro read
    rw [nameOf] at read
    split at read
    · rename_i ended
      obtain ⟨bytes, rfl⟩ := List.getLast?_eq_some_iff.mp ended
      split at read
      · rename_i text decoded
        cases read
        rw [List.dropLast_concat] at decoded
        refine ⟨_, rfl, ?_⟩
        rw [String.toList_ofList, Text.Utf8.encode_of_decode decoded]
      · cases read
    · cases read
  · rintro ⟨text, rfl, rfl⟩
    exact nameOf_encode text

/-- A command has the opcode it is read with, and at most the bytes it is read from: the flag that is left
out is written. -/
theorem told_of_ofPayload {opcode : UInt8} {payload : List UInt8} {command : Command}
    (read : ofPayload opcode payload = .ok command) :
    command.opcode = opcode ∧ command.payloadLength ≤ max 1 payload.length := by
  have coded {code : UInt8} (same : opcode.toNat = code.toNat) : code = opcode :=
    (UInt8.toNat_inj.mp same).symm
  unfold ofPayload at read
  dsimp only at read
  generalize same : opcode.toNat = number at read
  match number, payload, same, read with
  | 0x03, _, same, read =>
    obtain ⟨text, rfl, rfl⟩ := nameOf_ok_iff.mp read
    refine ⟨coded same, ?_⟩
    rw [List.length_append, Text.Utf8.length_encode]
    exact Nat.le_max_right _ _
  | 0x05, bytes, same, read =>
    have read : (if bytes.length < reportOffset then Except.error (Fault.payloadLength opcode bytes.length)
      else Except.ok (hidReport (bytes.drop reportOffset))) = Except.ok command := read
    by_cases short : bytes.length < reportOffset
    · rw [if_pos short] at read
      cases read
    · rw [if_neg short] at read
      cases read
      refine ⟨coded same, ?_⟩
      simp only [payloadLength, List.length_drop, reportOffset] at short ⊢
      omega
  | 0x01, [], same, read | 0x02, [], same, read | 0x0C, [], same, read | 0x01, [_], same, read
  | 0x0A, [_], same, read | 0x04, _, same, read | 0x07, _, same, read | 0x06, _ :: _, same, read
  | 0x08, _ :: _, same, read | 0x09, _ :: _, same, read | 0x0B, [_, _, _, _], same, read =>
    cases read
    refine ⟨coded same, ?_⟩
    simp only [payloadLength, List.length_cons, List.length_nil]
    omega
  | 0x00, _, _, read | 0x01, _ :: _ :: _, _, read | 0x02, _ :: _, _, read | 0x06, [], _, read
  | 0x08, [], _, read | 0x09, [], _, read | 0x0A, [], _, read | 0x0A, _ :: _ :: _, _, read
  | 0x0B, [], _, read | 0x0B, [_], _, read | 0x0B, [_, _], _, read | 0x0B, [_, _, _], _, read
  | 0x0B, _ :: _ :: _ :: _ :: _ :: _, _, read | 0x0C, _ :: _, _, read =>
    cases read
  | number + 13, bytes, _, read =>
    have read : (if 0x01 ≤ number + 13 && number + 13 ≤ 0x0C then
      Except.error (Fault.payloadLength opcode bytes.length)
      else Except.error (Fault.unknownOpcode opcode)) = Except.ok command := read
    split at read <;> cases read

theorem not_holdsNul_of_opcode {command : Command} (other : command.opcode ≠ 0x03) : ¬ command.HoldsNul := by
  rintro ⟨text, rfl, -⟩
  exact other rfl

/-- A name that is read holds the NULs of its payload but the last. -/
theorem holdsNul_iff_of_ofPayload {opcode : UInt8} {payload : List UInt8} {command : Command}
    (read : ofPayload opcode payload = .ok command) :
    command.HoldsNul ↔ opcode = 0x03 ∧ 0 ∈ payload.dropLast := by
  by_cases named : opcode = 0x03
  · subst named
    obtain ⟨text, rfl, rfl⟩ := nameOf_ok_iff.mp read
    rw [List.dropLast_concat, Text.Utf8.zero_mem_encode_iff]
    constructor
    · rintro ⟨_, same, held⟩
      cases same
      exact ⟨rfl, held⟩
    · rintro ⟨-, held⟩
      exact ⟨text, rfl, held⟩
  · have other : command.opcode ≠ 0x03 := by rwa [(told_of_ofPayload read).1]
    exact ⟨fun holds => absurd holds (not_holdsNul_of_opcode other), fun ⟨same, _⟩ => absurd same named⟩

/-- A name with a NUL inside has no frame. -/
theorem encode_of_holdsNul {command : Command} (holds : command.HoldsNul) (handle : UInt8) :
    ∃ text, command = .name text ∧ command.encode handle = .error (.nulInName text) := by
  obtain ⟨text, rfl, held⟩ := holds
  refine ⟨text, rfl, ?_⟩
  rw [encode, payload, if_pos (List.contains_iff_mem.mpr held)]
  rfl

/-- What a frame that is read consists of. -/
theorem parts_of_decode {bytes : List UInt8} {handle : UInt8} {command : Command}
    (read : decode bytes = .ok (handle, command)) :
    ∃ opcode low high payload, bytes = opcode :: handle :: low :: high :: payload ∧
      payload.length ≤ longestPayload ∧ ofPayload opcode payload = .ok command := by
  unfold decode at read
  split at read
  · rename_i opcode other low high payload
    dsimp only at read
    split at read
    · cases read
    · rename_i same
      cases parsed : ofPayload opcode payload with
      | error cause =>
        rw [parsed] at read
        cases read
      | ok found =>
        rw [parsed] at read
        cases read
        have told : ByteOrder.ofBytes [low, high] < 256 ^ 2 := ByteOrder.ofBytes_lt [low, high]
        refine ⟨opcode, low, high, payload, rfl, ?_, parsed⟩
        rw [longestPayload]
        omega
  · cases read

/-- What is read from a frame can be written again, and is read from that frame, exactly if it is not a
name with a NUL inside. Such a name has no frame. -/
theorem resent_iff {bytes : List UInt8} {handle : UInt8} {command : Command}
    (read : decode bytes = .ok (handle, command)) :
    ((∃ again, command.encode handle = .ok again ∧ decode again = .ok (handle, command)) ↔
      ¬ HoldsInnerNul bytes) ∧
    (HoldsInnerNul bytes →
      ∃ text, command = .name text ∧ command.encode handle = .error (.nulInName text)) := by
  obtain ⟨opcode, low, high, payload, rfl, fits, parsed⟩ := parts_of_decode read
  have inner : HoldsInnerNul (opcode :: handle :: low :: high :: payload) ↔ command.HoldsNul := by
    rw [holdsNul_iff_of_ofPayload parsed]
    exact and_congr_left' Option.some_inj
  rw [inner]
  by_cases holds : command.HoldsNul
  · obtain ⟨text, named, refused⟩ := encode_of_holdsNul holds handle
    refine ⟨⟨fun ⟨again, framed, _⟩ => ?_, fun clean => absurd holds clean⟩, fun _ => ⟨text, named, refused⟩⟩
    rw [refused] at framed
    cases framed
  · refine ⟨⟨fun _ => holds, fun _ => ?_⟩, fun held => absurd held holds⟩
    have length := (told_of_ofPayload parsed).2
    have short : ¬ longestPayload < command.payloadLength := by
      rw [longestPayload] at fits ⊢
      omega
    have outcome := encode_eq holds handle
    rw [if_neg short] at outcome
    obtain ⟨again, framed, same, back⟩ := outcome
    have told : again.length ≤ longestPayload := by omega
    refine ⟨_, framed, ?_⟩
    rw [decode_frame told, back]
    rfl

/-- The flag that a frame leaves out is written. -/
theorem resent_connect : decode [0x01, 3, 0, 0] = .ok (3, .connect false) ∧
    ∃ again, (Command.connect false).encode 3 = .ok again ∧ decode again = .ok (3, .connect false) := by
  have read : decode [0x01, 3, 0, 0] = .ok (3, .connect false) := rfl
  have clean : ¬ HoldsInnerNul [0x01, 3, 0, 0] := fun held => absurd held.1 (by decide)
  exact ⟨read, (resent_iff read).1.mpr clean⟩

/-- The name `a`, NUL, `b` is read and cannot be written. -/
theorem not_resent_inner_nul :
    decode [0x03, 0, 4, 0, 0x61, 0, 0x62, 0] = .ok (0, .name "a\x00b") ∧
      (Command.name "a\x00b").encode 0 = .error (.nulInName "a\x00b") :=
  ⟨rfl, rfl⟩

end PadBench.Command
