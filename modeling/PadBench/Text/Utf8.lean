/-!
UTF-8: characters as one to four bytes, and the reading of bytes with the place where they stop being
valid.
-/
namespace PadBench.Text.Utf8

/-- Why bytes are no UTF-8: at `index` begins a sequence whose first `length` bytes nothing valid starts
with, or one that the end cuts short. -/
inductive Fault where
  | invalid (length index : Nat)
  | incomplete (index : Nat)
  deriving DecidableEq, Repr

def Fault.message : Fault → String
  | .invalid length index => s!"invalid utf-8 sequence of {length} bytes from index {index}"
  | .incomplete index => s!"incomplete utf-8 byte sequence from index {index}"

/-- The byte of a continuation: six bits of the character, from bit `position` on. -/
def continuation (code position : Nat) : UInt8 := UInt8.ofNat (0x80 + (code >>> position) % 64)

def encodeChar (c : Char) : List UInt8 :=
  let code := c.toNat
  if code < 0x80 then [UInt8.ofNat code]
  else if code < 0x800 then [UInt8.ofNat (0xC0 + code >>> 6), continuation code 0]
  else if code < 0x10000 then
    [UInt8.ofNat (0xE0 + code >>> 12), continuation code 6, continuation code 0]
  else
    [UInt8.ofNat (0xF0 + code >>> 18), continuation code 12, continuation code 6, continuation code 0]

def encode (text : List Char) : List UInt8 := text.flatMap encodeChar

/-- How many bytes a sequence has, by its first byte; `none` if no sequence starts with it. -/
def sequenceLength? (first : UInt8) : Option Nat :=
  if first < 0x80 then some 1
  else if first < 0xC2 then none
  else if first < 0xE0 then some 2
  else if first < 0xF0 then some 3
  else if first < 0xF5 then some 4
  else none

def isContinuation (byte : UInt8) : Bool := 0x80 ≤ byte && byte < 0xC0

/-- Whether the second byte fits the first: no longer form of a shorter sequence, no surrogate, nothing
past the last character. -/
def isSecond (first second : UInt8) : Bool :=
  isContinuation second &&
    (first != 0xE0 || 0xA0 ≤ second) && (first != 0xED || second < 0xA0) &&
    (first != 0xF0 || 0x90 ≤ second) && (first != 0xF4 || second < 0x90)

/-- The six bits of a continuation. -/
def low (byte : UInt8) : Nat := byte.toNat % 64

/-- The characters in `done`, last first, and then those of the bytes, the first of which stands at
`index`. -/
def decodeFrom (done : List Char) (index : Nat) : List UInt8 → Except Fault (List Char)
  | [] => .ok done.reverse
  | first :: rest =>
    match sequenceLength? first with
    | none => .error (.invalid 1 index)
    | some 1 => decodeFrom (Char.ofNat first.toNat :: done) (index + 1) rest
    | some length =>
      match rest with
      | [] => .error (.incomplete index)
      | second :: rest =>
        if !isSecond first second then .error (.invalid 1 index)
        else if length = 2 then
          decodeFrom (Char.ofNat (first.toNat % 32 * 64 + low second) :: done) (index + 2) rest
        else
          match rest with
          | [] => .error (.incomplete index)
          | third :: rest =>
            if !isContinuation third then .error (.invalid 2 index)
            else if length = 3 then
              decodeFrom (Char.ofNat ((first.toNat % 16 * 64 + low second) * 64 + low third) :: done)
                (index + 3) rest
            else
              match rest with
              | [] => .error (.incomplete index)
              | fourth :: rest =>
                if !isContinuation fourth then .error (.invalid 3 index)
                else
                  let code := ((first.toNat % 8 * 64 + low second) * 64 + low third) * 64 + low fourth
                  decodeFrom (Char.ofNat code :: done) (index + 4) rest

def decode (bytes : List UInt8) : Except Fault (List Char) := decodeFrom [] 0 bytes

end PadBench.Text.Utf8
