/-!
# UTF-8

Bytes and characters. Writing always succeeds; reading stops at the first byte sequence that stands
for no character and says where it is and how much of it is at fault.

* `decode`: the characters of a byte sequence, or its first fault;
* `encode`: the bytes of a text.
-/

namespace TableQuery.Text.Utf8

/-- Why a byte sequence is not UTF-8: the number of bytes before the fault, and the number of bytes
that are at fault, which is `none` when the sequence ends too early. -/
structure Fault where
  validLength : Nat
  faultLength : Option Nat
deriving DecidableEq, Repr

/-- Does the byte lie in the range of those that go on with a character? -/
def isContinuation (b : UInt8) : Bool :=
  0x80 ≤ b && b ≤ 0xBF

/-- The second bytes that may follow the first byte of a three-byte character. They leave out the
surrogates and what a shorter sequence would say. -/
def isSecondOfThree (a b : UInt8) : Bool :=
  isContinuation b && (a != 0xE0 || 0xA0 ≤ b) && (a != 0xED || b ≤ 0x9F)

/-- The second bytes that may follow the first byte of a four-byte character. They leave out what a
shorter sequence would say and what lies above the last code point. -/
def isSecondOfFour (a b : UInt8) : Bool :=
  isContinuation b && (a != 0xF0 || 0x90 ≤ b) && (a != 0xF4 || b ≤ 0x8F)

/-- The low six bits of a byte that goes on with a character. -/
def payload (b : UInt8) : Nat :=
  b.toNat % 64

/-- Reads bytes that stand `before` bytes behind the beginning. -/
def decodeFrom (before : Nat) : List UInt8 → Except Fault (List Char)
  | [] => .ok []
  | a :: rest =>
    if a < 0x80 then
      (Char.ofNat a.toNat :: ·) <$> decodeFrom (before + 1) rest
    else if 0xC2 ≤ a && a ≤ 0xDF then
      match rest with
      | [] => .error ⟨before, none⟩
      | b :: rest =>
        if !isContinuation b then .error ⟨before, some 1⟩
        else (Char.ofNat (a.toNat % 32 * 64 + payload b) :: ·) <$> decodeFrom (before + 2) rest
    else if 0xE0 ≤ a && a ≤ 0xEF then
      match rest with
      | [] => .error ⟨before, none⟩
      | b :: rest =>
        if !isSecondOfThree a b then .error ⟨before, some 1⟩
        else match rest with
        | [] => .error ⟨before, none⟩
        | c :: rest =>
          if !isContinuation c then .error ⟨before, some 2⟩
          else (Char.ofNat ((a.toNat % 16 * 64 + payload b) * 64 + payload c) :: ·) <$>
            decodeFrom (before + 3) rest
    else if 0xF0 ≤ a && a ≤ 0xF4 then
      match rest with
      | [] => .error ⟨before, none⟩
      | b :: rest =>
        if !isSecondOfFour a b then .error ⟨before, some 1⟩
        else match rest with
        | [] => .error ⟨before, none⟩
        | c :: rest =>
          if !isContinuation c then .error ⟨before, some 2⟩
          else match rest with
          | [] => .error ⟨before, none⟩
          | d :: rest =>
            if !isContinuation d then .error ⟨before, some 3⟩
            else
              (Char.ofNat (((a.toNat % 8 * 64 + payload b) * 64 + payload c) * 64 + payload d) :: ·)
                <$> decodeFrom (before + 4) rest
    else .error ⟨before, some 1⟩

def decode (bytes : List UInt8) : Except Fault (List Char) :=
  decodeFrom 0 bytes

def encode (text : List Char) : List UInt8 :=
  text.flatMap String.utf8EncodeChar

theorem encode_append (s t : List Char) : encode (s ++ t) = encode s ++ encode t :=
  List.flatMap_append

end TableQuery.Text.Utf8
