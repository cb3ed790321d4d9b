import ReservedWords.Text.Hexadecimal

/-!
Texts as bytes. `encode` writes a text in UTF-8 and `decode` reads one back; what is no UTF-8 is
refused with the place and the cause of the first fault.
-/

namespace ReservedWords.Text

abbrev Bytes := List UInt8

/-- The UTF-8 form of a text. -/
def encode (text : String) : Bytes :=
  text.toList.flatMap String.utf8EncodeChar

/-- Why a byte sequence is no text. -/
inductive DecodeCause where
  /-- The byte can start no character. -/
  | start
  /-- A byte that should go on with a character does not. -/
  | continuation
  /-- The bytes end inside a character. -/
  | truncated
  deriving DecidableEq, Repr

/-- The first fault of a byte sequence: the bytes `first` up to, but not including, `stop`. -/
structure DecodeFault where
  cause : DecodeCause
  first : Nat
  stop : Nat
  byte : UInt8
  deriving DecidableEq, Repr

namespace DecodeFault

def reason : DecodeCause → String
  | .start => "invalid start byte"
  | .continuation => "invalid continuation byte"
  | .truncated => "unexpected end of data"

/-- The wording names the byte if the fault is one byte long, else only the place. -/
def message (fault : DecodeFault) : String :=
  let place :=
    if fault.stop = fault.first + 1 then
      "byte 0x" ++ String.ofList (hexDigits 2 fault.byte.toNat) ++ " in position "
        ++ toString fault.first
    else
      "bytes in position " ++ toString fault.first ++ "-" ++ toString (fault.stop - 1)
  "'utf-8' codec can't decode " ++ place ++ ": " ++ reason fault.cause

end DecodeFault

/-- A byte that may stand inside a character. -/
def isTail (byte : UInt8) : Bool :=
  0x80 ≤ byte && byte < 0xC0

/-- The second byte of a character: it must not make the form longer than needed, nor write a
surrogate, nor exceed the last code point. -/
def isSecond (lead byte : UInt8) : Bool :=
  isTail byte
    && !(lead == 0xE0 && byte < 0xA0) && !(lead == 0xED && 0xA0 ≤ byte)
    && !(lead == 0xF0 && byte < 0x90) && !(lead == 0xF4 && 0x90 ≤ byte)

/-- The code point that a lead byte with the given payload and its tail bytes stand for. -/
def codePoint (lead : Nat) (tails : List UInt8) : Char :=
  Char.ofNat (tails.foldl (fun code byte => code * 64 + byte.toNat % 64) lead)

/-- Reads the characters of a byte sequence that starts at `position` of the whole. -/
def decodeFrom (position : Nat) : Bytes → Except DecodeFault (List Char)
  | [] => .ok []
  | a :: rest =>
    let fail (cause : DecodeCause) (width : Nat) : Except DecodeFault (List Char) :=
      .error ⟨cause, position, position + width, a⟩
    if a < 0x80 then
      (decodeFrom (position + 1) rest).map (codePoint a.toNat [] :: ·)
    else if a < 0xC2 then fail .start 1
    else if a < 0xE0 then
      match rest with
      | [] => fail .truncated 1
      | b :: rest =>
        if isTail b then
          (decodeFrom (position + 2) rest).map (codePoint (a.toNat % 32) [b] :: ·)
        else fail .continuation 1
    else if a < 0xF0 then
      match rest with
      | [] => fail .truncated 1
      | b :: rest =>
        if isSecond a b then
          match rest with
          | [] => fail .truncated 2
          | c :: rest =>
            if isTail c then
              (decodeFrom (position + 3) rest).map (codePoint (a.toNat % 16) [b, c] :: ·)
            else fail .continuation 2
        else fail .continuation 1
    else if a < 0xF5 then
      match rest with
      | [] => fail .truncated 1
      | b :: rest =>
        if isSecond a b then
          match rest with
          | [] => fail .truncated 2
          | c :: rest =>
            if isTail c then
              match rest with
              | [] => fail .truncated 3
              | d :: rest =>
                if isTail d then
                  (decodeFrom (position + 4) rest).map (codePoint (a.toNat % 8) [b, c, d] :: ·)
                else fail .continuation 3
            else fail .continuation 2
        else fail .continuation 1
    else fail .start 1

/-- The text that a byte sequence stands for, or its first fault. -/
def decode (bytes : Bytes) : Except DecodeFault String :=
  (decodeFrom 0 bytes).map String.ofList

end ReservedWords.Text
