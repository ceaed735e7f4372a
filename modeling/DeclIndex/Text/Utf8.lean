import DeclIndex.Text.Quoted

/-!
# UTF-8

Bytes are decoded strictly: no overlong forms, no surrogates, nothing above U+10FFFF. A failure
names its cause and the bytes at fault.

## Main definitions

* `Utf8.Fault` — why and where decoding stopped.
* `Utf8.decode` — the text of a list of bytes.
* `Utf8.encode` — the bytes of a text.
* `Utf8.Fault.message` — the words for a failure.
-/

namespace DeclIndex

/-- The content of a file. -/
abbrev Bytes := List UInt8

namespace Utf8

/-- Why bytes are no text. -/
inductive Cause
  /-- No character begins with this byte. -/
  | start
  /-- A byte that should continue a character does not. -/
  | continuation
  /-- The bytes end inside a character. -/
  | ending
  deriving DecidableEq, Repr

/-- The failure to decode: the cause, the offset of the bytes at fault and how many they are. -/
structure Fault where
  cause : Cause
  offset : Nat
  bytes : Bytes
  deriving DecidableEq, Repr

/-- A byte of the form `10xxxxxx`. -/
def isContinuation (b : UInt8) : Bool :=
  0x80 ≤ b && b ≤ 0xBF

/-- Whether `b` may follow the first byte `a` of a character of three or four bytes. -/
def mayFollow (a b : UInt8) : Bool :=
  isContinuation b &&
    (if a = 0xE0 then 0xA0 ≤ b
      else if a = 0xED then b ≤ 0x9F
      else if a = 0xF0 then 0x90 ≤ b
      else if a = 0xF4 then b ≤ 0x8F
      else true)

/-- The six low bits of a continuation byte. -/
def payload (b : UInt8) : Nat :=
  b.toNat % 64

/-- What the next bytes are: a character with its length, or a cause with the number of bytes at
fault. -/
def next : Bytes → Except (Cause × Nat) (Char × Nat)
  | [] => .error (.ending, 0)
  | a :: rest =>
    if a < 0x80 then .ok (Char.ofNat a.toNat, 1)
    else if a < 0xC2 then .error (.start, 1)
    else if a < 0xE0 then
      match rest with
      | [] => .error (.ending, 1)
      | b :: _ =>
        if isContinuation b then .ok (Char.ofNat (a.toNat % 32 * 64 + payload b), 2)
        else .error (.continuation, 1)
    else if a < 0xF0 then
      match rest with
      | [] => .error (.ending, 1)
      | b :: rest =>
        if !mayFollow a b then .error (.continuation, 1)
        else
          match rest with
          | [] => .error (.ending, 2)
          | c :: _ =>
            if isContinuation c then
              .ok (Char.ofNat ((a.toNat % 16 * 64 + payload b) * 64 + payload c), 3)
            else .error (.continuation, 2)
    else if a < 0xF5 then
      match rest with
      | [] => .error (.ending, 1)
      | b :: rest =>
        if !mayFollow a b then .error (.continuation, 1)
        else
          match rest with
          | [] => .error (.ending, 2)
          | c :: rest =>
            if !isContinuation c then .error (.continuation, 2)
            else
              match rest with
              | [] => .error (.ending, 3)
              | d :: _ =>
                if isContinuation d then
                  .ok (Char.ofNat
                    (((a.toNat % 8 * 64 + payload b) * 64 + payload c) * 64 + payload d), 4)
                else .error (.continuation, 3)
    else .error (.start, 1)

/-- Decodes the bytes that follow `offset` others, of which the first `skip` belong to the
character read last. -/
def decodeFrom (offset skip : Nat) : Bytes → Except Fault Text
  | [] => .ok []
  | b :: rest =>
    match skip with
    | skip + 1 => decodeFrom (offset + 1) skip rest
    | 0 =>
      match next (b :: rest) with
      | .ok (c, n) => (decodeFrom (offset + 1) (n - 1) rest).map (c :: ·)
      | .error (cause, n) => .error ⟨cause, offset, (b :: rest).take n⟩

/-- The text of a list of bytes. -/
def decode (bytes : Bytes) : Except Fault Text :=
  decodeFrom 0 0 bytes

/-- The bytes of a text. -/
def encode (t : Text) : Bytes :=
  t.flatMap String.utf8EncodeChar

/-- The words for a cause. -/
def Cause.message : Cause → Text
  | .start => "invalid start byte"
  | .continuation => "invalid continuation byte"
  | .ending => "unexpected end of data"

/-- The words for a failure: a single byte at fault is shown, several are counted. -/
def Fault.message (f : Fault) : Text :=
  "'utf-8' codec can't decode ".toList ++
    (match f.bytes with
      | [b] => "byte 0x".toList ++ Text.hexDigits 2 b.toNat ++ " in position ".toList ++
          Text.ofNat f.offset
      | bytes => "bytes in position ".toList ++ Text.ofNat f.offset ++ ['-'] ++
          Text.ofNat (f.offset + bytes.length - 1)) ++
    [':', ' '] ++ f.cause.message

end Utf8

end DeclIndex
