/-!
# UTF-8 byte strings

**Input.** A byte string, which need not be UTF-8.

**Algorithm.** `scan` reads from the left. A stretch of bytes that encodes a character gives that
character. Any other stretch gives `none` once, and it is as long as it can be while it still
begins the encoding of some character, or one byte long where no encoding begins.

**Results.**
* `encode`: the bytes of a text.
* `decode?`: the text of a byte string, if it is UTF-8 throughout.
* `lossy`: the text of any byte string, with U+FFFD for every damaged stretch.
-/

namespace GrammarAssay

/-- A byte string. -/
abbrev Bytes := List UInt8

namespace Text
namespace Utf8

/-- The bytes of a text. -/
def encode (s : String) : Bytes :=
  s.toList.flatMap String.utf8EncodeChar

/-- Can a byte follow inside a character? -/
def isTail (b : UInt8) : Bool :=
  0x80 ≤ b.toNat && b.toNat ≤ 0xBF

/-- What a first byte announces: how many bytes follow, which range the next one lies in, and the
first byte's own share of the code point. -/
structure Lead where
  tails : Nat
  low : Nat
  high : Nat
  share : Nat
deriving DecidableEq

/-- The announcement of a first byte of two or more. The narrower ranges keep out overlong forms,
surrogates and code points above U+10FFFF. -/
def lead? (a : Nat) : Option Lead :=
  if a < 0xC2 then none
  else if a < 0xE0 then some ⟨1, 0x80, 0xBF, a - 0xC0⟩
  else if a = 0xE0 then some ⟨2, 0xA0, 0xBF, 0⟩
  else if a = 0xED then some ⟨2, 0x80, 0x9F, 0xD⟩
  else if a < 0xF0 then some ⟨2, 0x80, 0xBF, a - 0xE0⟩
  else if a = 0xF0 then some ⟨3, 0x90, 0xBF, 0⟩
  else if a < 0xF4 then some ⟨3, 0x80, 0xBF, a - 0xF0⟩
  else if a = 0xF4 then some ⟨3, 0x80, 0x8F, 4⟩
  else none

/-- Does the byte after the first one lie in the announced range? -/
def Lead.admits (l : Lead) (b : UInt8) : Bool :=
  l.low ≤ b.toNat && b.toNat ≤ l.high

/-- A code point so far, followed by one more byte. -/
def shift (n : Nat) (b : UInt8) : Nat :=
  n * 64 + (b.toNat - 0x80)

/-- The characters and the damaged stretches of a byte string, from left to right. -/
def scan : Bytes → List (Option Char)
  | [] => []
  | a :: r =>
    if a.toNat < 0x80 then some (Char.ofNat a.toNat) :: scan r
    else match lead? a.toNat with
      | none => none :: scan r
      | some l => match r with
        | [] => [none]
        | b :: r₁ =>
          if !l.admits b then none :: scan (b :: r₁)
          else if l.tails = 1 then some (Char.ofNat (shift l.share b)) :: scan r₁
          else match r₁ with
            | [] => [none]
            | c :: r₂ =>
              if !isTail c then none :: scan (c :: r₂)
              else if l.tails = 2 then some (Char.ofNat (shift (shift l.share b) c)) :: scan r₂
              else match r₂ with
                | [] => [none]
                | d :: r₃ =>
                  if !isTail d then none :: scan (d :: r₃)
                  else some (Char.ofNat (shift (shift (shift l.share b) c) d)) :: scan r₃

/-- The text of a byte string that is UTF-8 throughout. -/
def decode? (b : Bytes) : Option String :=
  if (scan b).all Option.isSome then some (String.ofList ((scan b).filterMap id)) else none

/-- The text of any byte string, with U+FFFD for every damaged stretch. -/
def lossy (b : Bytes) : String :=
  String.ofList ((scan b).map (·.getD '\uFFFD'))

end Utf8
end Text
end GrammarAssay
