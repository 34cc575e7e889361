import GrammarAssay.Json
import GrammarAssay.Decimal.Shortest

/-!
# JSON text

**Input.** A JSON value.

**Algorithm.** The text has no blanks. In a string, a double quote, a backslash and the control
characters below U+0020 are escaped, five of them by a letter and the others by four hexadecimal
digits; every other character stands for itself.

**Results.**
* `escapeChar`: how one character is written inside a string.
* `chars`, `render`: the text of a value.
-/

namespace GrammarAssay
namespace Json

/-- How one character is written inside a string. -/
def escapeChar (c : Char) : List Char :=
  if c = '"' then ['\\', '"']
  else if c = '\\' then ['\\', '\\']
  else if c = '\x08' then ['\\', 'b']
  else if c = '\t' then ['\\', 't']
  else if c = '\n' then ['\\', 'n']
  else if c = '\x0c' then ['\\', 'f']
  else if c = '\r' then ['\\', 'r']
  else if c.toNat < 0x20 then
    ['\\', 'u', '0', '0', Nat.digitChar (c.toNat / 16), Nat.digitChar (c.toNat % 16)]
  else [c]

/-- The text of a string between its quotes. -/
def stringChars (s : String) : List Char :=
  '"' :: (s.toList.flatMap escapeChar ++ ['"'])

/-- The text of an integer. -/
def intChars (n : Int) : List Char :=
  if n < 0 then '-' :: Nat.toDigits 10 n.natAbs else Nat.toDigits 10 n.natAbs

mutual

/-- The text of a value. -/
def chars : Json → List Char
  | .null => ['n', 'u', 'l', 'l']
  | .bool true => ['t', 'r', 'u', 'e']
  | .bool false => ['f', 'a', 'l', 's', 'e']
  | .int n => intChars n
  | .real x => x.text
  | .str s => stringChars s
  | .arr [] => ['[', ']']
  | .arr (v :: rest) => '[' :: (chars v ++ itemChars rest)
  | .obj [] => ['\x7b', '\x7d']
  | .obj ((k, v) :: rest) => '\x7b' :: (stringChars k ++ ':' :: (chars v ++ memberChars rest))

/-- The text of the items after the first one, up to the closing bracket. -/
def itemChars : List Json → List Char
  | [] => [']']
  | v :: rest => ',' :: (chars v ++ itemChars rest)

/-- The text of the members after the first one, up to the closing brace. -/
def memberChars : List (String × Json) → List Char
  | [] => ['\x7d']
  | (k, v) :: rest => ',' :: (stringChars k ++ ':' :: (chars v ++ memberChars rest))

end

/-- The text of a value. -/
def render (j : Json) : String :=
  String.ofList j.chars

end Json
end GrammarAssay
