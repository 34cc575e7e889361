import GrammarAssay.Text.Blank
import GrammarAssay.Text.Quoted.Table

/-!
# Quoted text

**Input.** Any text, to be shown on one line between double quotes.

**Algorithm.** A double quote, a backslash, a tab, a carriage return, a line feed and NUL are shown
by a backslash and one character. A character that shows no glyph, or that would attach to the one
before it, is shown by its code point in hexadecimal between braces. All else stands for itself.

**Results.**
* `escape`: how one character is shown.
* `quote`: the text between its quotes.
-/

namespace GrammarAssay
namespace Text
namespace Quoted

/-- Can the character be shown as it is? -/
def showsItself (c : Char) : Bool :=
  if c.toNat < 0x80 then 0x20 ≤ c.toNat && c.toNat < 0x7f
  else !inRanges hiddenRanges c.toNat && !inRanges extendRanges c.toNat

/-- How one character is shown. -/
def escape (c : Char) : List Char :=
  if c = '"' then ['\\', '"']
  else if c = '\\' then ['\\', '\\']
  else if c = '\t' then ['\\', 't']
  else if c = '\r' then ['\\', 'r']
  else if c = '\n' then ['\\', 'n']
  else if c = '\x00' then ['\\', '0']
  else if showsItself c then [c]
  else ['\\', 'u', '\x7b'] ++ Nat.toDigits 16 c.toNat ++ ['\x7d']

/-- A text between double quotes. -/
def quote (s : String) : String :=
  String.ofList ('"' :: s.toList.flatMap escape ++ ['"'])

end Quoted
end Text
end GrammarAssay
