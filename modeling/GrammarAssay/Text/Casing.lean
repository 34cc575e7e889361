import GrammarAssay.Text.Blank
import GrammarAssay.Text.Casing.Table

/-!
# Lower case

**Input.** Any text.

**Algorithm.** Every character is replaced by its lower case, which is one character for all but
U+0130. A capital sigma is the only letter whose lower case depends on its place: at the end of a
word it becomes the final sigma. A word ends where the nearest character before is cased and the
nearest character behind is not, characters with `Case_Ignorable` being passed over.

**Results.**
* `lowerChar`: the lower case of one character.
* `lowerText`: the lower case of a text.
-/

namespace GrammarAssay
namespace Text
namespace Casing

/-- A capital letter of ASCII. -/
def isAsciiUpper (c : Char) : Bool :=
  'A' ≤ c && c ≤ 'Z'

/-- A small letter of ASCII. -/
def isAsciiLower (c : Char) : Bool :=
  'a' ≤ c && c ≤ 'z'

/-- The property `Cased`. -/
def isCased (c : Char) : Bool :=
  if c.toNat < 0x80 then isAsciiUpper c || isAsciiLower c
  else inRanges casedRanges c.toNat

/-- The property `Case_Ignorable`. -/
def isIgnorable (c : Char) : Bool :=
  if c.toNat < 0x80 then ['\'', '.', ':', '^', '\x60'].contains c
  else inRanges ignorableRanges c.toNat

/-- Does a run hold the code point? -/
def CaseRun.holds (r : CaseRun) (n : Nat) : Bool :=
  r.first ≤ n && n ≤ r.last && (n - r.first) % r.stride == 0

/-- The lower case of a character on its own. -/
def lowerChar (c : Char) : List Char :=
  if c.toNat < 0x80 then [if isAsciiUpper c then Char.ofNat (c.toNat + 32) else c]
  else if c = '\u0130' then ['i', '\u0307']
  else match lowerRuns.find? (·.holds c.toNat) with
    | some r => [Char.ofNat (c.toNat + r.offset).toNat]
    | none => [c]

/-- Is the nearest character that counts a cased one? -/
def startsCased (cs : List Char) : Bool :=
  match cs.dropWhile isIgnorable with
  | [] => false
  | c :: _ => isCased c

/-- The lower case of characters, `afterCased` telling whether the nearest character before them
that counts is cased. -/
def lowerFrom (afterCased : Bool) : List Char → List Char
  | [] => []
  | c :: cs =>
    (if c = 'Σ' then [if afterCased && !startsCased cs then 'ς' else 'σ'] else lowerChar c) ++
      lowerFrom (if isIgnorable c then afterCased else isCased c) cs

/-- The lower case of a text. -/
def lowerText (s : String) : String :=
  String.ofList (lowerFrom false s.toList)

end Casing
end Text
end GrammarAssay
