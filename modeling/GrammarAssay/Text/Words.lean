/-!
# Words

**Input.** Lines, each of which holds words with single blanks between them.

**Results.**
* `Text.words`: the words of the lines, in order.
-/

namespace GrammarAssay
namespace Text

/-- The words of lines, which single blanks separate. -/
def words (lines : List String) : List String :=
  lines.flatMap fun l => (l.toList.splitOn ' ').map String.ofList

end Text
end GrammarAssay
