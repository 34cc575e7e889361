import GrammarAssay.Platform
import GrammarAssay.Platform.Function.Character
import GrammarAssay.Platform.Function.Scanning
import GrammarAssay.Platform.Function.Sorting

/-!
# Functions of the system

**Input.** The name of a function that the libraries define with which every program is started.

**Algorithm.** What a function does is told by its name. One of which nothing is told gives zero.

**Results.**
* `Platform.exportNames`: the functions that there are.
* `Platform.service`: what the function with a name does.
-/

namespace GrammarAssay
namespace Platform

open Execution

/-- The names of all functions, in the order of their places. -/
def exportNames : Array String :=
  startLibrary.exports.toArray

/-- The functions that give a result, by name. -/
def routines : Std.HashMap String Routine :=
  .ofList (Routine.memory ++ Routine.texts ++ Routine.numbers ++ Routine.wide ++ Routine.storage ++
    Routine.printers ++ Routine.scanners ++ Routine.characters)

/-- The functions that call functions, by name. -/
def callers : Std.HashMap String (Runner → Routine) :=
  .ofList Routine.callers

/-- The functions that do not return. -/
def leaps : List String :=
  ["longjmp", "_longjmp", "siglongjmp", "__longjmp_chk"]

/-- What the function with a name does. -/
def service (name : String) : Service := fun run => do
  match routines[name]?, callers[name]? with
  | some routine, _ => answer (← routine)
  | none, some routine => answer (← routine run)
  | none, none => if leaps.contains name then Routine.jumpBack else answer 0

end Platform
end GrammarAssay
