import GrammarAssay.Text.Digits

/-!
# Faults

**Input.** An assay of a grammar stops at the first thing that is wrong.

**Results.**
* `Cause`: what can be wrong.
* `Fault`: a cause together with the name of the grammar.
* `Fault.message`: the text of a fault.
-/

namespace GrammarAssay

/-- What can be wrong with a grammar. -/
inductive Cause where
  /-- No search path holds a library of that file name. -/
  | notInSearchPaths (file : String) (searched : Nat)
  /-- The path leads to no regular file. -/
  | noLibrary (path : String)
  /-- The file does not open as a library. -/
  | unopenable (path reason : String)
  /-- The library lacks the entry point. -/
  | noEntryPoint (symbol : String)
  /-- The entry point returns nothing. -/
  | nullLanguage
  /-- No parser takes the table format. -/
  | unsupportedVersion (found min max : UInt64)
  /-- The symbol table is empty. -/
  | noNodeKinds
  /-- The parser refuses the tables. -/
  | refusedByParser (reason : String)
  /-- A required node kind is not found. -/
  | undefinedKind (kind : String)
  /-- A required field is not found. -/
  | undefinedField (field : String)
  /-- The sample has another root than the required one. -/
  | wrongRoot (expected found : String)
deriving DecidableEq

/-- The text of a cause. -/
def Cause.message : Cause → String
  | .notInSearchPaths file searched =>
    "`" ++ file ++ "` not found in " ++ Text.decimal searched ++ " search path(s)"
  | .noLibrary path => "no library at " ++ path
  | .unopenable path reason => "cannot open " ++ path ++ ": " ++ reason
  | .noEntryPoint symbol => "library does not export `" ++ symbol ++ "`"
  | .nullLanguage => "loader returned a null language"
  | .unsupportedVersion found min max =>
    "ABI version " ++ Text.decimal found.toNat ++ " is outside the supported range " ++
      Text.decimal min.toNat ++ "..=" ++ Text.decimal max.toNat
  | .noNodeKinds => "language declares no node kinds"
  | .refusedByParser reason => "parser rejected the language: " ++ reason
  | .undefinedKind kind => "node kind `" ++ kind ++ "` is not defined"
  | .undefinedField field => "field `" ++ field ++ "` is not defined"
  | .wrongRoot expected found =>
    "sample parsed to root `" ++ found ++ "`, expected `" ++ expected ++ "`"

/-- What is wrong with which grammar. -/
structure Fault where
  grammar : String
  cause : Cause
deriving DecidableEq

/-- The text of a fault. -/
def Fault.message (f : Fault) : String :=
  "Error loading " ++ f.grammar ++ " grammar: " ++ f.cause.message

end GrammarAssay
