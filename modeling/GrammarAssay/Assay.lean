import GrammarAssay.Handle
import GrammarAssay.Loader
import GrammarAssay.Profile.Scribl

/-!
# Assays

**Input.** An assay names a grammar, the loader that gets at it, and perhaps a profile.

**Algorithm.** The stages come in a fixed order, and the first one that fails ends the assay: the
loader gets at the entry point, which returns a language, whose table format is supported, whose
symbol table is not empty, which a parser takes, and which meets the profile.

**Results.**
* `Assay.perform`, `Assay.run`: the handle of a usable language, or what is wrong.
* `Assay.scribl`: the assay of the Scribl grammar in the search paths.
-/

namespace GrammarAssay

/-- What is to be assayed. -/
structure Assay where
  name : String
  loader : Loader
  profile : Option Profile
deriving DecidableEq

namespace Assay

/-- Checks a language against the profile, if there is one. -/
def checkProfile (profile : Option Profile) (s : LanguageSource) (parser : Parser) : Opening Unit :=
  match profile with
  | none => return
  | some p => ExceptT.mk (p.check s parser)

/-- The stages behind the entry point. -/
def judge (profile : Option Profile) : Option LanguageSource → Opening LanguageSource
  | none => throw .nullLanguage
  | some s => do
    let m := (← getThe Linker).memory
    let f := s.facts m
    if !f.isSupported then
      throw (.unsupportedVersion f.version Language.Facts.minVersion Language.Facts.maxVersion)
    else if f.nodeKindCount = 0 then throw .noNodeKinds
    else
      match Parser.ofSource m s with
      | .error reason => throw (.refusedByParser reason)
      | .ok parser =>
        checkProfile profile s parser
        return s

/-- The stages, one behind the other. -/
def stages (t : FileTree) (a : Assay) : Opening Handle := do
  let artifact ← a.loader.load t
  let source ← judge a.profile artifact.entry
  return ⟨a.name, source, artifact.library⟩

/-- The handle of a usable language, or what is wrong with which grammar. -/
def perform (t : FileTree) (a : Assay) : StateM Linker (Except Fault Handle) := do
  return (← (a.stages t).run).mapError fun cause => ⟨a.name, cause⟩

/-- The handle of a usable language, or what is wrong, if an assay begins with some libraries in memory. -/
def run (t : FileTree) (l : Linker) (a : Assay) : Except Fault Handle :=
  ((a.perform t).run l).1

/-- The assay of the Scribl grammar, whose library stands in one of the search paths. -/
def scribl (paths : List Path) : Assay :=
  ⟨Scribl.displayName, .search Scribl.grammarName paths, some Scribl.profile⟩

end Assay
end GrammarAssay
