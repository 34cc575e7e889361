import GrammarAssay.Fault
import GrammarAssay.Parser

/-!
# Profiles

**Input.** A profile lists node kinds and fields that a language has to declare, and a sample with
the kind of its root.

**Algorithm.** The kinds are looked up first, then the fields, then the sample is parsed. The first
miss ends the check.

**Results.**
* `Profile.check`: whether a language and its parser meet a profile.
-/

namespace GrammarAssay

/-- A text and the kind of the root of its tree. -/
structure Sample where
  source : String
  rootKind : String
deriving DecidableEq

/-- What a language has to declare. -/
structure Profile where
  kinds : List String
  fields : List String
  sample : Option Sample
deriving DecidableEq

namespace Profile

/-- The root kind that is reported where the parser gives no tree. -/
def noTree : String := "<no tree>"

/-- The first required kind that the language lacks. -/
def missingKind? (p : Profile) (m : Memory) (s : LanguageSource) : Option String :=
  p.kinds.find? fun k => !s.hasKind m k

/-- The first required field that the language lacks. -/
def missingField? (p : Profile) (m : Memory) (s : LanguageSource) : Option String :=
  p.fields.find? fun f => !s.hasField m f

/-- Compares the root kind of the sample with the required one. -/
def checkRoot (s : Sample) (root : Option String) : Except Cause Unit :=
  let found := root.getD noTree
  if found = s.rootKind then .ok () else .error (.wrongRoot s.rootKind found)

/-- Parses the sample, if there is one, and checks its root. -/
def checkSample (p : Profile) (parser : Parser) : StateM Linker (Except Cause Unit) := do
  match p.sample with
  | none => return .ok ()
  | some s => return checkRoot s (← parser.parse s.source)

/-- Checks a language and a parser against the profile. -/
def check (p : Profile) (s : LanguageSource) (parser : Parser) :
    StateM Linker (Except Cause Unit) := do
  let m := (← get).memory
  match p.missingKind? m s, p.missingField? m s with
  | some k, _ => return .error (.undefinedKind k)
  | none, some f => return .error (.undefinedField f)
  | none, none => p.checkSample parser

end Profile
end GrammarAssay
