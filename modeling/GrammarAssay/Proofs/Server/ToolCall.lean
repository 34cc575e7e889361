import GrammarAssay.Proofs.Tool.Arguments
import GrammarAssay.Server

/-!
# A tool call does what its tool does

**Input.** A call of a tool with an object of arguments, and the libraries in memory when it comes.

**Algorithm.** The server reads the arguments of the tool that verifies a grammar, writes them down again with
`null` for those that are left out, and hands them to the tool, which reads them once more. For each argument
the two readings agree: both give the same text, both give none, or both fail. What the tool does depends on
its arguments only through what it reads, so what it is handed is as good as what the client sent.

**Results.**
* `ofMethod_of_calls`: how a call is understood.
* `readArgument_agrees`: the two readings of an argument.
* `assay_of_verifyArguments`: what is handed on asks for the same assay as what was sent.
* `run_answer?_of_isCall`: how a call is answered.
* `callVerify_of_run_eq_ok`, `isError_callVerify_iff`: the result of a call, and whether it is an error.
* `snd_run_callVerify`: what a call leaves in memory.
-/

namespace GrammarAssay
namespace Server

/-- Parameters that name a tool and give it an object of arguments, by their keys or in their order. -/
inductive Calls (name : String) (arguments : List (String × Json)) : Json → Prop
  | members {params : List (String × Json)} :
      Json.lookup? "name" params = some (.str name) →
      Json.lookup? "arguments" params = some (.obj arguments) →
      Calls name arguments (.obj params)
  | items : Calls name arguments (.arr [.obj arguments, .str name])

/-- A message that asks for an answer under an identifier, and calls a tool. -/
structure IsCall (id : Json) (name : String) (arguments : List (String × Json)) (message : Json) :
    Prop where
  id : message.given? "id" = some id
  method : message.member? "method" = some (.str "tools/call")
  params : ∃ params, message.given? "params" = some params ∧ Calls name arguments params

section Understanding

variable {name : String} {arguments : List (String × Json)} {id message params : Json}

theorem object_obj (members : List (String × Json)) : Json.Shape.object (.obj members) = true :=
  List.all_eq_true.mpr fun _ _ => rfl

theorem fits_of_calls (h : Calls name arguments params) : Params.call.fits params = true := by
  cases h with
  | members hname harguments =>
      simp [Params.call, Json.Record.fits, Json.Record.fitsMembers, Json.Member.admits,
        Json.Member.optional, Json.Member.needed, hname, harguments, object_obj, Json.Shape.text]
  | items =>
      simp [Params.call, Json.Record.fits, Json.Record.fitsItems, Json.Member.admits,
        Json.Member.optional, Json.Member.needed, object_obj, Json.Shape.text]

theorem ofMethod_of_calls (h : Calls name arguments params) :
    Request.ofMethod "tools/call" (some params) = .callTool name (some (.obj arguments)) := by
  have hfits := fits_of_calls h
  have hname : Params.call.textOf "name" params = name := by
    cases h with
    | members hname _ => simp [Json.Record.textOf, Json.Record.given?, Json.member?, hname, Json.text?]
    | items => rfl
  have harguments : Params.call.given? "arguments" params = some (.obj arguments) := by
    cases h with
    | members _ harguments => simp [Json.Record.given?, Json.member?, harguments]
    | items => rfl
  simp only [Request.ofMethod, Option.getD_some, Request.when, hfits, if_true, hname, harguments]

/-- A call is answered with the result of the tool, and leaves in memory what that leaves. -/
theorem run_answer?_of_isCall (h : IsCall id name arguments message) (t : FileTree)
    (paths : List Path) (l : Linker) :
    (answer? t paths message).run l =
      (some (envelope id
          (.result ((callTool t paths name (some (.obj arguments))).run l).1.toJson)),
        ((callTool t paths name (some (.obj arguments))).run l).2) := by
  obtain ⟨params, hparams, hcalls⟩ := h.params
  unfold answer?
  rw [h.id, h.method, hparams]
  simp only [ofMethod_of_calls hcalls]
  rfl

end Understanding

section Reading

variable {arguments known : Json} {mismatch : Json.Mismatch}

/-- The two readings of an argument agree: both fail, or both give the same. -/
theorem readArgument_agrees (arguments : Json) (key : String) :
    (∃ mismatch, readArgument arguments key = .error mismatch ∧
      Verify.textArgument arguments key = .error (.notText key)) ∨
    ∃ text, readArgument arguments key = .ok text ∧
      Verify.textArgument arguments key = .ok text := by
  rcases Verify.absent_or_text_or_malformed arguments key with habsent | ⟨text, htext⟩ | hmalformed
  · refine Or.inr ⟨none, ?_, Verify.textArgument_of_absent habsent⟩
    rcases habsent with h | h
    · rw [readArgument, h]
      rfl
    · rw [readArgument, h]
      rfl
  · refine Or.inr ⟨some text, ?_, Verify.textArgument_of_text htext⟩
    rw [readArgument, htext]
    rfl
  · obtain ⟨value, hmember, hnull, htext⟩ := id hmalformed
    refine Or.inl ⟨.kind value .text, ?_, Verify.textArgument_of_malformed hmalformed⟩
    rw [readArgument, hmember, Option.getD_some]
    cases value with
    | null => exact absurd rfl hnull
    | str text => exact absurd rfl (htext text)
    | _ => rfl

/-- An argument that was read and written down again is read as before. -/
theorem textArgument_value {members : List (String × Json)} {key : String} {text : Option String}
    (h : Json.lookup? key members = some ((text.map Json.str).getD .null)) :
    Verify.textArgument (.obj members) key = .ok text := by
  cases text with
  | none => exact Verify.textArgument_of_absent (Or.inr h)
  | some text => exact Verify.textArgument_of_text h

/-- What is handed on asks for the same assay as what was sent. -/
theorem assay_of_verifyArguments (paths : List Path) (h : verifyArguments arguments = .ok known) :
    Verify.assay paths known = Verify.assay paths arguments := by
  unfold verifyArguments at h
  rcases readArgument_agrees arguments "grammar" with ⟨_, hfails, -⟩ | ⟨grammar, hread, hgrammar⟩
  · rw [hfails] at h
    cases h
  rcases readArgument_agrees arguments "library_path" with
    ⟨_, hfails, -⟩ | ⟨libraryPath, hread', hlibrary⟩
  · rw [hread, hfails] at h
    cases h
  rw [hread, hread'] at h
  cases h
  rw [Verify.assay_of_textArgument hgrammar hlibrary]
  exact Verify.assay_of_textArgument (textArgument_value rfl) (textArgument_value rfl)

/-- Arguments that are not handed on ask for no assay. -/
theorem assay_of_verifyArguments_eq_error (paths : List Path)
    (h : verifyArguments arguments = .error mismatch) :
    ∃ key, Verify.assay paths arguments = .error (.notText key) := by
  unfold verifyArguments at h
  unfold Verify.assay
  rcases readArgument_agrees arguments "grammar" with ⟨_, -, hgrammar⟩ | ⟨grammar, hread, hgrammar⟩
  · rw [hgrammar]
    exact ⟨"grammar", rfl⟩
  rcases readArgument_agrees arguments "library_path" with
    ⟨_, -, hlibrary⟩ | ⟨libraryPath, hread', hlibrary⟩
  · rw [hgrammar, hlibrary]
    exact ⟨"library_path", rfl⟩
  rw [hread, hread'] at h
  cases h

end Reading

section Calling

variable {t : FileTree} {paths : List Path} {arguments known : Json} {r : ToolResult} {l : Linker}

/-- What the tool does depends on its arguments only through the assay that they ask for. -/
theorem run_congr (h : Verify.assay paths known = Verify.assay paths arguments) :
    (Verify.run t paths known).run l = (Verify.run t paths arguments).run l := by
  unfold Verify.run Verify.report
  rw [h]

/-- Arguments that ask for an assay are answered with its report. -/
theorem run_of_assay_eq_ok {a : Assay} (h : Verify.assay paths arguments = .ok a) :
    (Verify.run t paths arguments).run l =
      (.ok (ToolResult.ofText ((a.report t).run l).1.render), ((a.report t).run l).2) := by
  rw [Verify.run_eq_map_report, Verify.run_report, h]
  rfl

/-- Arguments that ask for no assay are refused, and nothing happens. -/
theorem run_of_assay_eq_error {fault : ToolFault}
    (h : Verify.assay paths arguments = .error fault) :
    (Verify.run t paths arguments).run l = (.error fault, l) := by
  rw [Verify.run_eq_map_report, Verify.run_report, h]
  rfl

/-- Arguments that are handed on have the result that the tool gives for what was sent. Then the library is given
back. -/
theorem run_callVerify_of_verifyArguments (h : verifyArguments arguments = .ok known) :
    (callVerify t paths arguments).run l =
      (settle ((Verify.run t paths arguments).run l).1,
        ((Verify.run t paths arguments).run l).2.release []) := by
  rw [← run_congr (assay_of_verifyArguments paths h)]
  unfold callVerify
  rw [h]
  rfl

/-- Arguments that are not handed on are refused, and nothing happens. -/
theorem run_callVerify_of_verifyArguments_eq_error {mismatch : Json.Mismatch}
    (h : verifyArguments arguments = .error mismatch) :
    (callVerify t paths arguments).run l = (.refusal mismatch.message, l) := by
  unfold callVerify
  rw [h]
  rfl

/-- A result of the tool is the result of the call. -/
theorem callVerify_of_run_eq_ok (h : ((Verify.run t paths arguments).run l).1 = .ok r) :
    ((callVerify t paths arguments).run l).1 = r := by
  cases hread : verifyArguments arguments with
  | error mismatch =>
      obtain ⟨key, hassay⟩ := assay_of_verifyArguments_eq_error paths hread
      rw [run_of_assay_eq_error hassay] at h
      cases h
  | ok known =>
      rw [run_callVerify_of_verifyArguments hread, h]
      rfl

/-- The result of the call is an error exactly if the tool fails, which depends on the arguments alone. -/
theorem isError_callVerify_iff :
    ((callVerify t paths arguments).run l).1.isError = true ↔
      ∃ fault, ∀ l, ((Verify.run t paths arguments).run l).1 = .error fault := by
  cases hassay : Verify.assay paths arguments with
  | ok a =>
      rw [callVerify_of_run_eq_ok (congrArg Prod.fst (run_of_assay_eq_ok hassay))]
      constructor
      · intro herror
        cases herror
      · rintro ⟨fault, hfails⟩
        have hruns := hfails l
        rw [run_of_assay_eq_ok hassay] at hruns
        cases hruns
  | error fault =>
      refine iff_of_true ?_ ⟨fault, fun l => by rw [run_of_assay_eq_error hassay]⟩
      cases hread : verifyArguments arguments with
      | error mismatch =>
          rw [run_callVerify_of_verifyArguments_eq_error hread]
          rfl
      | ok known =>
          rw [run_callVerify_of_verifyArguments hread, run_of_assay_eq_error hassay]
          rfl

/-- What a call leaves in memory: what the assay leaves that it asks for, when the library is given back, or what
was there before. -/
theorem snd_run_callVerify (t : FileTree) (paths : List Path) (arguments : Json) (l : Linker) :
    (∃ a, Verify.assay paths arguments = .ok a ∧
      ((callVerify t paths arguments).run l).2 = ((a.report t).run l).2.release []) ∨
    ((callVerify t paths arguments).run l).2 = l.release [] ∨
    ((callVerify t paths arguments).run l).2 = l := by
  cases hread : verifyArguments arguments with
  | error mismatch =>
      exact Or.inr (Or.inr (by rw [run_callVerify_of_verifyArguments_eq_error hread]))
  | ok known =>
      rw [run_callVerify_of_verifyArguments hread]
      cases hassay : Verify.assay paths arguments with
      | ok a => exact Or.inl ⟨a, rfl, by rw [run_of_assay_eq_ok hassay]⟩
      | error fault => exact Or.inr (Or.inl (by rw [run_of_assay_eq_error hassay]))

end Calling

end Server
end GrammarAssay
