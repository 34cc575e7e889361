import GrammarAssay.Proofs.Assay.Repeat
import GrammarAssay.Proofs.Fault.Message
import GrammarAssay.Proofs.Library.Spelling
import GrammarAssay.Proofs.Linker.Permanent
import GrammarAssay.Proofs.Report.RoundTrip
import GrammarAssay.Proofs.Server.ToolCall
import GrammarAssay.Settings

/-!
# A run of messages

**Input.** A server that has started, and a run of messages, among them a call of a tool.

**Algorithm.** The server answers a call with what the tool gives in its process, as that is when the call comes.
What is behind the call counts for nothing. What is before it counts through the libraries alone that it has left
in memory. A message that opens nothing or a described library leaves none in a program that holds none; so by
induction a run of such messages leaves none, and a call of such a library has the result that it has as the first
thing that the process does. A call that opens nothing has that result in any case, and so has a list of the
grammars.

**Results.**
* `memoryAfter`: the libraries in memory behind a run of messages.
* `answers_split`: where the answer to a message stands.
* `idle_run_answer?`, `idle_memoryAfter`: a message, and a run of them, that leaves no library in memory.
* `answers_refine_tools`: what the server answers to a call of a tool.
-/

namespace GrammarAssay
namespace Server

/-- The libraries in memory behind a run of messages. -/
def memoryAfter (t : FileTree) (paths : List Path) (messages : List Json) : Linker :=
  ((answerAll t paths messages).run (startUp t paths)).2

/-- A message that calls the tool that verifies a grammar asks for an assay. -/
inductive Asks (paths : List Path) (a : Assay) : Json → Prop
  | call {id message arguments : Json} {method : String} :
      message.given? "id" = some id →
      message.member? "method" = some (.str method) →
      Request.ofMethod method (message.given? "params") = .callTool verifyName (some arguments) →
      Verify.assay paths arguments = .ok a →
      Asks paths a message

/-- A run of messages that open described libraries only, in a server that has opened no others before. -/
structure OpensDescribed (t : FileTree) (paths : List Path) (messages : List Json) : Prop where
  startUp : (Assay.scribl paths).loader.OpensDescribed t
  messages : ∀ message ∈ messages, ∀ a, Asks paths a message → a.loader.OpensDescribed t

section Running

variable {t : FileTree} {paths : List Path} {message answer : Json} {messages : List Json}
  {l : Linker}

theorem run_answerAll_nil (l : Linker) : (answerAll t paths []).run l = ([], l) := by
  rfl

theorem answers_nil : answers t paths [] = [] := by
  rfl

theorem run_answerAll_cons (message : Json) (rest : List Json) (l : Linker) :
    (answerAll t paths (message :: rest)).run l =
      (((answer? t paths message).run l).1.toList ++
          ((answerAll t paths rest).run ((answer? t paths message).run l).2).1,
        ((answerAll t paths rest).run ((answer? t paths message).run l).2).2) := by
  rfl

theorem run_answerAll_append (before after : List Json) (l : Linker) :
    (answerAll t paths (before ++ after)).run l =
      (((answerAll t paths before).run l).1 ++
          ((answerAll t paths after).run ((answerAll t paths before).run l).2).1,
        ((answerAll t paths after).run ((answerAll t paths before).run l).2).2) := by
  induction before generalizing l with
  | nil => rfl
  | cons message before ih =>
      simp only [List.cons_append, run_answerAll_cons, ih, List.append_assoc]

theorem memoryAfter_concat (before : List Json) (message : Json) :
    memoryAfter t paths (before ++ [message]) =
      ((answer? t paths message).run (memoryAfter t paths before)).2 := by
  unfold memoryAfter
  rw [run_answerAll_append]
  rfl

/-- Between the answers to what is before it stands the answer that a message gets with what they leave in
memory. -/
theorem answers_split (before after : List Json) :
    answers t paths (before ++ message :: after) =
      answers t paths before ++
        (((answer? t paths message).run (memoryAfter t paths before)).1.toList ++
          ((answerAll t paths after).run (memoryAfter t paths (before ++ [message]))).1) := by
  rw [answers, run_answerAll_append, run_answerAll_cons, memoryAfter_concat]
  rfl

/-- Only a call of the tool that verifies a grammar changes what is in memory. -/
theorem snd_run_reply (t : FileTree) (paths : List Path) (request : Request) (l : Linker) :
    (∃ arguments, request = .callTool verifyName (some arguments) ∧
      ((reply t paths request).run l).2 = ((callVerify t paths arguments).run l).2) ∨
    ((reply t paths request).run l).2 = l := by
  cases request with
  | callTool name arguments =>
      have hreply : ((reply t paths (.callTool name arguments)).run l).2 =
          ((callTool t paths name arguments).run l).2 := rfl
      cases arguments with
      | none => exact Or.inr hreply
      | some arguments =>
          rw [hreply, callTool]
          by_cases hlist : name = listName
          · rw [if_pos hlist]
            exact Or.inr rfl
          · rw [if_neg hlist]
            by_cases hverify : name = verifyName
            · rw [if_pos hverify, hverify]
              exact Or.inl ⟨arguments, rfl, rfl⟩
            · rw [if_neg hverify]
              exact Or.inr rfl
  | _ => exact Or.inr rfl

/-- What a message leaves in memory: what the assay leaves that it asks for, when the library is given back, or
what was there before. -/
theorem snd_run_answer? (t : FileTree) (paths : List Path) (message : Json) (l : Linker) :
    (∃ a, Asks paths a message ∧
      ((answer? t paths message).run l).2 = ((a.report t).run l).2.release []) ∨
    ((answer? t paths message).run l).2 = l.release [] ∨
    ((answer? t paths message).run l).2 = l := by
  unfold answer?
  split
  · next id method hid hmethod =>
      rcases snd_run_reply t paths (Request.ofMethod method (message.given? "params")) l with
        ⟨arguments, hrequest, hreply⟩ | hreply
      · have hleft : ∀ l', ((callVerify t paths arguments).run l).2 = l' →
            ((reply t paths (Request.ofMethod method (message.given? "params"))).run l).2 = l' :=
          fun l' h => hreply.trans h
        rcases snd_run_callVerify t paths arguments l with ⟨a, hassay, hcall⟩ | hcall | hcall
        · exact Or.inl ⟨a, .call hid hmethod hrequest hassay, hleft _ hcall⟩
        · exact Or.inr (Or.inl (hleft _ hcall))
        · exact Or.inr (Or.inr (hleft _ hcall))
      · exact Or.inr (Or.inr hreply)
  · exact Or.inr (Or.inr rfl)

/-- A message leaves no library in memory where none is, if it opens described libraries only. -/
theorem idle_run_answer? (hl : l.Idle)
    (hmessage : ∀ a, Asks paths a message → a.loader.OpensDescribed t) :
    ((answer? t paths message).run l).2.Idle := by
  rcases snd_run_answer? t paths message l with ⟨a, hasks, hleft⟩ | hleft | hleft
  · rw [hleft]
    exact Linker.idle_release_of_light (Assay.light_report hl (hmessage a hasks))
  · rw [hleft]
    exact Linker.idle_release_of_light hl.light
  · rw [hleft]
    exact hl

/-- So does a run of such messages. -/
theorem idle_run_answerAll (hl : l.Idle)
    (hmessages : ∀ message ∈ messages, ∀ a, Asks paths a message → a.loader.OpensDescribed t) :
    ((answerAll t paths messages).run l).2.Idle := by
  induction messages generalizing l with
  | nil => exact hl
  | cons message rest ih =>
      rw [run_answerAll_cons]
      refine ih (idle_run_answer? hl (hmessages message List.mem_cons_self)) ?_
      exact fun other hother => hmessages other (List.mem_cons_of_mem message hother)

theorem idle_memoryAfter (h : OpensDescribed t paths messages) :
    (memoryAfter t paths messages).Idle := by
  have hstart : (startUp t paths).Idle :=
    Linker.idle_release_of_light (Assay.light_report Linker.idle_start h.startUp)
  exact idle_run_answerAll hstart h.messages

end Running

section Repeating

variable {t : FileTree} {paths : List Path} {arguments : Json} {r : ToolResult} {l : Linker}

/-- Arguments that open no library have the same result whatever is in memory. -/
theorem fst_run_of_not_finds
    (h : ∀ a, Verify.assay paths arguments = .ok a → ∀ name path, ¬ a.loader.Finds t name path)
    (l l' : Linker) :
    ((Verify.run t paths arguments).run l).1 = ((Verify.run t paths arguments).run l').1 := by
  cases hassay : Verify.assay paths arguments with
  | error fault => rw [run_of_assay_eq_error hassay, run_of_assay_eq_error hassay]
  | ok a =>
      obtain ⟨r, hr⟩ := Assay.exists_report_of_not_finds (h a hassay)
      rw [run_of_assay_eq_ok hassay, run_of_assay_eq_ok hassay, hr, hr]

/-- Arguments that open a described library at a path that they spell out have the same result in all programs that
hold no library. -/
theorem fst_run_of_idle
    (h : ∀ a, Verify.assay paths arguments = .ok a →
      a.loader.OpensDescribed t ∧ a.loader.SpellsOut t) {l l' : Linker} (hl : l.Idle)
    (hl' : l'.Idle) :
    ((Verify.run t paths arguments).run l).1 = ((Verify.run t paths arguments).run l').1 := by
  cases hassay : Verify.assay paths arguments with
  | error fault => rw [run_of_assay_eq_error hassay, run_of_assay_eq_error hassay]
  | ok a =>
      obtain ⟨hdescribed, hspelled⟩ := h a hassay
      obtain ⟨r, hr⟩ := Assay.exists_report_of_idle hdescribed hspelled
      rw [run_of_assay_eq_ok hassay, run_of_assay_eq_ok hassay, hr l hl, hr l' hl']

end Repeating

/-- **The server does what its tools do.** A call of the tool that verifies a grammar, with any object of
arguments, is answered with the result that the tool gives for these arguments in the process of the server, as
that is when the call comes. The answer tells of an error exactly if the tool fails, which depends on the arguments
alone. The messages behind count for nothing. Those before count for nothing if the call opens no library; and if
they leave none in memory and the call opens a described library by a path that it spells out. Then the answer is
the result that the tool gives in a process that has opened nothing. Messages leave no library in memory that open
described ones only. A call of the tool that lists the grammars is answered with its result, and no other message
counts. -/
theorem answers_refine_tools (t : FileTree) (e : Environment) (id message : Json)
    (arguments : List (String × Json)) :
    (IsCall id "verify_grammar" arguments message → ∀ before, ∃ answer : ToolResult,
      (∀ after, answers t e.searchPaths (before ++ message :: after) =
        answers t e.searchPaths before ++ envelope id (.result answer.toJson) ::
          ((answerAll t e.searchPaths after).run
            (memoryAfter t e.searchPaths (before ++ [message]))).1) ∧
      (∀ r, ((Verify.run t e.searchPaths (.obj arguments)).run
          (memoryAfter t e.searchPaths before)).1 = .ok r → answer = r) ∧
      (answer.isError = true ↔
        ∃ fault, ∀ l, ((Verify.run t e.searchPaths (.obj arguments)).run l).1 = .error fault) ∧
      ((∀ a, Verify.assay e.searchPaths (.obj arguments) = .ok a →
          ∀ name path, ¬ a.loader.Finds t name path) ∨
        (memoryAfter t e.searchPaths before).Idle ∧
          (∀ a, Verify.assay e.searchPaths (.obj arguments) = .ok a →
            a.loader.OpensDescribed t ∧ a.loader.SpellsOut t) →
        ∀ r, ((Verify.run t e.searchPaths (.obj arguments)).run Linker.start).1 = .ok r →
          answer = r)) ∧
    (∀ before, OpensDescribed t e.searchPaths before →
      (memoryAfter t e.searchPaths before).Idle) ∧
    (IsCall id "list_grammars" arguments message →
      ∃ answer, Listing.run t e.searchPaths = .ok answer ∧
        ∀ before after, answers t e.searchPaths (before ++ message :: after) =
          answers t e.searchPaths before ++ envelope id (.result answer.toJson) ::
            ((answerAll t e.searchPaths after).run (memoryAfter t e.searchPaths before)).1) := by
  refine ⟨?_, fun before => idle_memoryAfter, ?_⟩
  · intro hcall before
    have hverify : ∀ l, (callTool t e.searchPaths "verify_grammar" (some (.obj arguments))).run l =
        (callVerify t e.searchPaths (.obj arguments)).run l := fun l => rfl
    refine ⟨((callVerify t e.searchPaths (.obj arguments)).run
      (memoryAfter t e.searchPaths before)).1, ?_, ?_, isError_callVerify_iff, ?_⟩
    · intro after
      rw [answers_split, run_answer?_of_isCall hcall, hverify]
      rfl
    · intro r hrun
      exact callVerify_of_run_eq_ok hrun
    · rintro (hnothing | ⟨hidle, hdescribed⟩) r hrun
      · rw [fst_run_of_not_finds hnothing Linker.start (memoryAfter t e.searchPaths before)] at hrun
        exact callVerify_of_run_eq_ok hrun
      · rw [fst_run_of_idle hdescribed Linker.idle_start hidle] at hrun
        exact callVerify_of_run_eq_ok hrun
  · intro hcall
    have hlist : ∀ l, (callTool t e.searchPaths "list_grammars" (some (.obj arguments))).run l =
        (settle (Listing.run t e.searchPaths), l) := fun l => rfl
    refine ⟨_, rfl, fun before after => ?_⟩
    rw [answers_split, memoryAfter_concat, run_answer?_of_isCall hcall, hlist]
    rfl

/-- A call of the tool that verifies a grammar, for the library at a path. -/
def verifyCall (id : Int) (path : String) : Json :=
  .obj
    [("id", .int id), ("method", .str "tools/call"),
     ("params", .obj
       [("name", .str "verify_grammar"), ("arguments", .obj [("library_path", .str path)])])]

theorem isCall_verifyCall (id : Int) (path : String) :
    IsCall (.int id) "verify_grammar" [("library_path", .str path)] (verifyCall id path) :=
  ⟨rfl, rfl, _, rfl, .members rfl rfl⟩

/-- A call asks for what its arguments ask for. -/
theorem assay_of_asks_verifyCall {paths : List Path} {a : Assay} {id : Int} {path : String}
    (h : Asks paths a (verifyCall id path)) :
    Verify.assay paths (.obj [("library_path", .str path)]) = .ok a := by
  cases h with
  | call _ hmethod hrequest hassay =>
      have hcalls : Calls "verify_grammar" [("library_path", .str path)]
          (.obj [("name", .str "verify_grammar"),
            ("arguments", .obj [("library_path", .str path)])]) := .members rfl rfl
      cases hmethod
      cases (ofMethod_of_calls hcalls).symm.trans hrequest
      exact hassay

/-- The path of a library asks for an assay under the name that its file name tells. -/
theorem assay_libraryPath (paths : List Path) {text name : String}
    (hname : Loader.grammarOfPath? (Path.ofString text) = some name)
    (hother : name ≠ Scribl.grammarName) :
    Verify.assay paths (.obj [("library_path", .str text)]) =
      .ok ⟨name, .library name (Path.ofString text), none⟩ := by
  have hassay : Verify.assay paths (.obj [("library_path", .str text)]) =
      Verify.ofLibrary text := Verify.assay_of_libraryPath (Or.inl rfl) rfl
  rw [hassay, Verify.ofLibrary, hname]
  simp only [if_neg hother]

def bareEnvironment : Environment where
  grammarPath := none
  dataHome := none
  home := ⟨[slash]⟩
  executableDirectory := ⟨[slash]⟩

/-- A root directory with the library of `x`. -/
def libraryOfXAtRoot : FileTree where
  workingDirectory := []
  programDirectory := ⟨[slash]⟩
  nodes := [([fileOfX], .file 0 (.library libraryOfX))]
  written := 1

def pathAtRoot : Path :=
  Path.ofString "/libtree-sitter-x.so"

theorem assay_pathAtRoot (paths : List Path) :
    Verify.assay paths (.obj [("library_path", .str "/libtree-sitter-x.so")]) =
      .ok ⟨"x", .library "x" pathAtRoot, none⟩ := by
  have hname : Loader.grammarOfPath? pathAtRoot = some "x" :=
    Loader.grammarOfPath?_eq_some_iff.mpr ⟨by decide, fileOfX, by decide, rfl⟩
  exact assay_libraryPath paths hname (by decide)

theorem plain_pathAtRoot : pathAtRoot.Plain :=
  ⟨by decide, by decide, by decide⟩

theorem resolve_pathAtRoot : libraryOfXAtRoot.resolve pathAtRoot =
    .ok (.file 0 (.library libraryOfX)) := by
  rfl

theorem locate_scribl_at_root :
    Search.locate libraryOfXAtRoot bareEnvironment.searchPaths Scribl.grammarName = none := by
  decide

theorem opensDescribed_pathAtRoot (id : Int) : OpensDescribed libraryOfXAtRoot
    bareEnvironment.searchPaths [verifyCall id "/libtree-sitter-x.so"] where
  startUp := by
    intro name path hfinds
    exact absurd hfinds (Loader.not_finds_search_of_locate locate_scribl_at_root name path)
  messages := by
    intro message hmessage a hasks
    rw [List.mem_singleton.mp hmessage] at hasks
    cases (assay_pathAtRoot _).symm.trans (assay_of_asks_verifyCall hasks)
    exact Loader.opensDescribed_library plain_pathAtRoot resolve_pathAtRoot "x"

theorem answers_refine_tools_twice : ∃ answer : ToolResult, answer.isError = false ∧
    answers libraryOfXAtRoot bareEnvironment.searchPaths
        [verifyCall 1 "/libtree-sitter-x.so", verifyCall 2 "/libtree-sitter-x.so"] =
      [envelope (.int 1) (.result answer.toJson), envelope (.int 2) (.result answer.toJson)] := by
  have hassay := assay_pathAtRoot bareEnvironment.searchPaths
  have hrun := run_of_assay_eq_ok (t := libraryOfXAtRoot) (l := Linker.start) hassay
  have hown : ∀ a, Verify.assay bareEnvironment.searchPaths
      (.obj [("library_path", .str "/libtree-sitter-x.so")]) = .ok a →
        a.loader.OpensDescribed libraryOfXAtRoot ∧ a.loader.SpellsOut libraryOfXAtRoot := by
    intro a ha
    cases hassay.symm.trans ha
    refine ⟨Loader.opensDescribed_library plain_pathAtRoot resolve_pathAtRoot "x", ?_⟩
    intro name path hfinds
    cases hfinds
    exact plain_pathAtRoot.slash
  obtain ⟨hfirst, hidle, -⟩ := answers_refine_tools libraryOfXAtRoot bareEnvironment (.int 1)
    (verifyCall 1 "/libtree-sitter-x.so") [("library_path", .str "/libtree-sitter-x.so")]
  obtain ⟨hsecond, -, -⟩ := answers_refine_tools libraryOfXAtRoot bareEnvironment (.int 2)
    (verifyCall 2 "/libtree-sitter-x.so") [("library_path", .str "/libtree-sitter-x.so")]
  obtain ⟨first, hanswers, -, -, hsame⟩ := hfirst (isCall_verifyCall 1 _) []
  obtain ⟨second, hanswers', -, -, hsame'⟩ := hsecond (isCall_verifyCall 2 _)
    [verifyCall 1 "/libtree-sitter-x.so"]
  have hempty : OpensDescribed libraryOfXAtRoot bareEnvironment.searchPaths [] :=
    ⟨(opensDescribed_pathAtRoot 1).startUp, by simp⟩
  have hfirst := hsame (Or.inr ⟨hidle _ hempty, hown⟩) _ (congrArg Prod.fst hrun)
  have hsecond := hsame' (Or.inr ⟨hidle _ (opensDescribed_pathAtRoot 1), hown⟩) _
    (congrArg Prod.fst hrun)
  have hone := hanswers []
  rw [List.nil_append, answers_nil, List.nil_append, run_answerAll_nil] at hone
  have hboth := hanswers' []
  rw [List.singleton_append, hone, run_answerAll_nil, hsecond, ← hfirst] at hboth
  refine ⟨first, ?_, hboth⟩
  rw [hfirst]
  rfl

/-- A call that asks for an assay is answered with its report, and gives the library back. -/
theorem run_answer?_verifyCall {t : FileTree} {paths : List Path} {path : String} {a : Assay}
    (hassay : Verify.assay paths (.obj [("library_path", .str path)]) = .ok a) (id : Int)
    (l : Linker) :
    (answer? t paths (verifyCall id path)).run l =
      (some (envelope (.int id)
          (.result (ToolResult.ofText ((a.report t).run l).1.render).toJson)),
        ((a.report t).run l).2.release []) := by
  have hknown : verifyArguments (.obj [("library_path", .str path)]) =
      .ok (.obj [("grammar", .null), ("library_path", .str path)]) := rfl
  have hcall : (callTool t paths "verify_grammar"
      (some (.obj [("library_path", .str path)]))).run l =
        (callVerify t paths (.obj [("library_path", .str path)])).run l := rfl
  rw [run_answer?_of_isCall (isCall_verifyCall id path), hcall,
    run_callVerify_of_verifyArguments hknown, run_of_assay_eq_ok hassay]
  rfl

/-- A server that comes upon no library of the Scribl grammar starts with nothing in memory. -/
theorem startUp_of_locate {t : FileTree} {paths : List Path}
    (h : Search.locate t paths Scribl.grammarName = none) : startUp t paths = Linker.start := by
  obtain ⟨r, hr⟩ := Assay.exists_report_of_not_finds (t := t) (a := Assay.scribl paths)
    (Loader.not_finds_search_of_locate h)
  show (((Assay.scribl paths).report t).run Linker.start).2.release [] = Linker.start
  rw [hr, Linker.idle_start.release_eq]

section Permanent

open GrammarAssay.PermanentLibrary

theorem assay_spelled (paths : List Path) :
    Verify.assay paths (.obj [("library_path", .str "./libtree-sitter-k.so")]) =
      .ok ⟨"k", .library "k" spelled, none⟩ := by
  have hname : Loader.grammarOfPath? spelled = some "k" :=
    Loader.grammarOfPath?_eq_some_iff.mpr ⟨by decide, file, by decide, rfl⟩
  exact assay_libraryPath paths hname (by decide)

theorem assay_bare (paths : List Path) :
    Verify.assay paths (.obj [("library_path", .str "libtree-sitter-k.so")]) =
      .ok ⟨"k", .library "k" bare, none⟩ := by
  have hname : Loader.grammarOfPath? bare = some "k" :=
    Loader.grammarOfPath?_eq_some_iff.mpr ⟨by decide, file, by decide, rfl⟩
  exact assay_libraryPath paths hname (by decide)

/-- The library is loaded and lacks the entry point. -/
theorem snd_report_spelled :
    ((Assay.report atRoot ⟨"k", .library "k" spelled, none⟩).run Linker.start).2 = loaded := by
  have hfile : atRoot.isFile spelled = true := by
    decide
  obtain ⟨r, hr⟩ := Assay.exists_report_of_ends atRoot ⟨"k", .library "k" spelled, none⟩
    (.error (.noEntryPoint (Library.entrySymbol "k")))
  have hends : (Loader.library "k" spelled).Ends atRoot Linker.start
      (.error (.noEntryPoint (Library.entrySymbol "k"))) loaded := by
    refine ⟨none, ?_⟩
    show (Loader.loadAt atRoot "k" spelled).outcome Linker.start = _
    rw [Loader.outcome_loadAt, Library.outcome_openAt, if_pos hfile, load_spelled]
    simp only [Linker.lookEntry_of_isPlain module?_loaded rfl isPlain_entries rfl]
    rfl
  rw [hr Linker.start loaded hends]

theorem isFile_bare : atRoot.isFile bare = true := by
  decide

/-- In a program that has opened nothing, the library is not found under its own name. -/
theorem run_bare_start : ∃ words, Assay.run atRoot Linker.start ⟨"k", .library "k" bare, none⟩ =
    .error ⟨"k", .unopenable bare.display words⟩ := by
  have hmissing : ∀ directory ∈ Platform.directories, ∀ place ∈ Linker.places directory,
      atRoot.resolve ⟨place.bytes ++ bare.bytes⟩ = .error .missing := by
    decide
  have hnowhere : Trail.Nowhere atRoot bare Platform.directories := by
    intro directory hdirectory place hplace
    refine ⟨.missing, ?_⟩
    rw [Linker.openFile, hmissing directory hdirectory place hplace]
  obtain ⟨words, m, hfind⟩ := Linker.find_bare (by decide) hnowhere
  have hload := Linker.load_of_find_eq_error (Linker.named?_start (by decide)) hfind
  exact ⟨words, Assay.run_of_lacks (.format (.fixed "k" bare isFile_bare) hload)⟩

/-- In one that has opened it and given it back, it is. -/
theorem run_bare_loaded :
    Assay.run atRoot (loaded.release []) ⟨"k", .library "k" bare, none⟩ =
      .error ⟨"k", .noEntryPoint (Library.entrySymbol "k")⟩ := by
  have hmodule := Linker.module?_release_of_isPermanent module?_loaded isPermanent_home []
  exact Assay.run_of_lacks (.symbol (.fixed "k" bare isFile_bare) load_bare
    (Linker.lookEntry_of_isPlain hmodule rfl isPlain_entries rfl _))

/-- A call behind one of a library that stays in memory is answered otherwise than the same call alone. -/
theorem permanent_library_changes_answer :
    ∃ (first second : ToolResult) (other : Json),
      answers atRoot bareEnvironment.searchPaths [verifyCall 1 "libtree-sitter-k.so"] =
        [envelope (.int 1) (.result first.toJson)] ∧
      answers atRoot bareEnvironment.searchPaths
          [verifyCall 0 "./libtree-sitter-k.so", verifyCall 1 "libtree-sitter-k.so"] =
        [other, envelope (.int 1) (.result second.toJson)] ∧
      first ≠ second := by
  have hlocate : Search.locate atRoot bareEnvironment.searchPaths Scribl.grammarName = none := by
    decide
  have hbare := run_answer?_verifyCall (t := atRoot) (assay_bare bareEnvironment.searchPaths) 1
  have hspelled := run_answer?_verifyCall (t := atRoot)
    (assay_spelled bareEnvironment.searchPaths) 0 Linker.start
  rw [snd_report_spelled] at hspelled
  have hother : ∀ path reason symbol,
      ¬ Cause.Alike (.unopenable path reason) (.noEntryPoint symbol) := by
    rintro path reason symbol ⟨⟩
  obtain ⟨words, hfirst⟩ := run_bare_start
  refine ⟨.ofText ((Assay.report atRoot ⟨"k", .library "k" bare, none⟩).run Linker.start).1.render,
    .ofText
      ((Assay.report atRoot ⟨"k", .library "k" bare, none⟩).run (loaded.release [])).1.render,
    envelope (.int 0) (.result (ToolResult.ofText
      ((Assay.report atRoot ⟨"k", .library "k" spelled, none⟩).run Linker.start).1.render).toJson),
    ?_, ?_, ?_⟩
  · rw [answers, startUp_of_locate hlocate, run_answerAll_cons, hbare, run_answerAll_nil]
    rfl
  · rw [answers, startUp_of_locate hlocate, run_answerAll_cons, hspelled, run_answerAll_cons, hbare,
      run_answerAll_nil]
    rfl
  · intro hsame
    have hreport := Report.render_injective (congrArg ToolResult.text hsame)
    obtain ⟨fault, hsecond, halike⟩ := Assay.alike_of_report hfirst
      (congrArg Report.grammar hreport) (congrArg Report.error hreport)
    have hfault := Except.error.inj (run_bare_loaded.symm.trans hsecond)
    rw [← hfault] at halike
    exact hother _ _ _ halike

end Permanent

end Server
end GrammarAssay
