import GrammarAssay.Proofs.Assay.Report

/-!
# What the text of a fault tells

**Input.** Two faults of grammars of one name, with any texts and any numbers in them.

**Algorithm.** The text of a cause is an opening and what is told behind it. No opening begins another one, so
a text has one opening, and the opening tells the kind of the cause. What is told ends in fixed words, between
which a number is told by its digits. Only where two texts are told in a row, with fixed words between them that
either of them can hold, the place of these words is not told.

**Results.**
* `opening_and_told_of_message_eq`: a text has one opening and one rest.
* `Alike`: causes that differ only in where such words stand.
* `message_eq_iff_alike`: just these have one text.
* `alike_of_report`: what a report tells of its fault.
* `messages_tell_faults_apart`: all of this at once.
-/

namespace GrammarAssay
namespace Cause

/-- How the text of a cause begins, whatever it tells. -/
def opening : Cause → String
  | .notInSearchPaths .. => "`"
  | .noLibrary .. => "no library at "
  | .unopenable .. => "cannot open "
  | .noEntryPoint .. => "library does not export `"
  | .nullLanguage => "loader returned a null language"
  | .unsupportedVersion .. => "ABI version "
  | .noNodeKinds => "language declares no node kinds"
  | .refusedByParser .. => "parser rejected the language: "
  | .undefinedKind .. => "node kind `"
  | .undefinedField .. => "field `"
  | .wrongRoot .. => "sample parsed to root `"

/-- What the text of a cause tells behind its opening. -/
def told : Cause → String
  | .notInSearchPaths file searched =>
    file ++ "` not found in " ++ Text.decimal searched ++ " search path(s)"
  | .noLibrary path => path
  | .unopenable path reason => path ++ ": " ++ reason
  | .noEntryPoint symbol => symbol ++ "`"
  | .nullLanguage => ""
  | .unsupportedVersion found min max =>
    Text.decimal found.toNat ++ " is outside the supported range " ++
      Text.decimal min.toNat ++ "..=" ++ Text.decimal max.toNat
  | .noNodeKinds => ""
  | .refusedByParser reason => reason
  | .undefinedKind kind => kind ++ "` is not defined"
  | .undefinedField field => field ++ "` is not defined"
  | .wrongRoot expected found => found ++ "`, expected `" ++ expected ++ "`"

theorem message_eq_append (c : Cause) : c.message = c.opening ++ c.told := by
  cases c with
  | nullLanguage => rfl
  | noNodeKinds => rfl
  | _ =>
      unfold message opening told
      simp only [String.append_assoc]

section Openings

/-- The openings of all causes. -/
def openings : List String :=
  ["`", "no library at ", "cannot open ", "library does not export `",
    "loader returned a null language", "ABI version ", "language declares no node kinds",
    "parser rejected the language: ", "node kind `", "field `", "sample parsed to root `"]

theorem opening_mem_openings (c : Cause) : c.opening ∈ openings := by
  cases c with
  | _ => simp [opening, openings]

/-- No opening begins another one. -/
theorem eq_of_prefix_of_mem_openings :
    ∀ short ∈ openings, ∀ long ∈ openings, short.toList <+: long.toList → short = long := by
  decide

/-- A text has one opening, and so one rest. -/
theorem opening_and_told_of_message_eq {c d : Cause} (h : c.message = d.message) :
    c.opening = d.opening ∧ c.told = d.told := by
  rw [message_eq_append, message_eq_append] at h
  have hchars : c.opening.toList ++ c.told.toList = d.opening.toList ++ d.told.toList := by
    rw [← String.toList_append, ← String.toList_append, h]
  have hc := List.prefix_append c.opening.toList c.told.toList
  have hd := List.prefix_append d.opening.toList d.told.toList
  rw [← hchars] at hd
  have hopening : c.opening = d.opening := by
    rcases List.prefix_or_prefix_of_prefix hc hd with hcd | hdc
    · exact eq_of_prefix_of_mem_openings _ (opening_mem_openings c) _ (opening_mem_openings d) hcd
    · exact (eq_of_prefix_of_mem_openings _ (opening_mem_openings d) _ (opening_mem_openings c)
        hdc).symm
  rw [hopening, String.append_right_inj] at h
  exact ⟨hopening, h⟩

end Openings

section Telling

theorem told_notInSearchPaths_inj {file file' : String} {searched searched' : Nat}
    (h : told (.notInSearchPaths file searched) = told (.notInSearchPaths file' searched')) :
    file = file' ∧ searched = searched' := by
  dsimp only [told] at h
  rw [String.append_left_inj, ← String.toList_inj] at h
  -- The number stands behind the last blank, wherever the words in front of it occur in the file name.
  have hwords : "` not found in ".toList = "` not found in".toList ++ [' '] := by
    decide
  have hchars : (file ++ "` not found in").toList ++ ' ' :: (Text.decimal searched).toList =
      (file' ++ "` not found in").toList ++ ' ' :: (Text.decimal searched').toList := by
    simp only [String.toList_append, hwords, List.append_assoc, List.singleton_append] at h ⊢
    exact h
  obtain ⟨hfile, hsearched⟩ := Text.append_decimal_inj (by decide) hchars
  rw [String.toList_inj, String.append_left_inj] at hfile
  exact ⟨hfile, hsearched⟩

theorem told_unsupportedVersion_inj {found min max found' min' max' : UInt64}
    (h : told (.unsupportedVersion found min max) = told (.unsupportedVersion found' min' max')) :
    found = found' ∧ min = min' ∧ max = max' := by
  have hwords : " is outside the supported range ".toList =
      ' ' :: "is outside the supported range ".toList := by
    decide
  have hdots : "..=".toList = '.' :: ".=".toList := by
    decide
  dsimp only [told] at h
  rw [← String.toList_inj] at h
  simp only [String.toList_append, List.append_assoc, hwords, hdots, List.cons_append] at h
  obtain ⟨hfound, hrange⟩ := Text.decimal_append_inj (by decide) h
  obtain ⟨hmin, hmax⟩ := Text.decimal_append_inj (by decide) (List.append_cancel_left hrange)
  have hlast := Text.decimal_inj (List.append_cancel_left hmax)
  exact ⟨UInt64.toNat_inj.mp hfound, UInt64.toNat_inj.mp hmin, UInt64.toNat_inj.mp hlast⟩

/-- Causes that no text tells apart: the same cause, or two of one kind that tell two texts in a row and have
the same words in all. -/
inductive Alike : Cause → Cause → Prop
  | same (c : Cause) : Alike c c
  | unopenable {path reason path' reason' : String} :
      path ++ ": " ++ reason = path' ++ ": " ++ reason' →
      Alike (.unopenable path reason) (.unopenable path' reason')
  | wrongRoot {expected found expected' found' : String} :
      found ++ "`, expected `" ++ expected = found' ++ "`, expected `" ++ expected' →
      Alike (.wrongRoot expected found) (.wrongRoot expected' found')

theorem Alike.message_eq {c d : Cause} (h : c.Alike d) : c.message = d.message := by
  rw [message_eq_append, message_eq_append]
  cases h with
  | same => rfl
  | unopenable h => exact congrArg ("cannot open " ++ ·) h
  | wrongRoot h => exact congrArg ("sample parsed to root `" ++ · ++ "`") h

theorem alike_of_message_eq {c d : Cause} (h : c.message = d.message) : c.Alike d := by
  obtain ⟨hopening, htold⟩ := opening_and_told_of_message_eq h
  -- Causes of two kinds differ in their openings.
  cases c with
  | notInSearchPaths file searched =>
      cases d with
      | notInSearchPaths file' searched' =>
          obtain ⟨rfl, rfl⟩ := told_notInSearchPaths_inj htold
          exact .same _
      | _ => simp [opening] at hopening
  | noLibrary path =>
      cases d with
      | noLibrary path' =>
          obtain rfl : path = path' := htold
          exact .same _
      | _ => simp [opening] at hopening
  | unopenable path reason =>
      cases d with
      | unopenable path' reason' => exact .unopenable htold
      | _ => simp [opening] at hopening
  | noEntryPoint symbol =>
      cases d with
      | noEntryPoint symbol' =>
          obtain rfl : symbol = symbol' := (String.append_left_inj _).mp htold
          exact .same _
      | _ => simp [opening] at hopening
  | nullLanguage =>
      cases d with
      | nullLanguage => exact .same _
      | _ => simp [opening] at hopening
  | unsupportedVersion found min max =>
      cases d with
      | unsupportedVersion found' min' max' =>
          obtain ⟨rfl, rfl, rfl⟩ := told_unsupportedVersion_inj htold
          exact .same _
      | _ => simp [opening] at hopening
  | noNodeKinds =>
      cases d with
      | noNodeKinds => exact .same _
      | _ => simp [opening] at hopening
  | refusedByParser reason =>
      cases d with
      | refusedByParser reason' =>
          obtain rfl : reason = reason' := htold
          exact .same _
      | _ => simp [opening] at hopening
  | undefinedKind kind =>
      cases d with
      | undefinedKind kind' =>
          obtain rfl : kind = kind' := (String.append_left_inj _).mp htold
          exact .same _
      | _ => simp [opening] at hopening
  | undefinedField field =>
      cases d with
      | undefinedField field' =>
          obtain rfl : field = field' := (String.append_left_inj _).mp htold
          exact .same _
      | _ => simp [opening] at hopening
  | wrongRoot expected found =>
      cases d with
      | wrongRoot expected' found' => exact .wrongRoot ((String.append_left_inj _).mp htold)
      | _ => simp [opening] at hopening

end Telling

end Cause

open Cause (Alike)

namespace Fault

theorem prefix_message (f : Fault) :
    ("Error loading " ++ f.grammar ++ " grammar: ").toList <+: f.message.toList := by
  unfold message
  exact ⟨f.cause.message.toList, (String.toList_append ..).symm⟩

/-- Two faults of grammars of one name have one text exactly if their causes are alike. -/
theorem message_eq_iff_alike {f g : Fault} (hgrammar : f.grammar = g.grammar) :
    f.message = g.message ↔ f.cause.Alike g.cause := by
  unfold message
  rw [hgrammar, String.append_right_inj]
  exact ⟨Cause.alike_of_message_eq, Alike.message_eq⟩

end Fault

namespace Assay

variable {t t' : FileTree} {l l' : Linker} {a b : Assay}

theorem error_report_of_run_eq_ok {h : Handle} (hrun : a.run t l = .ok h) :
    ((a.report t).run l).1.error = none := by
  rw [run] at hrun
  rw [run_report]
  rcases hperform : (a.perform t).run l with ⟨f | handle, m⟩
  · rw [hperform] at hrun
    cases hrun
  · rfl

/-- Of two assays whose reports tell one grammar and one error, both fail with alike causes if one fails. -/
theorem alike_of_report {f : Fault} (hrun : a.run t l = .error f)
    (hgrammar : ((a.report t).run l).1.grammar = ((b.report t').run l').1.grammar)
    (herror : ((a.report t).run l).1.error = ((b.report t').run l').1.error) :
    ∃ g, b.run t' l' = .error g ∧ f.cause.Alike g.cause := by
  rw [(tellsFault_report hrun).error] at herror
  cases hrun' : b.run t' l' with
  | ok h =>
      rw [error_report_of_run_eq_ok hrun'] at herror
      cases herror
  | error g =>
      rw [(tellsFault_report hrun').error] at herror
      rw [grammar_report, grammar_report] at hgrammar
      have hname : f.grammar = g.grammar := by
        rw [(grammar_of_run_eq_error hrun).1, (grammar_of_run_eq_error hrun').1, hgrammar]
      exact ⟨g, rfl, (Fault.message_eq_iff_alike hname).mp (Option.some.inj herror)⟩

end Assay

namespace Fault

/-- **Texts tell faults apart.** The text of a fault begins with the name of its grammar. Two faults of grammars
of one name have one text exactly if their causes are alike: they are equal, or they are two files that do not
open, or two samples with another root, and the two texts that such a cause tells make the same words in a row.
So the grammar and the error of a report tell what failed: of two assays whose reports have them in common, both
pass or both fail, and with alike causes. -/
theorem messages_tell_faults_apart :
    (∀ f : Fault, ("Error loading " ++ f.grammar ++ " grammar: ").toList <+: f.message.toList) ∧
    (∀ f g : Fault, f.grammar = g.grammar → (f.message = g.message ↔ f.cause.Alike g.cause)) ∧
    ∀ (t t' : FileTree) (l l' : Linker) (a b : Assay),
      ((a.report t).run l).1.grammar = ((b.report t').run l').1.grammar →
      ((a.report t).run l).1.error = ((b.report t').run l').1.error →
      (∃ h h', a.run t l = .ok h ∧ b.run t' l' = .ok h') ∨
        ∃ f g, a.run t l = .error f ∧ b.run t' l' = .error g ∧ f.cause.Alike g.cause := by
  refine ⟨prefix_message, fun f g => message_eq_iff_alike, ?_⟩
  intro t t' l l' a b hgrammar herror
  cases hrun : a.run t l with
  | error f =>
      obtain ⟨g, hrun', halike⟩ := Assay.alike_of_report hrun hgrammar herror
      exact Or.inr ⟨f, g, rfl, hrun', halike⟩
  | ok h =>
      cases hrun' : b.run t' l' with
      | ok h' => exact Or.inl ⟨h, h', rfl, rfl⟩
      | error g =>
          obtain ⟨f, hrun'', -⟩ := Assay.alike_of_report hrun' hgrammar.symm herror.symm
          rw [hrun] at hrun''
          cases hrun''

/-- Where a path and a reason are told in a row, a colon of the path is not told from the one behind it. What a
file name can look like does not matter. -/
theorem messages_tell_faults_apart_inARow :
    message ⟨"X", .unopenable "a" "b: c"⟩ = message ⟨"X", .unopenable "a: b" "c"⟩ ∧
    message ⟨"X", .notInSearchPaths "a` not found in 1" 2⟩ ≠ message ⟨"X", .notInSearchPaths "a" 12⟩ := by
  obtain ⟨-, htell, -⟩ := messages_tell_faults_apart
  constructor
  · refine (htell ⟨"X", .unopenable "a" "b: c"⟩ ⟨"X", .unopenable "a: b" "c"⟩ rfl).mpr ?_
    exact .unopenable (by decide)
  · intro h
    have halike := (htell ⟨"X", .notInSearchPaths "a` not found in 1" 2⟩
      ⟨"X", .notInSearchPaths "a" 12⟩ rfl).mp h
    -- The numbers differ, whatever the files are called.
    generalize "a` not found in 1" = file at halike
    cases halike

end Fault
end GrammarAssay
