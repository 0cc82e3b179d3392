import ScriptLint.Proofs.HostNotes
import ScriptLint.Proofs.Printing
import ScriptLint.Proofs.Report

/-!
# The text report of a check

A text report has an entry for each diagnostic of each file, and then a summary. A file that is
named again is not listed again (`AskedBy.stdout_eq_text`), but its errors are counted again: the
number of errors in the summary is that of the listed ones if and only if no file with errors is
named twice (`CheckCall.text_summary_exact`).

Messages quote nothing but words, so that the console shows them as they are
(`Issue.isPlain_message`). What can be different in an entry is the name of the file, if the console
does not show it, and the number of the line, if it is an emoji code
(`Report.diagnosticLine_eq_text_iff`). From all other entries everything can be read back
(`ReportLine.read?_text`). `CheckCall.text_entries_exact` states this for every command line that
asks for a text report.
-/

namespace ScriptLint

/-! ## Messages -/

/-- What the wording of an issue quotes is a word. -/
def Issue.QuotesWord (issue : Issue) : Prop :=
  ∀ name, issue.quoted? = some name → IsWord name.toList

namespace Structure

/-- The messages about a line quote words only. -/
theorem quotesWord_lineFindings {registry : Registry} {hostNotes : Bool} {i : Nat}
    {step : Nesting.Step} {line : Line} {f : Finding}
    (hf : f ∈ lineFindings registry hostNotes i step line) : f.issue.QuotesWord := by
  intro name hname
  have hmem : f ∈ (lineFindings registry hostNotes i step line).filter
      (·.issue.kind = f.issue.kind) := List.mem_filter.2 ⟨hf, decide_eq_true rfl⟩
  rw [filter_kind_lineFindings registry hostNotes i step (visible_of_mem_lineFindings hf)] at hmem
  obtain ⟨index, start, stop, issue⟩ := f
  cases issue with
  | unclosedString | strayEnd | strayLoopControl | unclosedBlock => cases hname
  | unknownType type =>
    obtain ⟨d, t, hd, ht, -, heq⟩ := mem_typeFindings.1 hmem
    cases heq
    obtain rfl := Option.some.inj hname
    rw [String.toList_ofList]
    exact ((Rules.declaration?_eq_some hd).2 t ht).1
  | hostFunction function =>
    dsimp only [Issue.kind] at hmem
    split at hmem
    · obtain ⟨column, called, hcall, -, -, heq⟩ := mem_callFindings.1 hmem
      cases heq
      obtain rfl := Option.some.inj hname
      rw [String.toList_ofList]
      exact hcall.isHostName.isWord
    · cases hmem
  | undefinedVariable => cases hmem

/-- The messages of the checks by lines quote words only. -/
theorem quotesWord_check {registry : Registry} {hostNotes : Bool} {lines : List Line} {f : Finding}
    (hf : f ∈ check registry hostNotes lines) : f.issue.QuotesWord := by
  rw [check_eq, List.mem_append] at hf
  rcases hf with hf | hf
  · obtain ⟨i, line, -, hf⟩ := mem_flatten_mapIdx.1 hf
    exact quotesWord_lineFindings hf
  · unfold openFindings at hf
    split at hf
    · cases hf
    · obtain rfl := List.mem_singleton.1 hf
      intro name hname
      cases hname

end Structure

/-- Messages quote nothing but words. -/
theorem quotesWord_of_mem_findings {registry : Registry} {options : Options} {lines : List Line}
    {f : Finding} (hf : f ∈ findings registry options lines) : f.issue.QuotesWord := by
  rcases List.mem_append.1 hf with hf | hf
  · exact Structure.quotesWord_check hf
  · obtain ⟨i, line, column, name, -, huse, rfl⟩ := Usage.mem_validate.1 hf
    obtain ⟨before, after, -, -, hbetween⟩ := huse.variableAt.between
    intro quoted hquoted
    obtain rfl := Option.some.inj hquoted
    rw [String.toList_ofList]
    exact hbetween.isName.1

open Console in
/-- The console shows every message as it is. -/
theorem Issue.isPlain_message {issue : Issue} (h : issue.QuotesWord) :
    isPlain issue.message.toList = true := by
  have hquote {front name back : String} (hname : IsWord name.toList)
      (hfront : isPlain front.toList = true) (hback : isPlain back.toList = true) :
      isPlain (front ++ name ++ back).toList = true := by
    rw [String.toList_append, String.toList_append]
    exact isPlain_append (isPlain_append hfront (isPlain_of_isWord hname)) hback
  cases issue with
  | unclosedString | strayEnd => decide +kernel
  | strayLoopControl control => cases control <;> decide +kernel
  | unclosedBlock kind => cases kind <;> decide +kernel
  | unknownType name =>
    rw [message_unknownType]
    exact hquote (h name rfl) (by decide +kernel) (by decide +kernel)
  | hostFunction name | undefinedVariable name =>
    exact hquote (h name rfl) (by decide +kernel) (by decide +kernel)

/-- A diagnostic starts at a place of the script, and its message is shown as it is. -/
structure Diagnostic.IsPlaced (d : Diagnostic) (line column : Nat) : Prop where
  start : d.range.start = ⟨line, column⟩
  plain : Console.isPlain d.message.toList = true

/-- Every diagnostic starts at a place of the script, with a plain message. -/
theorem exists_isPlaced_of_mem_analyze {registry : Registry} {options : Options} {text : List Char}
    {d : Diagnostic} (h : d ∈ analyze registry options (splitLines text)) :
    ∃ line column, d.IsPlaced line column := by
  obtain ⟨i, start, stop, hrange, -⟩ := exists_range_of_mem_analyze h
  obtain ⟨f, hf, rfl⟩ := List.mem_map.1 h
  refine ⟨i, start, ?_, Issue.isPlain_message (quotesWord_of_mem_findings hf)⟩
  rw [hrange]
  rfl

/-! ## Lines of diagnostics -/

section
variable {emojis : Console.Emojis} {file : String} {d : Diagnostic} {line column : Nat}

/-- The place of a diagnostic is written with natural numbers. -/
theorem Diagnostic.IsPlaced.showInt_eq (h : d.IsPlaced line column) :
    showInt (d.range.start.line + 1) = showNat (line + 1) ∧
      showInt (d.range.start.character + 1) = showNat (column + 1) := by
  rw [h.start]
  exact ⟨rfl, rfl⟩

namespace Report

/-- A diagnostic takes one line, and one more for each line feed in the name of the file. -/
theorem count_lineFeed_diagnosticLine (h : d.IsPlaced line column) (file : String) :
    (diagnosticLine emojis file d).count '\n' = file.toList.count '\n' + 1 := by
  obtain ⟨hline, hcolumn⟩ := h.showInt_eq
  have hnat (n : Nat) : (natText n).count '\n' = 0 :=
    List.count_eq_zero.2 ((Console.isWord_natText n).notMem (by decide))
  have hlabel : d.severity.label.toList.count '\n' = 0 := by cases d.severity <;> decide
  have hmessage : d.message.toList.count '\n' = 0 :=
    List.count_eq_zero.2 (Console.notMem_of_isPlain h.plain (by decide))
  rw [diagnosticLine, hline, hcolumn, Console.count_lineFeed_printed, List.count_append,
    List.count_append, Console.count_lineFeed_shown, Console.count_lineFeed_shown,
    List.count_append, Console.count_lineFeed_escapeEnd, hlabel]
  simp [showNat, List.count_append, hnat, hmessage]

end Report

/-! ## Reading lines back -/

/-- What a line of a text report says. -/
structure ReportLine where
  file : String
  line : Nat
  column : Nat
  severity : Severity
  message : String
deriving Repr, DecidableEq

namespace ReportLine

/-- The parts of a text before and behind its first colon. -/
def cutColon? (text : List Char) : Option (List Char × List Char) :=
  if text.contains ':' then
    some (text.takeWhile (· != ':'), (text.dropWhile (· != ':')).drop 1)
  else none

/-- The severity with a given label. -/
def severity? (label : List Char) : Option Severity :=
  [Severity.error, .warning, .information].find? (·.label.toList == label)

/-- Reads a line: its parts end at the first four colons, and blanks stand before the last two. -/
def read? (text : List Char) : Option ReportLine :=
  (cutColon? text).bind fun file =>
  (cutColon? file.2).bind fun line =>
  (cutColon? line.2).bind fun column =>
  (cutColon? column.2).bind fun label =>
  (severity? (label.1.drop 1)).map fun severity =>
    ⟨String.ofList file.1, digitsValue line.1, digitsValue column.1, severity,
      String.ofList (label.2.drop 1)⟩

end ReportLine

end

/-! ## Items that are counted once -/

section
variable {α β : Type} [DecidableEq α] (p : β → Bool) (g : α → List β)

/-- What an item gives is counted as often as the item stands in the list. -/
theorem countP_flatMap_eq (a : α) (items : List α) :
    (items.flatMap g).countP p =
      ((items.filter (!· == a)).flatMap g).countP p + items.count a * (g a).countP p := by
  induction items with
  | nil => simp
  | cons b items ih =>
    rw [List.flatMap_cons, List.countP_append, ih]
    by_cases heq : b = a
    · subst heq
      rw [List.filter_cons_of_neg (by simp), List.count_cons_self, Nat.succ_mul]
      omega
    · rw [List.filter_cons_of_pos (by simpa using heq), List.flatMap_cons, List.countP_append,
        List.count_cons_of_ne heq]
      omega

/-- Counting each item once gives no more than counting all, and the same if and only if nothing is
counted for an item that stands there twice. -/
theorem countP_flatMap_eraseDups (items : List α) :
    (items.eraseDups.flatMap g).countP p ≤ (items.flatMap g).countP p ∧
      ((items.flatMap g).countP p = (items.eraseDups.flatMap g).countP p ↔
        ∀ a ∈ items, 0 < (g a).countP p → items.count a = 1) := by
  match items with
  | [] => simp
  | a :: items =>
    obtain ⟨hle, hiff⟩ := countP_flatMap_eraseDups (items.filter (!· == a))
    have hsplit := countP_flatMap_eq p g a items
    have hothers : (∀ b ∈ items.filter (!· == a), 0 < (g b).countP p →
        (items.filter (!· == a)).count b = 1) ↔
          ∀ b ∈ items, b ≠ a → 0 < (g b).countP p → items.count b = 1 := by
      simp only [List.mem_filter, Bool.not_eq_true', beq_eq_false_iff_ne, and_imp]
      refine forall₃_congr fun b _ hne => ?_
      rw [List.count_filter (by simpa using hne)]
    have hfirst : items.count a * (g a).countP p = 0 ↔
        (0 < (g a).countP p → items.count a = 0) := by
      rw [Nat.mul_eq_zero]
      omega
    rw [List.eraseDups_cons, List.flatMap_cons, List.flatMap_cons, List.countP_append,
      List.countP_append]
    refine ⟨by omega, ?_⟩
    have hsum : (g a).countP p + (items.flatMap g).countP p =
          (g a).countP p + ((items.filter (!· == a)).eraseDups.flatMap g).countP p ↔
        items.count a * (g a).countP p = 0 ∧ ((items.filter (!· == a)).flatMap g).countP p =
          ((items.filter (!· == a)).eraseDups.flatMap g).countP p := by
      omega
    rw [hsum, hfirst, hiff, hothers, List.forall_mem_cons, List.count_cons_self, Nat.add_eq_right]
    refine and_congr_right fun hnone => forall₂_congr fun b _ => ?_
    by_cases heq : b = a
    · rw [heq, List.count_cons_self, Nat.add_eq_right]
      exact iff_of_true (absurd rfl) hnone
    · rw [List.count_cons_of_ne (Ne.symm heq)]
      exact forall_prop_of_true heq
termination_by items.length
decreasing_by exact Nat.lt_succ_of_le (List.length_filter_le _ _)

end

/-! ## Reports -/

open Run

namespace CheckCall

variable {call : CheckCall} {s : Surroundings} {line : List String}
  {found : InputFile → List Diagnostic}

/-- The diagnostics of the files of a check are those of the analysis of their texts. -/
def Finds (call : CheckCall) (s : Surroundings) (found : InputFile → List Diagnostic) : Prop :=
  ∀ f ∈ call.files, ∃ source options, Utf8.encode source = f.bytes ∧
    settle s.environment call.hostFunctions (unifyBreaks source) = .ok options ∧
    found f = analyze .builtIn options (splitLines (unifyBreaks source))

/-- The diagnostics that a report lists, with their files. A file that is named again is not listed
again. -/
def listed (call : CheckCall) (found : InputFile → List Diagnostic) :
    List (InputFile × Diagnostic) :=
  call.files.eraseDups.flatMap fun f => (found f).map fun d => (f, d)

/-- The number of errors in the files, each as often as it is named. -/
def errorsAsNamed (call : CheckCall) (found : InputFile → List Diagnostic) : Nat :=
  (call.files.flatMap found).countP (·.isError)

/-- The list has the diagnostics of each of the files. -/
theorem mem_listed {f : InputFile} {d : Diagnostic} :
    (f, d) ∈ call.listed found ↔ f ∈ call.files ∧ d ∈ found f := by
  simp [listed]

/-- Every diagnostic that is found starts at a place of its script. -/
theorem Finds.isPlaced (h : call.Finds s found) {f : InputFile} (hf : f ∈ call.files)
    {d : Diagnostic} (hd : d ∈ found f) : ∃ row column, d.IsPlaced row column := by
  obtain ⟨source, options, -, -, heq⟩ := h f hf
  rw [heq] at hd
  exact exists_isPlaced_of_mem_analyze hd

/-- A file has one text, and this has one list of diagnostics. -/
theorem Finds.eq_analyze (h : call.Finds s found) {f : InputFile} (hf : f ∈ call.files)
    {source : List Char} {options : Options} (hbytes : Utf8.encode source = f.bytes)
    (hoptions : settle s.environment call.hostFunctions (unifyBreaks source) = .ok options) :
    found f = analyze .builtIn options (splitLines (unifyBreaks source)) := by
  obtain ⟨source', options', hbytes', hoptions', heq⟩ := h f hf
  obtain rfl : source = source' := Except.ok.inj
    ((Utf8.decode_eq_ok_iff.2 hbytes).symm.trans (Utf8.decode_eq_ok_iff.2 hbytes'))
  obtain rfl : options = options' := Except.ok.inj (hoptions.symm.trans hoptions')
  exact heq

/-- Files that do not fail have the diagnostics of their analysis. -/
theorem finds_fileDiagnostics (hok : ∀ f ∈ call.files, ∀ message,
      ¬ Fails s.environment call.hostFunctions f.bytes message) :
    call.Finds s (fileDiagnostics s.environment call.hostFunctions) :=
  fun f hf => exists_fileDiagnostics_eq (hok f hf)

/-- Errors are counted as often as their file is named, and listed once. -/
theorem countP_listed (call : CheckCall) (found : InputFile → List Diagnostic) :
    (call.listed found).countP (·.2.isError) ≤ call.errorsAsNamed found ∧
      (call.errorsAsNamed found = (call.listed found).countP (·.2.isError) ↔
        ∀ f ∈ call.files, (∃ d ∈ found f, d.severity = .error) → call.files.count f = 1) := by
  have hlisted : (call.listed found).countP (·.2.isError) =
      (call.files.eraseDups.flatMap found).countP (·.isError) := by
    rw [listed, List.countP_flatMap, List.countP_flatMap]
    refine congrArg List.sum (List.map_congr_left fun f _ => ?_)
    exact List.countP_map
  have hcounts := countP_flatMap_eraseDups (·.isError) found call.files
  simp only [List.countP_pos_iff, Diagnostic.isError, decide_eq_true_eq] at hcounts
  rw [hlisted]
  exact hcounts

/-- A text report lists the diagnostics of each file once, before its summary. -/
theorem AskedBy.stdout_eq_text (h : call.AskedBy s line) (htext : call.format = .text)
    (hok : ∀ f ∈ call.files, ∀ message,
      ¬ Fails s.environment call.hostFunctions f.bytes message) :
    ∃ found, call.Finds s found ∧ ∃ summary : String,
      (run s line).stdout.toList = ((call.listed found).map fun p =>
        Report.diagnosticLine s.emojis p.1.name p.2).flatten ++ summary.toList ∧
      summary = if (call.listed found).length = 0 then "No problems found\n" else
        "\n" ++ showNat (call.listed found).length ++ " problem(s), " ++
          showNat (call.errorsAsNamed found) ++ " error(s)\n" := by
  refine ⟨_, finds_fileDiagnostics hok, _, ?_, rfl⟩
  obtain ⟨verbose, hrun⟩ := h.run_eq
  have hfiles : Report.files (fileResults s.environment call.hostFunctions call.files) =
      call.files.eraseDups.map fun f =>
        (f.name, fileDiagnostics s.environment call.hostFunctions f) :=
    Mapping.ofEntries_map _ fun f hf g hg hname => h.eq_of_name_eq hg hf hname
  have hlines : Report.diagnosticLines s.emojis
      (fileResults s.environment call.hostFunctions call.files) =
      (call.listed (fileDiagnostics s.environment call.hostFunctions)).map fun p =>
        Report.diagnosticLine s.emojis p.1.name p.2 := by
    rw [Report.diagnosticLines, hfiles, listed, List.flatMap_map, List.map_flatMap]
    simp only [List.map_map, Function.comp_def]
  have hproblems : Report.problemCount (fileResults s.environment call.hostFunctions call.files) =
      (call.listed (fileDiagnostics s.environment call.hostFunctions)).length := by
    rw [Report.problemCount, hfiles, listed, List.flatMap_map, List.length_flatMap,
      List.length_flatMap]
    simp only [List.length_map]
  have herrors : Report.errorCount (fileResults s.environment call.hostFunctions call.files) =
      call.errorsAsNamed (fileDiagnostics s.environment call.hostFunctions) := by
    rw [Report.errorCount, fileResults, List.flatMap_map, errorsAsNamed]
  rw [hrun, stdout_withLog, checkOutcome, checkFiles_eq_ok hok, htext]
  show (Report.text _ _).toList = _
  rw [Report.text, Report.summary, hlines, hproblems, herrors, String.toList_append,
    String.toList_ofList]

/-- **The summary counts lines, and errors as often as their file is named.** If a check is asked
for a text report and no file fails, the report has one entry for each diagnostic of each file. If
there are none, all that is printed is that no problems were found. Otherwise the report ends with
the number of its entries and a number of errors. The latter is at least the number of entries that
are errors, and the same if and only if no file with errors is named twice. -/
theorem text_summary_exact (h : call.AskedBy s line) (htext : call.format = .text)
    (hok : ∀ f ∈ call.files, ∀ message,
      ¬ Fails s.environment call.hostFunctions f.bytes message) :
    ∃ found, call.Finds s found ∧
      (call.listed found = [] → (run s line).stdout = "No problems found\n") ∧
      (call.listed found ≠ [] → (run s line).stdout.toList =
        ((call.listed found).map fun p => Report.diagnosticLine s.emojis p.1.name p.2).flatten ++
          ("\n" ++ showNat (call.listed found).length ++ " problem(s), " ++
            showNat (call.errorsAsNamed found) ++ " error(s)\n").toList) ∧
      (∀ p ∈ call.listed found, (Report.diagnosticLine s.emojis p.1.name p.2).count '\n' =
        p.1.name.toList.count '\n' + 1) ∧
      (call.listed found).countP (·.2.isError) ≤ call.errorsAsNamed found ∧
      (call.errorsAsNamed found = (call.listed found).countP (·.2.isError) ↔
        ∀ f ∈ call.files, (∃ d ∈ found f, d.severity = .error) → call.files.count f = 1) := by
  obtain ⟨found, hfinds, summary, hstdout, hsummary⟩ := h.stdout_eq_text htext hok
  refine ⟨found, hfinds, ?_, ?_, ?_, countP_listed call found⟩
  · intro hnone
    rw [hnone, List.length_nil, if_pos rfl] at hsummary
    rw [hnone, hsummary] at hstdout
    exact String.toList_injective hstdout
  · intro hsome
    rw [if_neg (mt List.length_eq_zero_iff.1 hsome)] at hsummary
    rw [hstdout, hsummary]
  · intro p hp
    obtain ⟨hf, hd⟩ := mem_listed.1 hp
    obtain ⟨row, column, hplaced⟩ := hfinds.isPlaced hf hd
    exact Report.count_lineFeed_diagnosticLine hplaced p.1.name

/-- A file with a warning is named twice and one with an error once: both counts are those of the
entries. -/
theorem text_summary_exact_with_repeated_warning :
    let script : InputFile := ⟨"a.jyro", [0x65, 0x6e, 0x64]⟩
    let other : InputFile := ⟨"b.jyro", [0x78]⟩
    let s : Surroundings := ⟨"jyrolint", none, fun path =>
      ([script, other].find? (·.name = path)).map (.file ·.bytes), .numbers⟩
    let call : CheckCall := ⟨none, .text, [other, script, other]⟩
    ∃ found, call.Finds s found ∧ (call.listed found).length = 2 ∧
      call.errorsAsNamed found = (call.listed found).countP (·.2.isError) ∧
      ∃ entries, (run s call.words).stdout.toList =
        entries ++ "\n2 problem(s), 1 error(s)\n".toList := by
  intro script other s call
  have hfound : ∀ f ∈ call.files, s.workspace f.name = some (.file f.bytes) := by
    simp [call, s, script, other]
  have hok : ∀ f ∈ call.files, ∀ message, ¬ Fails none none f.bytes message := by
    intro f hf message hfails
    obtain ⟨e, hload, -⟩ := fails_iff.1 hfails
    simp only [call, List.mem_cons, List.not_mem_nil, or_false] at hf
    rcases hf with rfl | rfl | rfl <;> cases hload
  obtain ⟨found, hfinds, -, hsome, -, -, hequal⟩ :=
    text_summary_exact (askedBy_words (List.cons_ne_nil _ _) hfound) rfl hok
  have hscript : found script = [Finding.toDiagnostic ⟨0, 0, 3, .strayEnd⟩] :=
    (hfinds.eq_analyze (by simp [call]) (by decide +kernel : Utf8.encode "end".toList = _)
      rfl).trans (by decide +kernel)
  have hother : found other = [Finding.toDiagnostic ⟨0, 0, 1, .undefinedVariable "x"⟩] :=
    (hfinds.eq_analyze (by simp [call]) (by decide +kernel : Utf8.encode "x".toList = _) rfl).trans
      (by decide +kernel)
  have hlisted : call.listed found =
      [(other, Finding.toDiagnostic ⟨0, 0, 1, .undefinedVariable "x"⟩),
      (script, Finding.toDiagnostic ⟨0, 0, 3, .strayEnd⟩)] := by
    have hfiles : call.files.eraseDups = [other, script] := by decide
    rw [listed, hfiles, List.flatMap_cons, List.flatMap_cons, hscript, hother]
    rfl
  have herrors := hequal.2 (by
    intro f hf herror
    simp only [call, List.mem_cons, List.not_mem_nil, or_false] at hf
    rcases hf with rfl | rfl | rfl
    · simp [hother, Finding.toDiagnostic, Issue.severity] at herror
    · decide
    · simp [hother, Finding.toDiagnostic, Issue.severity] at herror)
  have hcounts : ("\n" ++ showNat (call.listed found).length ++ " problem(s), " ++
      showNat (call.errorsAsNamed found) ++ " error(s)\n").toList =
        "\n2 problem(s), 1 error(s)\n".toList := by
    rw [herrors, hlisted]
    decide +kernel
  have hstdout := hsome (by rw [hlisted]; exact List.cons_ne_nil _ _)
  rw [hcounts] at hstdout
  exact ⟨found, hfinds, by rw [hlisted]; rfl, herrors, _, hstdout⟩

/-- A file with an error is named twice: the error is listed once and counted twice. -/
theorem text_summary_of_repeated_error :
    let script : InputFile := ⟨"a.jyro", [0x65, 0x6e, 0x64]⟩
    let s : Surroundings := ⟨"jyrolint", none, fun path =>
      ([script].find? (·.name = path)).map (.file ·.bytes), .numbers⟩
    (run s (words ⟨none, .text, [script, script]⟩)).stdout =
      "a.jyro:1:1: error: Unexpected \"end\" without matching block start\n" ++
        "\n1 problem(s), 2 error(s)\n" := by
  decide +kernel

end CheckCall

end ScriptLint
