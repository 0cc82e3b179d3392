import ScriptLint.Proofs.Json.Ascii
import ScriptLint.Proofs.Outcome
import ScriptLint.Proofs.Position

/-!
# The JSON report of a check

The report is one mapping: each file stands once, where it was named first, with its diagnostics.
Its text is in ASCII, as that of any value. Reading it gives the mapping back because its values are
plain (`Json.Plain`): keys are not repeated, and the numbers in it are places in a file, which are
not greater than the size of the file (`exists_range_of_mem_analyze`). The reader itself refuses
integers of more than `Json.maxIntDigits` digits, so this needs a file whose size does not have
more.

`CheckCall.json_report_lossless` states this for every command line that asks for a JSON report.
-/

namespace ScriptLint

/-! ## Sizes -/

/-- A text has at most one piece more than characters. -/
theorem length_cutAt_le (isCut : Char → Bool) (cs : List Char) :
    (cutAt isCut cs).length ≤ cs.length + 1 := by
  induction cs with
  | nil => exact Nat.le_refl 1
  | cons c cs ih =>
    rw [cutAt, List.length_cons]
    split
    · exact Nat.succ_le_succ ih
    · rw [List.length_modifyHead]
      omega

/-- No piece is longer than its text. -/
theorem length_le_of_mem_cutAt {isCut : Char → Bool} {cs piece : List Char}
    (h : piece ∈ cutAt isCut cs) : piece.length ≤ cs.length := by
  induction cs generalizing piece with
  | nil => rw [List.mem_singleton.1 h]
  | cons c cs ih =>
    rw [cutAt] at h
    rw [List.length_cons]
    split at h
    · rcases List.mem_cons.1 h with rfl | h
      · exact Nat.zero_le _
      · exact Nat.le_succ_of_le (ih h)
    · cases hcut : cutAt isCut cs with
      | nil => exact absurd hcut (cutAt_ne_nil isCut cs)
      | cons first pieces =>
        rw [hcut] at h ih
        rcases List.mem_cons.1 h with rfl | h
        · exact Nat.succ_le_succ (ih List.mem_cons_self)
        · exact Nat.le_succ_of_le (ih (List.mem_cons_of_mem first h))

/-- A text has at most one line more than characters. -/
theorem length_splitLines_le (text : List Char) : (splitLines text).length ≤ text.length + 1 := by
  rw [splitLines, List.length_map]
  exact length_cutAt_le _ text

/-- No line is longer than its text. -/
theorem length_le_of_mem_splitLines {text : List Char} {line : Line} (h : line ∈ splitLines text) :
    line.length ≤ text.length := by
  obtain ⟨piece, hpiece, rfl⟩ := List.mem_map.1 h
  refine Nat.le_trans ?_ (length_le_of_mem_cutAt hpiece)
  unfold dropReturn
  split
  · rw [List.length_dropLast]
    exact Nat.sub_le _ _
  · exact Nat.le_refl _

/-- A text does not get longer when its line breaks are unified. -/
theorem length_unifyBreaks_le (text : List Char) : (unifyBreaks text).length ≤ text.length := by
  induction text using unifyBreaks.induct with
  | case1 => exact Nat.le_refl 0
  | case2 cs ih =>
    rw [unifyBreaks, List.length_cons, List.length_cons, List.length_cons]
    omega
  | case3 c cs hpair ih =>
    rw [unifyBreaks, List.length_cons, List.length_cons]
    · omega
    · exact hpair

/-- A text has at most as many characters as its encoding has bytes. -/
theorem Utf8.length_le_length_encode (text : List Char) : text.length ≤ (encode text).length :=
  length_le_length_flatMap (fun c => List.ne_nil_of_length_pos (by
    rw [String.length_utf8EncodeChar]
    exact c.utf8Size_pos)) text

/-- A smaller number has no more digits. -/
theorem length_natText_le {m n : Nat} (h : m ≤ n) : (natText m).length ≤ (natText n).length := by
  have hpos : 0 < (natText n).length := List.length_pos_iff.2 Nat.toDigits_ne_nil
  have hdigits (k : Nat) := Nat.length_toDigits_le_iff (n := k) (b := 10) (by decide) hpos
  exact (hdigits m).2 (Nat.lt_of_le_of_lt h ((hdigits n).1 (Nat.le_refl _)))

/-- The places of a diagnostic are not greater than the length of the text. -/
theorem exists_range_of_mem_analyze {registry : Registry} {options : Options} {text : List Char}
    {d : Diagnostic} (h : d ∈ analyze registry options (splitLines text)) :
    ∃ i start stop : Nat, d.range = .onLine i start stop ∧ i ≤ text.length ∧ start ≤ text.length ∧
      stop ≤ text.length := by
  obtain ⟨f, hf, rfl⟩ := List.mem_map.1 h
  obtain ⟨line, hline, start, stop, hstart, hstop, hlt, hle, -⟩ :
      ∃ line, (splitLines text)[f.line]? = some line ∧ f.PointsInto line := by
    rcases List.mem_append.1 hf with hf | hf
    · exact Structure.pointsInto_check hf
    · exact Usage.pointsInto_validate hf
  have hcount := length_splitLines_le text
  have hlength := length_le_of_mem_splitLines (List.mem_of_getElem? hline)
  obtain ⟨hindex, -⟩ := List.getElem?_eq_some_iff.1 hline
  refine ⟨f.line, start, stop, ?_, by omega, by omega, by omega⟩
  show Range.onLine f.line f.start f.stop = _
  rw [hstart, hstop]

/-! ## Diagnostics are read back -/

/-- The value of a key of a mapping. -/
def Value.field? (key : String) : Value → Option Value
  | .mapping entries => Mapping.get? entries key
  | _ => none

/-- The integer that a value is. -/
def Value.int? : Value → Option Int
  | .int n => some n
  | _ => none

/-- The text that a value is. -/
def Value.text? : Value → Option String
  | .text s => some s
  | _ => none

/-- The position that a value describes. -/
def Position.ofValue? (v : Value) : Option Position := do
  let line ← v.field? "line" >>= Value.int?
  let character ← v.field? "character" >>= Value.int?
  return ⟨line, character⟩

/-- The range that a value describes. -/
def Range.ofValue? (v : Value) : Option Range := do
  let start ← v.field? "start" >>= Position.ofValue?
  let stop ← v.field? "end" >>= Position.ofValue?
  return ⟨start, stop⟩

/-- The diagnostic that a value describes. -/
def Diagnostic.ofValue? (v : Value) : Option Diagnostic := do
  let severity ← v.field? "severity" >>= Value.int? >>= Severity.ofCode?
  let range ← v.field? "range" >>= Range.ofValue?
  let message ← v.field? "message" >>= Value.text?
  let source ← v.field? "source" >>= Value.text?
  return ⟨severity, range, message, source⟩

/-- A severity is known by its number. -/
theorem Severity.ofCode?_code (s : Severity) : ofCode? s.code = some s := by
  cases s <;> rfl

/-- Every part of a diagnostic can be read off its value. -/
theorem Diagnostic.ofValue?_toValue (d : Diagnostic) : ofValue? d.toValue = some d := by
  have hseverity : (d.toValue.field? "severity" >>= Value.int? >>= Severity.ofCode?) =
      some d.severity := d.severity.ofCode?_code
  rw [ofValue?, hseverity]
  rfl

/-! ## The values of a report -/

section

variable {size : Nat} (hsize : (natText size).length ≤ Json.maxIntDigits)
include hsize

/-- A number up to the size of a file can be read back. -/
theorem Json.plain_int {n : Nat} (hn : n ≤ size) : Json.Plain (.int n) :=
  .int (Nat.le_trans (length_natText_le hn) hsize)

/-- A position within the size of a file can be read back. -/
theorem Position.plain_toValue {line character : Nat} (hline : line ≤ size)
    (hcharacter : character ≤ size) : Json.Plain (Position.toValue ⟨line, character⟩) := by
  refine .mapping (by decide : ["line", "character"].Nodup) ?_
  simp only [List.forall_mem_cons]
  exact ⟨Json.plain_int hsize hline, Json.plain_int hsize hcharacter, nofun⟩

/-- A diagnostic is a plain value if its places are not too great. -/
theorem Diagnostic.plain_toValue {d : Diagnostic} {i start stop : Nat}
    (hrange : d.range = .onLine i start stop) (hi : i ≤ size) (hstart : start ≤ size)
    (hstop : stop ≤ size) : Json.Plain d.toValue := by
  have hseverity : Json.Plain (.int d.severity.code) := by
    refine .int ?_
    cases d.severity <;> decide
  have hplaces : Json.Plain d.range.toValue := by
    rw [hrange]
    refine .mapping (by decide : ["start", "end"].Nodup) ?_
    simp only [List.forall_mem_cons]
    exact ⟨Position.plain_toValue hsize hi hstart, Position.plain_toValue hsize hi hstop, nofun⟩
  refine .mapping (by decide : ["severity", "range", "message", "source"].Nodup) ?_
  simp only [List.forall_mem_cons]
  exact ⟨hseverity, hplaces, .text _, .text _, nofun⟩

end

namespace Report

/-- A report is a plain value if its diagnostics are. -/
theorem plain_toValue {results : Results}
    (h : ∀ r ∈ results, ∀ d ∈ r.2, Json.Plain (Diagnostic.toValue d)) :
    Json.Plain (toValue results) := by
  refine .mapping ?_ ?_
  · rw [List.map_map]
    exact Mapping.nodup_map_fst_ofEntries results
  · intro e he
    obtain ⟨r, hr, rfl⟩ := List.mem_map.1 he
    refine .list ?_
    intro v hv
    obtain ⟨d, hd, rfl⟩ := List.mem_map.1 hv
    exact h r (Mapping.mem_of_mem_ofEntries hr) d hd

end Report

/-! ## Files without failures -/

namespace Run

variable {environment : Option String} {hostFunctions : Option Bool}

/-- The diagnostics of a file; one that fails has none. -/
def fileDiagnostics (environment : Option String) (hostFunctions : Option Bool) (file : InputFile) :
    List Diagnostic :=
  match loadScript environment hostFunctions file.bytes with
  | .error _ => []
  | .ok script => script.diagnostics

/-- A file that does not fail has a text with options, and is analysed with them. -/
theorem exists_fileDiagnostics_eq {file : InputFile}
    (h : ∀ message, ¬ Fails environment hostFunctions file.bytes message) :
    ∃ source options, Utf8.encode source = file.bytes ∧
      settle environment hostFunctions (unifyBreaks source) = .ok options ∧
      fileDiagnostics environment hostFunctions file =
        analyze .builtIn options (splitLines (unifyBreaks source)) := by
  rcases Utf8.exists_encode_or_exists_fault file.bytes with
    ⟨source, hbytes⟩ | ⟨fault, hfault, hbytes⟩
  · cases hsettings : settle environment hostFunctions (unifyBreaks source) with
    | error e => exact absurd (.setting hbytes hsettings) (h e.message)
    | ok options =>
      refine ⟨source, options, hbytes, hsettings, ?_⟩
      rw [fileDiagnostics, ← hbytes, loadScript_encode, hsettings]
      rfl
  · exact absurd (.encoding hbytes hfault) (h fault.message)

/-- Files with their diagnostics. -/
def fileResults (environment : Option String) (hostFunctions : Option Bool)
    (files : List InputFile) : Report.Results :=
  files.map fun f => (f.name, fileDiagnostics environment hostFunctions f)

/-- If no file fails, the results are the diagnostics of each. -/
theorem checkFiles_eq_ok {files : List InputFile}
    (h : ∀ f ∈ files, ∀ message, ¬ Fails environment hostFunctions f.bytes message) :
    checkFiles environment hostFunctions files =
      .ok (fileResults environment hostFunctions files) := by
  induction files with
  | nil => rfl
  | cons f files ih =>
    obtain ⟨hfirst, h⟩ := List.forall_mem_cons.1 h
    rw [checkFiles, fileResults, List.map_cons, fileDiagnostics]
    cases hload : loadScript environment hostFunctions f.bytes with
    | error e => exact absurd (fails_iff.2 ⟨e, hload, rfl⟩) (hfirst e.message)
    | ok script =>
      dsimp only
      rw [ih h]
      rfl

/-- The diagnostics of a file are plain values, unless it is too large. -/
theorem plain_of_mem_fileDiagnostics {file : InputFile}
    (h : ∀ message, ¬ Fails environment hostFunctions file.bytes message)
    (hsize : (natText file.bytes.length).length ≤ Json.maxIntDigits) {d : Diagnostic}
    (hd : d ∈ fileDiagnostics environment hostFunctions file) : Json.Plain d.toValue := by
  obtain ⟨source, options, hbytes, -, heq⟩ := exists_fileDiagnostics_eq h
  rw [heq] at hd
  obtain ⟨i, start, stop, hrange, hi, hstart, hstop⟩ := exists_range_of_mem_analyze hd
  have hunified := length_unifyBreaks_le source
  have hencoded := Utf8.length_le_length_encode source
  rw [hbytes] at hencoded
  exact d.plain_toValue hsize hrange (by omega) (by omega) (by omega)

end Run

open Run

namespace CheckCall

variable {call : CheckCall} {s : Surroundings} {line : List String}

/-- A file that is named twice is the same file. -/
theorem AskedBy.eq_of_name_eq (h : call.AskedBy s line) {f g : InputFile} (hf : f ∈ call.files)
    (hg : g ∈ call.files) (hname : g.name = f.name) : g = f := by
  obtain ⟨-, -, -, -, -, -, -, -, -, -, -, hfiles⟩ := h
  have hbytes := (hfiles g hg).symm.trans (hname ▸ hfiles f hf)
  cases f
  cases g
  cases hbytes
  cases hname
  rfl

/-- The report of files that do not fail is the text of their diagnostics. -/
theorem AskedBy.stdout_eq_render (h : call.AskedBy s line) (hjson : call.format = .json)
    (hok : ∀ f ∈ call.files, ∀ message,
      ¬ Fails s.environment call.hostFunctions f.bytes message) :
    (run s line).stdout.toList =
      Json.render (Report.toValue (fileResults s.environment call.hostFunctions call.files)) ++
        ['\n'] := by
  obtain ⟨verbose, hrun⟩ := h.run_eq
  rw [hrun, stdout_withLog, checkOutcome, checkFiles_eq_ok hok, hjson]
  exact String.toList_ofList

/-- The report keeps the diagnostics of every file, also of one that is named twice. -/
theorem AskedBy.mem_files_fileResults (h : call.AskedBy s line) {f : InputFile}
    (hf : f ∈ call.files) (environment : Option String) (hostFunctions : Option Bool) :
    (f.name, fileDiagnostics environment hostFunctions f) ∈
      Report.files (fileResults environment hostFunctions call.files) := by
  refine Mapping.mem_ofEntries (List.mem_map.2 ⟨f, hf, rfl⟩) ?_
  intro e he hname
  obtain ⟨g, hg, rfl⟩ := List.mem_map.1 he
  rw [h.eq_of_name_eq hf hg hname]

/-- **JSON reports lose nothing.** If a check is asked for a JSON report and no file fails, the
report is in ASCII, and it is the text of a mapping. Its keys are the files in the order in which
they were named, each once, and the value of a file is the list of all diagnostics of its analysis,
from which every diagnostic can be read off. The report is read back as this mapping, unless the
size of a file is too long for an integer that can be read. -/
theorem json_report_lossless (h : call.AskedBy s line) (hjson : call.format = .json)
    (hok : ∀ f ∈ call.files, ∀ message,
      ¬ Fails s.environment call.hostFunctions f.bytes message) :
    Json.IsAscii (run s line).stdout.toList ∧
    ∃ entries, (run s line).stdout.toList = Json.render (.mapping entries) ++ ['\n'] ∧
      entries.map (·.1) = (call.files.map (·.name)).eraseDups ∧
      (∀ f ∈ call.files, ∃ source options, Utf8.encode source = f.bytes ∧
        settle s.environment call.hostFunctions (unifyBreaks source) = .ok options ∧
        (f.name, .list ((analyze .builtIn options (splitLines (unifyBreaks source))).map
          (·.toValue))) ∈ entries ∧
        ((analyze .builtIn options (splitLines (unifyBreaks source))).map (·.toValue)).map
          Diagnostic.ofValue? =
            (analyze .builtIn options (splitLines (unifyBreaks source))).map some) ∧
      ((∀ f ∈ call.files, (natText f.bytes.length).length ≤ Json.maxIntDigits) →
        Json.read? (run s line).stdout.toList = some (.mapping entries)) := by
  rw [h.stdout_eq_render hjson hok]
  refine ⟨(Json.isAscii_write 0 _).append (Json.isAscii_of_all rfl), _, rfl, ?_, ?_, ?_⟩
  · rw [List.map_map]
    show (Report.files (fileResults _ _ call.files)).map (·.1) = _
    rw [Report.files, Mapping.map_fst_ofEntries, fileResults, List.map_map]
    rfl
  · intro f hf
    obtain ⟨source, options, hbytes, hsettings, heq⟩ := exists_fileDiagnostics_eq (hok f hf)
    refine ⟨source, options, hbytes, hsettings, ?_⟩
    constructor
    · rw [← heq]
      exact List.mem_map.2 ⟨_, h.mem_files_fileResults hf _ _, rfl⟩
    · rw [List.map_map]
      exact List.map_congr_left fun d _ => d.ofValue?_toValue
  · intro hsize
    refine (Report.plain_toValue ?_).read?_render
    intro r hr d hd
    obtain ⟨f, hf, rfl⟩ := List.mem_map.1 hr
    exact plain_of_mem_fileDiagnostics (hok f hf) (hsize f hf) hd

/-- The first file is named twice, and its name and the undefined name in it are not in ASCII. -/
theorem json_report_lossless_with_repeated_file :
    let script : InputFile := ⟨"𝒜.jyro", [0x78, 0xc3, 0xa9]⟩
    let other : InputFile := ⟨"b.jyro", []⟩
    let s : Surroundings := ⟨"jyrolint", none, fun path =>
      ([script, other].find? (·.name = path)).map (.file ·.bytes), .numbers⟩
    let line := words ⟨none, .json, [script, other, script]⟩
    Json.IsAscii (run s line).stdout.toList ∧
      ∃ entries, Json.read? (run s line).stdout.toList = some (.mapping entries) ∧
        entries.map (·.1) = ["𝒜.jyro", "b.jyro"] ∧
        ("𝒜.jyro", .list [Diagnostic.toValue
          (Finding.toDiagnostic ⟨0, 0, 2, .undefinedVariable "xé"⟩)]) ∈ entries := by
  intro script other s line
  have hfound : ∀ f ∈ [script, other, script], s.workspace f.name = some (.file f.bytes) := by
    simp [s, script, other]
  have hasked : AskedBy ⟨none, .json, [script, other, script]⟩ s line :=
    askedBy_words (List.cons_ne_nil _ _) hfound
  have hok : ∀ f ∈ [script, other, script], ∀ message, ¬ Fails none none f.bytes message := by
    intro f hf message hfails
    obtain ⟨e, hload, -⟩ := fails_iff.1 hfails
    simp only [List.mem_cons, List.not_mem_nil, or_false] at hf
    rcases hf with rfl | rfl | rfl <;> cases hload
  have hsize : ∀ f ∈ [script, other, script],
      (natText f.bytes.length).length ≤ Json.maxIntDigits := by
    simp only [List.forall_mem_cons]
    exact ⟨by decide, by decide, by decide, nofun⟩
  obtain ⟨hascii, entries, -, hkeys, hvalues, hread⟩ := json_report_lossless hasked rfl hok
  refine ⟨hascii, entries, hread hsize, hkeys.trans (by decide), ?_⟩
  obtain ⟨source, options, hbytes, hsettings, hmem, -⟩ := hvalues script List.mem_cons_self
  have hencode : Utf8.encode "xé".toList = script.bytes := by decide +kernel
  obtain rfl : "xé".toList = source := Except.ok.inj
    ((Utf8.decode_eq_ok_iff.2 hencode).symm.trans (Utf8.decode_eq_ok_iff.2 hbytes))
  have hoptions : settle none none (unifyBreaks "xé".toList) = .ok ⟨true⟩ := rfl
  obtain rfl : ⟨true⟩ = options := Except.ok.inj (hoptions.symm.trans hsettings)
  have hanalyze : analyze .builtIn ⟨true⟩ (splitLines (unifyBreaks "xé".toList)) =
      [Finding.toDiagnostic ⟨0, 0, 2, .undefinedVariable "xé"⟩] := by decide +kernel
  rw [hanalyze] at hmem
  exact hmem

end CheckCall

end ScriptLint
