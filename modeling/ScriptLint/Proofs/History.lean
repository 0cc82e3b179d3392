import ScriptLint.Analysis.Session

/-!
# Sessions and their history

A session remembers two results under different rules: every analysis renews the diagnostics and the
symbols, and a request for symbols takes them only if there are none yet. Changes of the document
leave both as they are, so what a session answers depends on the order of all requests before.

This module says it from the requests alone. `Content.after` is what a session would analyse now, by
the last change of each kind. `Content.analysed?` and `Content.filled?` are what it was at the last
analysis and when the symbols were last taken. `Session.Remembers` says that a session holds exactly
this, one step keeps it (`Remembers.answer`), and `replies_exact` puts a whole run together.
-/

namespace ScriptLint

/-! ## Requests -/

namespace Request

/-- The calls that a request makes: the lists that are emptied come from an analysis, or are the
remembered diagnostics, and then the symbols. -/
def calls : Request → List Request
  | .clearReturned fresh => [if fresh then .analyze else .diagnostics, .symbols]
  | r => [r]

/-- The requests that make up a request cannot be split further. -/
theorem calls_of_mem_calls (r : Request) : ∀ call ∈ r.calls, call.calls = [call] := by
  cases r with
  | clearReturned fresh => cases fresh <;> simp [calls]
  | _ => simp [calls]

/-- Whether a call analyses the document. -/
def isAnalyze : Request → Bool
  | .analyze => true
  | _ => false

/-- Whether a call asks for the symbols. -/
def isSymbols : Request → Bool
  | .symbols => true
  | _ => false

/-- The lines that a call sets. -/
def lines? : Request → Option (List Line)
  | .setLines lines => some lines
  | _ => none

/-- The option that a call sets. -/
def warn? : Request → Option Bool
  | .setWarn warn => some warn
  | _ => none

/-- The registry that a call sets. A description that is rejected sets none. -/
def registry? : Request → Option Registry
  | .setRegistry spec => spec.build.toOption
  | _ => none

/-- The calls before the first one that satisfies `p`, if there is one. -/
def beforeFirst? (p : Request → Bool) : List Request → Option (List Request)
  | [] => none
  | r :: calls => if p r then some [] else (beforeFirst? p calls).map (r :: ·)

/-- The calls before the last one that satisfies `p`, if there is one. -/
def beforeLast? (p : Request → Bool) : List Request → Option (List Request)
  | [] => none
  | r :: calls => ((beforeLast? p calls).map (r :: ·)).or (if p r then some [] else none)

/-- A further call is the first of its kind only if none was before. -/
theorem beforeFirst?_concat (p : Request → Bool) (calls : List Request) (r : Request) :
    beforeFirst? p (calls ++ [r]) =
      (beforeFirst? p calls).or (if p r then some calls else none) := by
  induction calls with
  | nil => simp [beforeFirst?]
  | cons x calls ih =>
    rw [List.cons_append, beforeFirst?, beforeFirst?, ih]
    cases p x with
    | true => rfl
    | false => cases beforeFirst? p calls <;> cases p r <;> rfl

/-- A further call is the last of its kind. -/
theorem beforeLast?_concat (p : Request → Bool) (calls : List Request) (r : Request) :
    beforeLast? p (calls ++ [r]) = if p r then some calls else beforeLast? p calls := by
  induction calls with
  | nil => simp [beforeLast?]
  | cons x calls ih =>
    rw [List.cons_append, beforeLast?, beforeLast?, ih]
    cases p r <;> rfl

end Request

/-! ## Content -/

/-- What a session analyses. -/
structure Content where
  lines : List Line
  options : Options
  registry : Registry

namespace Content

/-- The content after some calls: the last change of each kind counts. -/
def after (c : Content) (calls : List Request) : Content :=
  { lines := (calls.filterMap Request.lines?).getLastD c.lines
    options := ⟨(calls.filterMap Request.warn?).getLastD c.options.warnOnHostFunctions⟩
    registry := (calls.filterMap Request.registry?).getLastD c.registry }

/-- The content at the last analysis. -/
def analysed? (c : Content) (calls : List Request) : Option Content :=
  (Request.beforeLast? Request.isAnalyze calls).map c.after

/-- The content when the symbols were last taken: at the last analysis or, without one, at the first
request for them. -/
def filled? (c : Content) (calls : List Request) : Option Content :=
  (c.analysed? calls).or ((Request.beforeFirst? Request.isSymbols calls).map c.after)

/-- The diagnostics of a content, analysed for the first time. -/
def diagnostics (c : Content) : List Diagnostic := analyze c.registry c.options c.lines

/-- The symbols of a content. -/
def symbols (c : Content) : List Symbol := Symbols.extract c.lines

/-- What a session with this content shows after a change. -/
def status (uri : String) (c : Content) : SessionStatus :=
  ⟨c.lines.length, c.options.warnOnHostFunctions, c.registry.size, uri⟩

/-- The reply to a request after some calls, for a session that was opened with content `c`. -/
def reply (uri : String) (c : Content) (calls : List Request) (r : Request) : Reply :=
  match r with
  | .analyze => .diagnostics (c.after calls).diagnostics
  | .diagnostics => .diagnostics (((c.analysed? calls).map diagnostics).getD [])
  | .symbols => .symbols ((c.filled? calls).getD (c.after calls)).symbols
  | .setRegistry spec =>
    match spec.build with
    | .error e => .rejected e
    | .ok _ => .status ((c.after (calls ++ [r])).status uri)
  | _ => .status ((c.after (calls ++ r.calls)).status uri)

/-- A further call changes what it sets. -/
theorem after_concat (c : Content) (calls : List Request) (r : Request) :
    c.after (calls ++ [r]) =
      { lines := r.lines?.getD (c.after calls).lines
        options := ⟨r.warn?.getD (c.after calls).options.warnOnHostFunctions⟩
        registry := r.registry?.getD (c.after calls).registry } := by
  have hlast : ∀ {α : Type} (f : Request → Option α) (a : α),
      ((calls ++ [r]).filterMap f).getLastD a = (f r).getD ((calls.filterMap f).getLastD a) := by
    intro α f a
    cases h : f r with
    | none => simp [h]
    | some b => simp [h]
  rw [after, hlast, hlast, hlast]
  rfl

/-- A further request changes what was analysed only if it asks for an analysis. -/
theorem analysed?_concat (c : Content) (calls : List Request) (r : Request) :
    c.analysed? (calls ++ [r]) =
      if r.isAnalyze then some (c.after calls) else c.analysed? calls := by
  rw [analysed?, Request.beforeLast?_concat]
  cases r.isAnalyze <;> rfl

/-- An analysis takes the symbols, and a request for them does if they were not taken before. -/
theorem filled?_concat (c : Content) (calls : List Request) (r : Request) :
    c.filled? (calls ++ [r]) =
      if r.isAnalyze then some (c.after calls)
      else (c.filled? calls).or (if r.isSymbols then some (c.after calls) else none) := by
  rw [filled?, analysed?_concat, Request.beforeFirst?_concat]
  cases r.isAnalyze with
  | true => rfl
  | false =>
    rw [filled?, Option.or_assoc]
    cases Request.beforeFirst? Request.isSymbols calls <;> cases r.isSymbols <;> rfl

end Content

/-! ## What a session remembers -/

namespace Session

/-- What a session analyses now. -/
def content (s : Session) : Content := ⟨s.lines, s.options, s.registry⟩

/-- The session after some requests. -/
def after (s : Session) (requests : List Request) : Session :=
  requests.foldl (fun s r => (s.answer r).1) s

/-- The replies to requests after others. -/
def repliesAfter (s : Session) (before later : List Request) : List Reply :=
  (s.run (before ++ later)).drop before.length

/-- A session that was opened with content `c` and then had some calls holds what these calls
determine. -/
structure Remembers (s : Session) (uri : String) (c : Content) (calls : List Request) : Prop where
  uri_eq : s.uri = uri
  content_eq : s.content = c.after calls
  diagnostics_eq : s.diagnostics = ((c.analysed? calls).map Content.diagnostics).getD []
  symbols_eq : s.symbols? = (c.filled? calls).map Content.symbols

/-- The status depends on the content and the name of the document only. -/
theorem status_eq (s : Session) : s.status = s.content.status s.uri := rfl

/-- The first request is answered first, and the others by the session behind it. -/
theorem run_cons (s : Session) (r : Request) (requests : List Request) :
    s.run (r :: requests) = (s.answer r).2 :: (s.answer r).1.run requests := rfl

/-- The later requests of a run are answered by the session behind the earlier ones. -/
theorem run_append (s : Session) (before later : List Request) :
    s.run (before ++ later) = s.run before ++ (s.after before).run later := by
  induction before generalizing s with
  | nil => rfl
  | cons r before ih =>
    rw [List.cons_append, run_cons, run_cons, ih]
    rfl

/-- Every request has one reply. -/
theorem length_run (s : Session) (requests : List Request) :
    (s.run requests).length = requests.length := by
  induction requests generalizing s with
  | nil => rfl
  | cons r requests ih => rw [run_cons, List.length_cons, ih, List.length_cons]

/-- The replies behind some requests are those of the session behind them. -/
theorem repliesAfter_eq (s : Session) (before later : List Request) :
    s.repliesAfter before later = (s.after before).run later := by
  rw [repliesAfter, run_append, ← length_run s before, List.drop_left]

/-- The session behind all requests is the one behind the later of them. -/
theorem after_append (s : Session) (before later : List Request) :
    s.after (before ++ later) = (s.after before).after later := by
  rw [after, List.foldl_append]
  rfl

/-- A request leaves a session as the calls that it makes do. -/
theorem after_calls (s : Session) (r : Request) : s.after r.calls = (s.answer r).1 := by
  cases r with
  | clearReturned fresh => cases fresh <;> rfl
  | _ => rfl

/-- A session is left the same by requests and by those that they are made up of. -/
theorem after_flatMap_calls (s : Session) (requests : List Request) :
    s.after (requests.flatMap Request.calls) = s.after requests := by
  induction requests generalizing s with
  | nil => rfl
  | cons r requests ih =>
    rw [List.flatMap_cons, after_append, after_calls, ih, after, after, List.foldl_cons]

section
variable {s : Session} {r : Request}

/-! One request, by what it sets and what it asks for. -/

/-- No request changes the name of the document. -/
theorem uri_answer : (s.answer r).1.uri = s.uri := by
  cases r with
  | clearReturned fresh => cases fresh <;> rfl
  | setRegistry spec =>
    rw [answer]
    cases spec.build <;> rfl
  | _ => rfl

/-- A request changes the part of the content that it sets. -/
theorem content_answer :
    (s.answer r).1.content =
      { lines := r.lines?.getD s.content.lines
        options := ⟨r.warn?.getD s.content.options.warnOnHostFunctions⟩
        registry := r.registry?.getD s.content.registry } := by
  cases r with
  | clearReturned fresh => cases fresh <;> rfl
  | setRegistry spec =>
    rw [answer, Request.registry?]
    cases spec.build <;> rfl
  | _ => rfl

/-- The diagnostics change with an analysis only. -/
theorem diagnostics_answer (h : r.calls = [r]) :
    (s.answer r).1.diagnostics =
      if r.isAnalyze then s.content.diagnostics else s.diagnostics := by
  cases r with
  | clearReturned fresh => simp [Request.calls] at h
  | setRegistry spec =>
    rw [answer]
    cases spec.build <;> rfl
  | _ => rfl

/-- An analysis renews the symbols, and a request for symbols fills them in. -/
theorem symbols?_answer (h : r.calls = [r]) :
    (s.answer r).1.symbols? =
      if r.isAnalyze then some s.content.symbols
      else s.symbols?.or (if r.isSymbols then some s.content.symbols else none) := by
  cases r with
  | clearReturned fresh => simp [Request.calls] at h
  | setRegistry spec =>
    rw [answer]
    cases spec.build <;> simp [Request.isAnalyze, Request.isSymbols]
  | symbols =>
    show some (s.symbols?.getD s.content.symbols) = _
    cases s.symbols? <;> rfl
  | analyze => rfl
  | _ => exact (Option.or_none).symm

end

namespace Remembers

section
variable {s : Session} {uri : String} {c : Content} {calls : List Request}

/-- A new session remembers its document and no requests. -/
theorem start (text uri : String) (options : Options) (registry : Registry) :
    (Session.start text uri options registry).Remembers uri
      ⟨splitLines text.toList, options, registry⟩ [] :=
  ⟨rfl, rfl, rfl, rfl⟩

/-- One call keeps what a session remembers in step with the calls. -/
theorem answer (h : s.Remembers uri c calls) {r : Request} (hr : r.calls = [r]) :
    (s.answer r).1.Remembers uri c (calls ++ [r]) := by
  obtain ⟨huri, hcontent, hdiagnostics, hsymbols⟩ := h
  refine ⟨?_, ?_, ?_, ?_⟩
  · rw [uri_answer, huri]
  · rw [content_answer, hcontent, Content.after_concat]
  · rw [diagnostics_answer hr, hcontent, hdiagnostics, Content.analysed?_concat]
    cases r.isAnalyze <;> rfl
  · rw [symbols?_answer hr, hcontent, hsymbols, Content.filled?_concat]
    cases r.isAnalyze with
    | true => rfl
    | false => cases c.filled? calls <;> cases r.isSymbols <;> rfl

/-- A whole list of calls. -/
theorem after (h : s.Remembers uri c calls) {later : List Request}
    (hlater : ∀ r ∈ later, r.calls = [r]) : (s.after later).Remembers uri c (calls ++ later) := by
  induction later generalizing s calls with
  | nil => rwa [List.append_nil]
  | cons r later ih =>
    obtain ⟨hr, hlater⟩ := List.forall_mem_cons.1 hlater
    rw [← List.singleton_append, ← List.append_assoc]
    exact ih (h.answer hr) hlater

/-- A whole request. -/
theorem request (h : s.Remembers uri c calls) (r : Request) :
    (s.answer r).1.Remembers uri c (calls ++ r.calls) := by
  rw [← after_calls]
  exact h.after r.calls_of_mem_calls

/-- A session that remembers what the calls before determine gives the reply that they determine. -/
theorem reply_eq (h : s.Remembers uri c calls) (r : Request) :
    (s.answer r).2 = c.reply uri calls r := by
  have hnext : (s.answer r).1.status = (c.after (calls ++ r.calls)).status uri := by
    rw [status_eq, (h.request r).content_eq, (h.request r).uri_eq]
  cases r with
  | analyze =>
    show Reply.diagnostics s.content.diagnostics = _
    rw [h.content_eq]
    rfl
  | symbols =>
    show Reply.symbols (s.symbols?.getD s.content.symbols) = _
    rw [h.symbols_eq, h.content_eq, Content.reply]
    cases c.filled? calls <;> rfl
  | diagnostics => exact congrArg Reply.diagnostics h.diagnostics_eq
  | setRegistry spec =>
    rw [Session.answer] at hnext ⊢
    rw [Content.reply]
    cases hspec : spec.build with
    | error e => rfl
    | ok registry =>
      rw [hspec] at hnext
      exact congrArg Reply.status hnext
  | clearReturned fresh | setLines lines | setText text | setWarn warn =>
    exact congrArg Reply.status hnext

/-- A whole run. -/
theorem run_eq (h : s.Remembers uri c calls) (requests : List Request) :
    s.run requests = requests.mapIdx fun i r =>
      c.reply uri (calls ++ (requests.take i).flatMap Request.calls) r := by
  induction requests generalizing s calls with
  | nil => rfl
  | cons r requests ih =>
    rw [run_cons, List.mapIdx_cons, h.reply_eq, ih (h.request r)]
    simp only [List.take_zero, List.flatMap_nil, List.append_nil, List.take_succ_cons,
      List.flatMap_cons, List.append_assoc]

end

end Remembers

/-- **What a session answers.** Every reply of a run is the one that the requests before determine
(`Content.reply`): an analysis is made on the content of that moment, the diagnostics are those of
the last analysis, and the symbols are those of the content when they were last taken. Emptying
lists that were handed out is no more than the calls that hand them out, and neither a new text nor
a registry that is rejected has any influence on later replies. -/
theorem replies_exact (text uri : String) (options : Options) (registry : Registry) :
    (∀ requests : List Request,
      (Session.start text uri options registry).run requests =
        requests.mapIdx fun i r =>
          Content.reply uri ⟨splitLines text.toList, options, registry⟩
            ((requests.take i).flatMap Request.calls) r) ∧
    ∀ before later : List Request,
      (∀ fresh : Bool,
        (Session.start text uri options registry).repliesAfter
            (before ++ [.clearReturned fresh]) later =
          (Session.start text uri options registry).repliesAfter
            (before ++ [if fresh then .analyze else .diagnostics, .symbols]) later) ∧
      (∀ newText : String,
        (Session.start text uri options registry).repliesAfter
          (before ++ [.setText newText]) later =
          (Session.start text uri options registry).repliesAfter before later) ∧
      ∀ (spec : RegistrySpec) (e : RegistryError), spec.build = .error e →
        (Session.start text uri options registry).repliesAfter
          (before ++ [.setRegistry spec]) later =
          (Session.start text uri options registry).repliesAfter before later := by
  have hstart := Remembers.start text uri options registry
  refine ⟨fun requests => hstart.run_eq requests, ?_⟩
  intro before later
  have hbefore : ((Session.start text uri options registry).after before).Remembers uri
      ⟨splitLines text.toList, options, registry⟩ (before.flatMap Request.calls) := by
    rw [← after_flatMap_calls]
    refine hstart.after ?_
    intro call hcall
    obtain ⟨r, -, hr⟩ := List.mem_flatMap.1 hcall
    exact r.calls_of_mem_calls call hr
  simp only [repliesAfter_eq, after_append]
  refine ⟨?_, ?_, ?_⟩
  · intro fresh
    cases fresh <;> rfl
  · intro newText
    -- The text is none of the things that a session remembers.
    have htext : (((Session.start text uri options registry).after before).answer
        (.setText newText)).1.Remembers uri ⟨splitLines text.toList, options, registry⟩
          (before.flatMap Request.calls) :=
      ⟨hbefore.uri_eq, hbefore.content_eq, hbefore.diagnostics_eq, hbefore.symbols_eq⟩
    exact (htext.run_eq later).trans (hbefore.run_eq later).symm
  · intro spec e hspec
    have hsame : (((Session.start text uri options registry).after before).answer
        (.setRegistry spec)).1 = (Session.start text uri options registry).after before := by
      rw [answer, hspec]
    exact congrArg (·.run later) hsame

/-- A session with a declared variable is asked for its symbols, gets other lines and then a
registry with a name twice. The symbols stay those of the first lines until the next analysis. -/
theorem replies_exact_behind_rejected_registry :
    (RegistrySpec.functions [⟨"Foo", "Host", [], .one "null", "", []⟩,
      ⟨"Foo", "Host", [], .one "null", "", []⟩]).build = .error (.duplicateName "Foo") ∧
    (Session.start "var a" "" {} .empty).repliesAfter
        [.symbols, .setLines ["while Foo(b)".toList],
          .setRegistry (.functions [⟨"Foo", "Host", [], .one "null", "", []⟩,
            ⟨"Foo", "Host", [], .one "null", "", []⟩])]
        [.diagnostics, .symbols, .analyze, .symbols] =
      [.diagnostics [], .symbols [⟨"a", none, 0, 4⟩],
        .diagnostics ([⟨0, 6, 9, .hostFunction "Foo"⟩, ⟨0, 0, 12, .unclosedBlock .whileLoop⟩,
          ⟨0, 10, 11, .undefinedVariable "b"⟩].map Finding.toDiagnostic),
        .symbols []] := by
  have hbuild : (RegistrySpec.functions [⟨"Foo", "Host", [], .one "null", "", []⟩,
      ⟨"Foo", "Host", [], .one "null", "", []⟩]).build = .error (.duplicateName "Foo") := rfl
  refine ⟨hbuild, ?_⟩
  refine (((replies_exact "var a" "" {} .empty).2
    [.symbols, .setLines ["while Foo(b)".toList]] _).2.2 _ _ hbuild).trans ?_
  decide +kernel

end Session

end ScriptLint
