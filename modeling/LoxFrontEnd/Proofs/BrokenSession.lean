import LoxFrontEnd.Proofs.Indifference
import LoxFrontEnd.Proofs.RefusedOutput

/-!
# Sessions that break off

A session at the prompt ends early if its output is refused. The first byte refused says where: in
the mark in front of a line, and then the lines before it have been run to their ends, or in the
tokens of a line, and then that line has been scanned but its faults are not forgotten
(`prompt_breaks_off`). A failure to read comes after the last line that is complete, and loses
nothing but the line that is not.
-/
namespace LoxFrontEnd

/-- What a session writes until some lines are done. -/
def completedOutput (sources : List Text) : List UInt8 :=
  sources.flatMap fun source => Utf8.encode promptMark ++ (freshRun source).output.kept.toList

/-- What a reporter is told about a line while it is run. -/
def begunEntries (hadError : Bool) (source : Text) : List Entry :=
  .begin source hadError :: (diagnostics source).map .emit

/-- What a reporter is told about lines that are run to their ends. Only the first of them can begin
with an error. -/
def sessionEntries (hadError : Bool) : List Text → List Entry
  | [] => []
  | source :: sources => begunEntries hadError source ++ .reset :: sessionEntries false sources

/-- A position in the mark that is shown after some lines. -/
structure IsInMark (before : List Text) (position : Nat) : Prop where
  start_le : (completedOutput before).length ≤ position
  lt_stop : position < (completedOutput before).length + (Utf8.encode promptMark).length

/-- A position in the tokens of the line after some others. -/
structure IsInTokens (before : List Text) (source : Text) (position : Nat) : Prop where
  start_le : (completedOutput before).length + (Utf8.encode promptMark).length ≤ position
  lt_stop : position < (completedOutput (before ++ [source])).length

theorem transcript_eq (sources : List Text) :
    transcript sources = completedOutput sources ++ Utf8.encode promptMark := rfl

theorem completedOutput_cons (source : Text) (sources : List Text) :
    completedOutput (source :: sources) =
      Utf8.encode promptMark ++ printedBytes source ++ completedOutput sources := by
  rw [completedOutput, List.flatMap_cons, kept_freshRun]
  rfl

theorem completedOutput_singleton (source : Text) :
    completedOutput [source] = Utf8.encode promptMark ++ printedBytes source := by
  rw [completedOutput_cons, completedOutput, List.flatMap_nil, List.append_nil]

theorem completedOutput_append (sources sources' : List Text) :
    completedOutput (sources ++ sources') = completedOutput sources ++ completedOutput sources' :=
  List.flatMap_append

/-- Every byte of the output of a session is in a mark or in the tokens of a line. -/
theorem exists_place {sources : List Text} {position : Nat}
    (h : position < (transcript sources).length) :
    (∃ before after, sources = before ++ after ∧ IsInMark before position) ∨
      ∃ before source after, sources = before ++ source :: after ∧
        IsInTokens before source position := by
  induction sources generalizing position with
  | nil => exact .inl ⟨[], [], rfl, Nat.zero_le _, by simpa [transcript, completedOutput] using h⟩
  | cons source sources ih =>
    have hlength (before : List Text) : (completedOutput (source :: before)).length =
        (Utf8.encode promptMark).length + (printedBytes source).length +
          (completedOutput before).length := by
      rw [completedOutput_cons, List.length_append, List.length_append]
    rw [transcript_cons, List.length_append, List.length_append] at h
    by_cases hmark : position < (Utf8.encode promptMark).length
    · exact .inl ⟨[], _, rfl, Nat.zero_le _, by simpa [completedOutput] using hmark⟩
    by_cases htokens : position < (Utf8.encode promptMark).length + (printedBytes source).length
    · refine .inr ⟨[], source, sources, rfl, by simpa [completedOutput] using hmark, ?_⟩
      rw [List.nil_append, hlength]
      exact Nat.lt_add_right _ htokens
    · -- The place behind the first line is one in the output of the others.
      have hbehind : position - (Utf8.encode promptMark).length - (printedBytes source).length <
          (transcript sources).length := by omega
      obtain ⟨before, after, hsources, hstart, hstop⟩ |
        ⟨before, next, after, hsources, hstart, hstop⟩ := ih hbehind
      · exact .inl ⟨source :: before, after, by rw [hsources, List.cons_append],
          by rw [hlength]; omega, by rw [hlength]; omega⟩
      · exact .inr ⟨source :: before, next, after, by rw [hsources, List.cons_append],
          by rw [hlength]; omega, by rw [List.cons_append, hlength]; omega⟩

section

variable {ρ : Type} [Reporter ρ] [LawfulReporter ρ]

instance : LawfulReporter (Overheard ρ) where
  errorCount_handle o call := LawfulReporter.errorCount_handle o.reporter call

/-- A session that has run some lines to their ends. -/
structure Advances (o : Overheard ρ) (output : Channel) (sources : List Text) (o' : Overheard ρ)
    (output' : Channel) : Prop where
  entries_eq : o'.entries = o.entries ++ sessionEntries (Reporter.hadError o) sources
  errorCount_eq : Reporter.errorCount o' = if sources = [] then Reporter.errorCount o else 0
  output_eq : output' = output.keep (completedOutput sources)

omit [LawfulReporter ρ] in
theorem entries_begun (o : Overheard ρ) (source : Text) :
    (scanInto source (Reporter.handle o (.begin source))).entries =
      o.entries ++ begunEntries (Reporter.hadError o) source := by
  rw [Overheard.entries_scanInto, Overheard.entries_handle, List.append_assoc]
  rfl

theorem errorCount_begun (o : Overheard ρ) (source : Text) :
    Reporter.errorCount (scanInto source (Reporter.handle o (.begin source))) =
      Reporter.errorCount o + (diagnostics source).length := by
  rw [errorCount_scanInto, emissions_scanCalls, LawfulReporter.errorCount_handle]
  rfl

/-- A line that can be printed is run to its end. -/
theorem runLine_advances (o : Overheard ρ) (number : Nat) {line : List UInt8} {output : Channel}
    (hout : output.Accepts (printedBytes (lineSource line))) :
    ∃ o' : Overheard ρ, runLine number line o output =
        ⟨none, o', output.keep (printedBytes (lineSource line))⟩ ∧
      o'.entries = o.entries ++ sessionEntries (Reporter.hadError o) [lineSource line] ∧
      Reporter.errorCount o' = 0 := by
  unfold runLine
  rw [run_of_accepts hout]
  refine ⟨_, rfl, ?_, errorCount_closeLine _ _ _⟩
  rw [entries_closeLine, entries_begun, List.append_assoc]
  rfl

/-- After lines that can be printed, a session stands where it would if they had never been
there, but for what they leave behind. -/
theorem exists_advances (o : Overheard ρ) (done : Nat) {output : Channel} (ending : Option Failure)
    {first : List (List UInt8)} (rest : List (List UInt8))
    (hout : output.Accepts (completedOutput (first.map lineSource))) :
    ∃ (o' : Overheard ρ) (output' : Channel),
      Advances o output (first.map lineSource) o' output' ∧
      promptFrom done o output ending (first ++ rest) =
        promptFrom (done + first.length) o' output' ending rest := by
  induction first generalizing o done output with
  | nil =>
    exact ⟨o, output, ⟨(List.append_nil _).symm, rfl, (Channel.keep_nil output).symm⟩, rfl⟩
  | cons line first ih =>
    rw [List.map_cons, completedOutput_cons] at hout
    obtain ⟨hline, hfirst⟩ := Channel.accepts_append.mp hout
    obtain ⟨hmark, htokens⟩ := Channel.accepts_append.mp hline
    obtain ⟨o', hrun, hentries, hcount⟩ := runLine_advances o (done + 1) htokens
    have herror : Reporter.hadError o' = false := by simp [Reporter.hadError, hcount]
    rw [Channel.keep_append] at hfirst
    obtain ⟨o'', output'', hadvances, hprompt⟩ := ih o' (done + 1) hfirst
    refine ⟨o'', output'', ⟨?_, ?_, ?_⟩, ?_⟩
    · simp only [hadvances.entries_eq, hentries, herror, List.map_cons, sessionEntries,
        List.append_assoc, List.cons_append, List.nil_append]
    · rw [hadvances.errorCount_eq, hcount, ite_self]
      rfl
    · rw [hadvances.output_eq, List.map_cons, completedOutput_cons, Channel.keep_append,
        Channel.keep_append]
    · rw [List.cons_append, promptFrom, Channel.writeFlushed_of_accepts hmark]
      dsimp only
      rw [hrun, List.length_cons, Nat.add_comm first.length, ← Nat.add_assoc]
      exact hprompt

omit [LawfulReporter ρ] in
theorem promptFrom_of_mark_refused {output : Channel}
    (h : ¬output.holds (Utf8.encode promptMark)) (done : Nat) (r : ρ) (ending : Option Failure)
    (lines : List (List UInt8)) :
    promptFrom done r output ending lines =
      ⟨some output.refusal, r, output.keep (Utf8.encode promptMark)⟩ := by
  cases lines <;> rw [promptFrom, Channel.writeFlushed_of_not_holds h]

omit [LawfulReporter ρ] in
/-- A line whose tokens are refused is scanned, and not closed. -/
theorem promptFrom_of_tokens_refused {output : Channel} {line : List UInt8}
    (hmark : output.Accepts (Utf8.encode promptMark))
    (h : ¬(output.keep (Utf8.encode promptMark)).holds (printedBytes (lineSource line)))
    (done : Nat) (r : ρ) (ending : Option Failure) (lines : List (List UInt8)) :
    promptFrom done r output ending (line :: lines) =
      ⟨some output.refusal,
        scanInto (lineSource line) (Reporter.handle r (.begin (lineSource line))),
        (output.keep (Utf8.encode promptMark)).keep (printedBytes (lineSource line))⟩ := by
  unfold promptFrom runLine
  rw [Channel.writeFlushed_of_accepts hmark]
  dsimp only
  rw [run_of_not_holds h, Channel.refusal_keep]

theorem transcript_append (sources sources' : List Text) :
    transcript (sources ++ sources') = completedOutput sources ++ transcript sources' := by
  rw [transcript_eq, transcript_eq, completedOutput_append, List.append_assoc]

theorem exists_transcript_eq (sources : List Text) :
    ∃ rest, transcript sources = Utf8.encode promptMark ++ rest := by
  cases sources with
  | nil => exact ⟨[], (List.append_nil _).symm⟩
  | cons source sources => exact ⟨_, transcript_cons source sources⟩

/-- What has become of a session that was refused its output. -/
structure Breaks (o : Overheard ρ) (output : Channel) (sources : List Text) (entries : List Entry)
    (errors : Nat) (ended : SessionEnd (Overheard ρ)) : Prop where
  failure_eq : ended.failure = some output.refusal
  output_eq : ended.output = output.keep (transcript sources)
  entries_eq : ended.reporter.entries = o.entries ++ entries
  errorCount_eq : Reporter.errorCount ended.reporter = errors

variable {output : Channel} {room : Nat} {first : List (List UInt8)}

theorem breaks_in_mark (hflush : output.flushFailure = none) (hroom : output.room = some room)
    (hplace : IsInMark (first.map lineSource) room) (rest : List (List UInt8)) (o : Overheard ρ)
    (done : Nat) (ending : Option Failure) :
    Breaks o output ((first ++ rest).map lineSource)
      (sessionEntries (Reporter.hadError o) (first.map lineSource))
      (if first.map lineSource = [] then Reporter.errorCount o else 0)
      (promptFrom done o output ending (first ++ rest)) := by
  have haccepts := Channel.accepts_of_le hflush hroom hplace.start_le
  have hrefused : ¬output.holds
      (completedOutput (first.map lineSource) ++ Utf8.encode promptMark) := by
    refine Channel.not_holds_of_lt hroom ?_
    rw [List.length_append]
    exact hplace.lt_stop
  obtain ⟨o', output', hadvances, hprompt⟩ := exists_advances o done ending rest haccepts
  obtain rfl := hadvances.output_eq
  rw [hprompt, promptFrom_of_mark_refused (Channel.not_holds_keep haccepts hrefused)]
  rw [Channel.refusal_keep]
  refine ⟨rfl, ?_, hadvances.entries_eq, hadvances.errorCount_eq⟩
  obtain ⟨after, hafter⟩ := exists_transcript_eq (rest.map lineSource)
  rw [List.map_append, transcript_append, hafter, ← List.append_assoc,
    Channel.keep_append_of_not_holds hrefused, Channel.keep_append]

theorem breaks_in_tokens {line : List UInt8} (hflush : output.flushFailure = none)
    (hroom : output.room = some room)
    (hplace : IsInTokens (first.map lineSource) (lineSource line) room)
    (rest : List (List UInt8)) (o : Overheard ρ) (done : Nat) (ending : Option Failure) :
    Breaks o output ((first ++ line :: rest).map lineSource)
      (sessionEntries (Reporter.hadError o) (first.map lineSource) ++
        begunEntries (first.map lineSource = [] && Reporter.hadError o) (lineSource line))
      ((if first.map lineSource = [] then Reporter.errorCount o else 0) +
        (diagnostics (lineSource line)).length)
      (promptFrom done o output ending (first ++ line :: rest)) := by
  obtain ⟨hstart, hstop⟩ := hplace
  rw [← List.length_append] at hstart
  rw [completedOutput_append, completedOutput_singleton, ← List.append_assoc] at hstop
  have haccepts := Channel.accepts_of_le hflush hroom hstart
  obtain ⟨hfirst, hmark⟩ := Channel.accepts_append.mp haccepts
  have hrefused := Channel.not_holds_of_lt hroom hstop
  have htokens := Channel.not_holds_keep haccepts hrefused
  rw [Channel.keep_append] at htokens
  obtain ⟨o', output', hadvances, hprompt⟩ := exists_advances o done ending (line :: rest) hfirst
  obtain rfl := hadvances.output_eq
  have herror : Reporter.hadError o' =
      (decide (first.map lineSource = []) && Reporter.hadError o) := by
    rw [Reporter.hadError, hadvances.errorCount_eq]
    split <;> simp_all [Reporter.hadError]
  rw [hprompt, promptFrom_of_tokens_refused hmark htokens, Channel.refusal_keep]
  refine ⟨rfl, ?_, ?_, ?_⟩
  · rw [List.map_append, transcript_append, List.map_cons, transcript_cons, ← List.append_assoc,
      ← List.append_assoc, Channel.keep_append_of_not_holds hrefused, Channel.keep_append,
      Channel.keep_append]
  · rw [entries_begun, hadvances.entries_eq, herror, List.append_assoc]
  · rw [errorCount_begun, hadvances.errorCount_eq]

/-- With room for everything, a session ends as its input does, and all lines have been run to their
ends. -/
structure Finishes (o : Overheard ρ) (output : Channel) (sources : List Text)
    (ending : Option Failure) (ended : SessionEnd (Overheard ρ)) : Prop where
  failure_eq : ended.failure = ending
  output_eq : ended.output = output.keep (transcript sources)
  entries_eq : ended.reporter.entries =
    o.entries ++ sessionEntries (Reporter.hadError o) sources
  errorCount_eq : Reporter.errorCount ended.reporter =
    if sources = [] then Reporter.errorCount o else 0

theorem promptFrom_finishes {lines : List (List UInt8)}
    (hout : output.Accepts (transcript (lines.map lineSource))) (o : Overheard ρ) (done : Nat)
    (ending : Option Failure) :
    Finishes o output (lines.map lineSource) ending (promptFrom done o output ending lines) := by
  rw [transcript_eq] at hout
  obtain ⟨hlines, hmark⟩ := Channel.accepts_append.mp hout
  obtain ⟨o', output', hadvances, hprompt⟩ := exists_advances o done ending [] hlines
  obtain rfl := hadvances.output_eq
  rw [List.append_nil] at hprompt
  rw [hprompt, promptFrom, Channel.writeFlushed_of_accepts hmark]
  cases ending with
  | some cause =>
    exact ⟨rfl, (Channel.keep_append _ _ _).symm, hadvances.entries_eq, hadvances.errorCount_eq⟩
  | none =>
    refine ⟨rfl, (Channel.keep_append _ _ _).symm, ?_, ?_⟩
    · exact (List.append_nil o'.entries).trans hadvances.entries_eq
    · exact (ForgetfulReporter.errorCount_note o' _).trans hadvances.errorCount_eq

end

/-- Of bytes cut into lines, the lines that end with a line feed leave out what is behind the last
line feed. -/
theorem Input.CutsInto.exists_rest {bytes : List UInt8} {lines : List (List UInt8)}
    (h : CutsInto bytes lines) :
    ∃ rest, lineFeed ∉ rest ∧
      (lines.filter (·.getLast? = some lineFeed)).flatten ++ rest = bytes ∧
      ∀ line ∈ lines.filter (·.getLast? = some lineFeed), ∃ body, lineFeed ∉ body ∧
        line = body ++ [lineFeed] := by
  induction h with
  | none => exact ⟨[], by simp, rfl, by simp⟩
  | @last body hne hbody =>
    have hlast : body.getLast? ≠ some lineFeed := fun h => hbody (List.mem_of_getLast? h)
    exact ⟨body, hbody, by simp [hlast], by simp [hlast]⟩
  | @cons body bytes lines hbody h ih =>
    obtain ⟨rest, hrest, hflatten, hall⟩ := ih
    rw [List.filter_cons_of_pos (by simp), List.forall_mem_cons]
    exact ⟨rest, hrest, by simp [← hflatten], ⟨body, hbody, rfl⟩, hall⟩

/-- What has become of a session whose output has taken `room` bytes and refused the next one. -/
structure BreaksOff {ρ : Type} [Reporter ρ] (r : ρ) (output : Channel) (room : Nat)
    (sources : List Text) (ended : SessionEnd (Overheard ρ)) : Prop where
  failure_eq : ended.failure = some output.refusal
  kept_eq : ended.output.kept.toList = output.kept.toList ++ (transcript sources).take room
  place : (∃ before after, sources = before ++ after ∧ IsInMark before room) ∨
    ∃ before source after, sources = before ++ source :: after ∧ IsInTokens before source room
  in_mark : ∀ before after, sources = before ++ after → IsInMark before room →
    ended.reporter.entries = sessionEntries (Reporter.hadError r) before ∧
    Reporter.errorCount ended.reporter.reporter =
      if before = [] then Reporter.errorCount r else 0
  in_tokens : ∀ before source after, sources = before ++ source :: after →
    IsInTokens before source room →
    ended.reporter.entries = sessionEntries (Reporter.hadError r) before ++
      begunEntries (before = [] && Reporter.hadError r) source ∧
    Reporter.errorCount ended.reporter.reporter =
      (if before = [] then Reporter.errorCount r else 0) + (diagnostics source).length

section

variable {ρ : Type} [Reporter ρ] [LawfulReporter ρ] {output : Channel} {room : Nat}

theorem breaksOff_of_lt (hflush : output.flushFailure = none) (hroom : output.room = some room)
    (r : ρ) (input : Input) (hlt : room < (transcript (input.lines.map lineSource)).length) :
    BreaksOff r output room (input.lines.map lineSource)
      (prompt input (Overheard.of r) output) := by
  have hplace := exists_place hlt
  have hmark : ∀ before after, input.lines.map lineSource = before ++ after →
      IsInMark before room →
      Breaks (Overheard.of r) output (input.lines.map lineSource)
        (sessionEntries (Reporter.hadError r) before)
        (if before = [] then Reporter.errorCount r else 0)
        (prompt input (Overheard.of r) output) := by
    intro before after hsources hin
    obtain ⟨first, rest, hlines, rfl, rfl⟩ := List.map_eq_append_iff.mp hsources
    rw [prompt, hlines]
    exact breaks_in_mark hflush hroom hin rest (Overheard.of r) 0 input.failure
  have htokens : ∀ before source after, input.lines.map lineSource = before ++ source :: after →
      IsInTokens before source room →
      Breaks (Overheard.of r) output (input.lines.map lineSource)
        (sessionEntries (Reporter.hadError r) before ++
          begunEntries (before = [] && Reporter.hadError r) source)
        ((if before = [] then Reporter.errorCount r else 0) + (diagnostics source).length)
        (prompt input (Overheard.of r) output) := by
    intro before source after hsources hin
    obtain ⟨first, rest, hlines, rfl, hrest⟩ := List.map_eq_append_iff.mp hsources
    obtain ⟨line, rest, rfl, rfl, rfl⟩ := List.map_eq_cons_iff.mp hrest
    rw [prompt, hlines]
    exact breaks_in_tokens hflush hroom hin rest (Overheard.of r) 0 input.failure
  obtain ⟨entries, errors, hbreaks⟩ : ∃ entries errors,
      Breaks (Overheard.of r) output (input.lines.map lineSource) entries errors
        (prompt input (Overheard.of r) output) := by
    obtain ⟨before, after, hsources, hin⟩ | ⟨before, source, after, hsources, hin⟩ := hplace
    · exact ⟨_, _, hmark before after hsources hin⟩
    · exact ⟨_, _, htokens before source after hsources hin⟩
  refine ⟨hbreaks.failure_eq, ?_, hplace, fun before after hsources hin => ?_,
    fun before source after hsources hin => ?_⟩
  · rw [hbreaks.output_eq, Channel.kept_keep_eq, hroom]
    rfl
  · have hbefore := hmark before after hsources hin
    exact ⟨hbefore.entries_eq, hbefore.errorCount_eq⟩
  · have hbefore := htokens before source after hsources hin
    exact ⟨hbefore.entries_eq, hbefore.errorCount_eq⟩

/-- A session stops at the first byte that its output refuses. It ends with the refusal and has told
its reporter what that place calls for. If nothing is refused, all lines are run to their ends, and
the session ends as its input does. -/
theorem prompt_breaks_off (hflush : output.flushFailure = none) (r : ρ) (bytes : List UInt8)
    (ending : Option Failure) :
    let input := Input.ofBytes bytes ending
    let sources := input.lines.map lineSource
    let ended := prompt input (Overheard.of r) output
    (∀ room, output.room = some room → room < (transcript sources).length →
      BreaksOff r output room sources ended) ∧
    ((∀ room, output.room = some room → (transcript sources).length ≤ room) →
      ended.failure = ending ∧
      ended.output.kept.toList = output.kept.toList ++ transcript sources ∧
      ended.reporter.entries = sessionEntries (Reporter.hadError r) sources ∧
      Reporter.errorCount ended.reporter.reporter =
        if sources = [] then Reporter.errorCount r else 0) ∧
    (∀ cause, ending = some cause → ∃ rest, Input.lineFeed ∉ rest ∧
      input.lines.flatten ++ rest = bytes ∧
      ∀ line ∈ input.lines, ∃ body, Input.lineFeed ∉ body ∧ line = body ++ [Input.lineFeed]) ∧
    (ending = none → Input.CutsInto bytes input.lines) ∧
    prompt input r output = ⟨ended.failure, ended.reporter.reporter, ended.output⟩ := by
  intro input sources ended
  refine ⟨fun room hroom hlt => breaksOff_of_lt hflush hroom r input hlt, fun hroom => ?_,
    fun cause hcause => ?_, fun hnone => ?_, ?_⟩
  · have hout : output.Accepts (transcript sources) := ⟨hflush, hroom⟩
    have hfinishes : Finishes (Overheard.of r) output sources ending ended :=
      promptFrom_finishes hout (Overheard.of r) 0 ending
    refine ⟨hfinishes.failure_eq, ?_, hfinishes.entries_eq, hfinishes.errorCount_eq⟩
    rw [hfinishes.output_eq, Channel.kept_keep hout]
  · subst hcause
    exact (Input.cutsInto_cutLines bytes).exists_rest
  · subst hnone
    exact Input.cutsInto_cutLines bytes
  · obtain ⟨hfailure, hreporter, houtput⟩ :=
      Overheard.agreement.prompt (rfl : (Overheard.of r).reporter = r) input output
    rw [hfailure, hreporter, houtput]
    rfl

end

/-- The output is full in the tokens of the second line, long after the first line has begun with
an error of which it knows nothing. -/
theorem prompt_breaks_off_second_line :
    (Channel.limited 16 (.kind .brokenPipe)).flushFailure = none ∧
    (prompt (.ofBytes [0x40, 0x0A, 0x28] none) (Overheard.of (⟨[⟨7, [], [], none⟩]⟩ : Collection))
      (.limited 16 (.kind .brokenPipe))).reporter.entries =
      [.begin ['@'] true, .emit ⟨1, [], Fault.message .unexpectedCharacter, some ⟨0, 1⟩⟩, .reset,
        .begin ['('] false] := by
  have hfirst : Lexeme.cut ['@'] = [⟨['@'], .fault .unexpectedCharacter⟩] :=
    Lexeme.cut_eq_iff.mpr ⟨⟨.unexpected (by decide), trivial⟩, rfl⟩
  have hsecond : Lexeme.cut ['('] = [⟨['('], .token (.operator .leftParen) none⟩] :=
    Lexeme.cut_eq_iff.mpr ⟨⟨.operator (o := .leftParen) (by simp) (by simp), trivial⟩, rfl⟩
  have houtput : (completedOutput [['@']]).length = 12 := by
    rw [completedOutput_singleton, printedBytes, tokens, scan, hfirst]
    rfl
  have houtputs : (completedOutput [['@'], ['(']]).length = 42 := by
    rw [completedOutput_cons, completedOutput_singleton, printedBytes, printedBytes, tokens, tokens,
      scan, scan, hfirst, hsecond]
    rfl
  have hmark : (Utf8.encode promptMark).length = 2 := rfl
  have hsources :
      (Input.ofBytes [0x40, 0x0A, 0x28] none).lines.map lineSource = [['@'], ['(']] := by
    decide
  have hlt : 16 < (transcript [['@'], ['(']]).length := by
    rw [transcript_eq, List.length_append, houtputs]
    omega
  have hplace : IsInTokens [['@']] ['('] 16 := by
    refine ⟨by omega, ?_⟩
    rw [List.singleton_append, houtputs]
    omega
  have hflush : (Channel.limited 16 (.kind .brokenPipe)).flushFailure = none := rfl
  have hbreaks := (prompt_breaks_off hflush (⟨[⟨7, [], [], none⟩]⟩ : Collection)
    [0x40, 0x0A, 0x28] none).1 16 rfl (hsources ▸ hlt)
  refine ⟨hflush, (hbreaks.in_tokens [['@']] ['('] [] hsources hplace).1.trans ?_⟩
  simp only [sessionEntries, begunEntries, diagnostics, scan, hfirst, hsecond]
  rfl

end LoxFrontEnd
