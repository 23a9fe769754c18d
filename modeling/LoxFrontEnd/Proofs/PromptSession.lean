import LoxFrontEnd.Proofs.Agreement
import LoxFrontEnd.Proofs.LineCutting
import LoxFrontEnd.Proofs.Tiling
import LoxFrontEnd.Proofs.Writing
import Mathlib.Data.List.Forall2

/-!
# Sessions at the prompt

A session is a sequence of runs that know nothing of one another. Each line is run as if by
itself with a reporter that has not been told anything, and what the session writes and tells is
put together from these runs (`prompt_isolated`).
-/
namespace LoxFrontEnd

/-- What a session relies on: a reporter forgets its errors when it is reset and does not count what
is for the log. -/
class ForgetfulReporter (ρ : Type) [Reporter ρ] : Prop where
  errorCount_reset (r : ρ) : Reporter.errorCount (Reporter.handle r .reset) = 0
  errorCount_note (r : ρ) (event : Log.Event) :
    Reporter.errorCount (Reporter.handle r (.note event)) = Reporter.errorCount r

instance {ρ : Type} [Reporter ρ] [LawfulReporter ρ] : ForgetfulReporter ρ where
  errorCount_reset r := LawfulReporter.errorCount_handle r .reset
  errorCount_note r event := LawfulReporter.errorCount_handle r (.note event)

/-- What a call is on record as, if there was an error before it or not. -/
def Call.entry? (hadError : Bool) : Call → Option Entry
  | begin source => some (.begin source hadError)
  | emit d => some (.emit d)
  | reset => some .reset
  | note _ => none

/-- A reporter with a record of what it has been told. -/
structure Overheard (ρ : Type) where
  entries : List Entry
  reporter : ρ

namespace Overheard

variable {ρ : Type} [Reporter ρ]

/-- A reporter with nothing on record yet. -/
def of (r : ρ) : Overheard ρ := ⟨[], r⟩

def handle (o : Overheard ρ) (call : Call) : Overheard ρ :=
  ⟨o.entries ++ (call.entry? (Reporter.hadError o.reporter)).toList,
    Reporter.handle o.reporter call⟩

instance : Reporter (Overheard ρ) := ⟨handle, fun o => Reporter.errorCount o.reporter⟩

instance [ForgetfulReporter ρ] : ForgetfulReporter (Overheard ρ) where
  errorCount_reset o := ForgetfulReporter.errorCount_reset o.reporter
  errorCount_note o event := ForgetfulReporter.errorCount_note o.reporter event

theorem entries_handle (o : Overheard ρ) (call : Call) :
    (Reporter.handle o call).entries =
      o.entries ++ (call.entry? (Reporter.hadError o)).toList := rfl

/-- Being on record changes nothing. -/
theorem agreement : Agreement fun (o : Overheard ρ) (r : ρ) => o.reporter = r where
  handle h call := congrArg (Reporter.handle · call) h
  errorCount h := congrArg Reporter.errorCount h

/-- While a source is scanned, its diagnostics go on record. -/
theorem entries_scanInto (o : Overheard ρ) (source : Text) :
    (scanInto source o).entries = o.entries ++ (diagnostics source).map Entry.emit := by
  have hnote (o : Overheard ρ) (event : Log.Event) :
      (Reporter.handle o (.note event)).entries = o.entries := List.append_nil o.entries
  exact record_scanInto entries Entry.emit (fun _ _ => rfl) hnote source o

end Overheard

/-- A run by itself, with a reporter that has been told nothing and room for everything. -/
def freshRun (source : Text) : Ran Collection := run source .empty .unlimited

theorem diagnostics_freshRun (source : Text) :
    (freshRun source).reporter.diagnostics = diagnostics source := by
  rw [freshRun, reporter_run, diagnostics_scanInto]
  rfl

theorem kept_freshRun (source : Text) :
    (freshRun source).output.kept.toList = printedBytes source := by
  have haccepts := Channel.accepts_unlimited (printedBytes source)
  rw [freshRun, run_of_accepts haccepts, Channel.kept_keep haccepts]
  rfl

/-- What a session writes: a mark before each line that it asks for, and what the line writes. -/
def transcript (sources : List Text) : List UInt8 :=
  sources.flatMap (fun source => Utf8.encode promptMark ++ (freshRun source).output.kept.toList) ++
    Utf8.encode promptMark

/-- What a reporter is told about a source that is run by itself. -/
def freshEntries (source : Text) : List Entry :=
  .begin source false :: (freshRun source).reporter.diagnostics.map .emit ++ [.reset]

theorem transcript_cons (source : Text) (sources : List Text) :
    transcript (source :: sources) =
      Utf8.encode promptMark ++ (printedBytes source ++ transcript sources) := by
  simp only [transcript, List.flatMap_cons, List.append_assoc, kept_freshRun]

section

variable {ρ : Type} [Reporter ρ] [ForgetfulReporter ρ]

/-- A session, or a part of one, that completes with the given output and record, and leaves no
error behind. -/
structure Completes (o : Overheard ρ) (output : Channel) (bytes : List UInt8)
    (entries : List Entry) (ended : SessionEnd (Overheard ρ)) : Prop where
  failure_eq : ended.failure = none
  entries_eq : ended.reporter.entries = o.entries ++ entries
  errorCount_eq : Reporter.errorCount ended.reporter = 0
  output_eq : ended.output = output.keep bytes

theorem errorCount_closeLine (number : Nat) (outcome : Outcome) (r : ρ) :
    Reporter.errorCount (closeLine number outcome r) = 0 :=
  ForgetfulReporter.errorCount_reset _

omit [ForgetfulReporter ρ] in
theorem entries_closeLine (number : Nat) (outcome : Outcome) (o : Overheard ρ) :
    (closeLine number outcome o).entries = o.entries ++ [.reset] := by
  unfold closeLine
  dsimp only
  split
  · exact congrArg (· ++ [Entry.reset]) (List.append_nil o.entries)
  · rfl

omit [ForgetfulReporter ρ] in
/-- What is on record of a line that begins without an error. -/
theorem entries_scanInto_begin {o : Overheard ρ} (ho : Reporter.errorCount o = 0) (source : Text) :
    (scanInto source (Reporter.handle o (.begin source))).entries ++ [.reset] =
      o.entries ++ freshEntries source := by
  have herror : Reporter.hadError o = false := by simp [Reporter.hadError, ho]
  rw [Overheard.entries_scanInto, Overheard.entries_handle, herror, freshEntries,
    diagnostics_freshRun]
  simp [Call.entry?]

/-- A line leaves no error behind, whatever it holds. -/
theorem runLine_completes {o : Overheard ρ} (ho : Reporter.errorCount o = 0) (number : Nat)
    {line : List UInt8} {output : Channel}
    (hout : output.Accepts (printedBytes (lineSource line))) :
    Completes o output (printedBytes (lineSource line)) (freshEntries (lineSource line))
      (runLine number line o output) := by
  unfold runLine
  rw [run_of_accepts hout]
  refine ⟨rfl, ?_, errorCount_closeLine _ _ _, rfl⟩
  rw [entries_closeLine]
  exact entries_scanInto_begin ho (lineSource line)

/-- Every line begins without an error, so it is run as if it were the only one. -/
theorem promptFrom_completes {o : Overheard ρ} (ho : Reporter.errorCount o = 0) (done : Nat)
    {lines : List (List UInt8)} {output : Channel}
    (hout : output.Accepts (transcript (lines.map lineSource))) :
    Completes o output (transcript (lines.map lineSource))
      ((lines.map lineSource).flatMap freshEntries) (promptFrom done o output none lines) := by
  induction lines generalizing done o output with
  | nil =>
    unfold promptFrom
    rw [Channel.writeFlushed_of_accepts hout]
    refine ⟨rfl, rfl, ?_, rfl⟩
    rw [← ho]
    exact ForgetfulReporter.errorCount_note o (.inputClosed done)
  | cons line lines ih =>
    rw [List.map_cons, transcript_cons] at hout ⊢
    obtain ⟨hmark, hrest⟩ := Channel.accepts_append.mp hout
    obtain ⟨hline, hlines⟩ := Channel.accepts_append.mp hrest
    have hfirst := runLine_completes ho (done + 1) hline
    unfold promptFrom
    rw [Channel.writeFlushed_of_accepts hmark]
    dsimp only
    rw [hfirst.failure_eq]
    rw [← hfirst.output_eq] at hlines
    have hsecond := ih hfirst.errorCount_eq (done + 1) hlines
    refine ⟨hsecond.failure_eq, ?_, hsecond.errorCount_eq, ?_⟩
    · rw [hsecond.entries_eq, hfirst.entries_eq, List.flatMap_cons, List.append_assoc]
    · rw [hsecond.output_eq, hfirst.output_eq, Channel.keep_append, Channel.keep_append]

/-- The sources of a session are its lines without their ends. -/
theorem lineSources_spec (bytes : List UInt8) :
    ∃ lines, Input.CutsInto bytes lines ∧
      List.Forall₂ (fun line source => Strips (Utf8.decode line) source) lines
        (lineSources bytes) := by
  refine ⟨Input.cutLines bytes, Input.cutsInto_cutLines bytes, ?_⟩
  rw [lineSources, List.forall₂_map_right_iff, List.forall₂_same]
  intro line _
  exact stripLineEnd_eq_iff.mp rfl

/-- A session whose writes succeed completes. Its output and its record are put together from
runs of its lines that know of no other line. -/
theorem prompt_isolated {r : ρ} (hr : Reporter.errorCount r = 0) (bytes : List UInt8)
    {output : Channel} (hout : output.Accepts (transcript (lineSources bytes))) :
    let sources := lineSources bytes
    let ended := prompt (.ofBytes bytes none) (Overheard.of r) output
    (∃ lines, Input.CutsInto bytes lines ∧
      List.Forall₂ (fun line source => Strips (Utf8.decode line) source) lines sources) ∧
    ended.failure = none ∧
    ended.output.kept.toList = output.kept.toList ++ transcript sources ∧
    ended.reporter.entries = sources.flatMap freshEntries ∧
    (∀ source ∈ sources, ∀ d ∈ (freshRun source).reporter.diagnostics, d.line = 1) ∧
    Reporter.errorCount ended.reporter.reporter = 0 ∧
    prompt (.ofBytes bytes none) r output =
      ⟨ended.failure, ended.reporter.reporter, ended.output⟩ := by
  intro sources ended
  have hcompletes : Completes (Overheard.of r) output (transcript sources)
      (sources.flatMap freshEntries) ended := promptFrom_completes hr 0 hout
  have hagree := Overheard.agreement.prompt (rfl : (Overheard.of r).reporter = r)
    (.ofBytes bytes none) output
  refine ⟨lineSources_spec bytes, hcompletes.failure_eq, ?_, hcompletes.entries_eq, ?_,
    hcompletes.errorCount_eq, ?_⟩
  · rw [hcompletes.output_eq, Channel.kept_keep hout]
  · intro source hsource d hd
    have hlines := (hasLines_decode bytes).lineFeed_not_mem source hsource
    rw [diagnostics_freshRun] at hd
    exact line_of_mem_diagnostics hlines hd
  · obtain ⟨hfailure, hreporter, houtput⟩ := hagree
    rw [hfailure, hreporter, houtput]
    rfl

end

/-- A carriage return belongs to the end of the first line, and the second line has no end. -/
theorem prompt_isolated_two_lines :
    Reporter.errorCount Collection.empty = 0 ∧
    Channel.unlimited.Accepts (transcript (lineSources [0x28, 0x0D, 0x0A, 0x40])) ∧
    (prompt (.ofBytes [0x28, 0x0D, 0x0A, 0x40] none) (Overheard.of Collection.empty)
      .unlimited).reporter.entries =
      [.begin ['('] false, .reset, .begin ['@'] false,
        .emit ⟨1, [], Fault.message .unexpectedCharacter, some ⟨0, 1⟩⟩, .reset] := by
  have hsession := prompt_isolated (rfl : Reporter.errorCount Collection.empty = 0)
    [0x28, 0x0D, 0x0A, 0x40] (Channel.accepts_unlimited _)
  have hsources : lineSources [0x28, 0x0D, 0x0A, 0x40] = [['('], ['@']] := by decide
  have hfirst : Lexeme.cut ['('] = [⟨['('], .token (.operator .leftParen) none⟩] :=
    Lexeme.cut_eq_iff.mpr ⟨⟨.operator (o := .leftParen) (by simp) (by simp), trivial⟩, rfl⟩
  have hsecond : Lexeme.cut ['@'] = [⟨['@'], .fault .unexpectedCharacter⟩] :=
    Lexeme.cut_eq_iff.mpr ⟨⟨.unexpected (by decide), trivial⟩, rfl⟩
  refine ⟨rfl, Channel.accepts_unlimited _, hsession.2.2.2.1.trans ?_⟩
  simp only [hsources, List.flatMap_cons, List.flatMap_nil, freshEntries, diagnostics_freshRun,
    diagnostics, scan, hfirst, hsecond]
  rfl

end LoxFrontEnd
