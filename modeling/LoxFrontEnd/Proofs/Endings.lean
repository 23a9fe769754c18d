import LoxFrontEnd.Command
import LoxFrontEnd.Proofs.ConsoleText
import LoxFrontEnd.Proofs.Indifference

/-!
# Endings

Each way through the command ends with a status and with a text on the errors, behind everything
that is reported about the sources it has run (`dispatchReport`). What an ending leaves there is
what its last part leaves, behind what the console has written before (`Ending.Leaves.of_wrote`).
-/
namespace LoxFrontEnd

/-- What the arguments ask for. -/
def asked (s : Surroundings) (arguments : List Text) : Except ArgumentError Options :=
  readArguments (arguments.drop 1) s.format

/-- What is reported about the sources that options ask for. Nothing is read at a prompt that cannot
be shown. -/
def dispatchReport (s : Surroundings) (o : Options) : Text :=
  match o.invocation with
  | .usage => []
  | .script path =>
    match s.read path with
    | .error _ => []
    | .ok bytes => Console.report (o.style s.terminal) path (Utf8.decode bytes)
  | .prompt =>
    match s.output.room with
    | some _ => []
    | none =>
      (s.input.lines.map lineSource).flatMap
        (Console.report (o.style s.terminal) Command.promptOrigin)

/-- What a command reports about the sources it runs. -/
def sourceReport (s : Surroundings) (arguments : List Text) : Text :=
  match asked s arguments with
  | .error _ => []
  | .ok o => dispatchReport s o

/-- What the driver says when it stops. -/
def driverLine (e : DriverError) : Text := "lox: ".toList ++ e.text ++ ['\n']

/-- A command that ends with a status, having written a text to its errors. -/
structure Ending.Leaves (ending : Ending) (errors : Channel) (code : UInt8) (t : Text) : Prop where
  code_eq : ending.status.code = code
  errors_eq : ending.errors = errors.keep (Utf8.encode t)

/-- A full output refuses the tokens of every source, as there is always one to be written. -/
theorem result_run_of_full {ρ : Type} [Reporter ρ] (refusal : Failure) (source : Text) (r : ρ) :
    (run source r (.limited 0 refusal)).result = .error refusal := by
  have htokens : printTokens (tokens source) ≠ [] := by
    simp [printTokens, tokens]
  unfold run
  rw [Channel.writeFlushed_of_no_room refusal htokens]

section

open Command

variable {c c' : Console} {s : Surroundings} {ending : Ending} {code : UInt8} {t u : Text}

/-- What the console has written before stands in front of what the ending leaves. -/
theorem Ending.Leaves.of_wrote (h : ending.Leaves c'.channel code u) (hc : Console.Wrote c t c') :
    ending.Leaves c.channel code (t ++ u) where
  code_eq := h.code_eq
  errors_eq := by rw [h.errors_eq, hc.channel_eq, Utf8.encode_append, Channel.keep_append]

theorem filter_log (hlog : s.environment "LOX_LOG" = none) : s.log.filter = .off := by
  simp [Surroundings.log, hlog, Log.Filter.ofSetting]

theorem handle_note (hlog : s.log.filter = .off) (style : Style) (origin : Text)
    (event : Log.Event) :
    Reporter.handle (console s style origin) (.note event) = console s style origin :=
  Console.note_of_off hlog event

theorem leaves_showUsage (hlog : c.log.filter = .off) (output : Channel) :
    (showUsage c output).Leaves c.channel 64 [] := by
  refine ⟨rfl, ?_⟩
  rw [Utf8.encode_nil, Channel.keep_nil]
  unfold showUsage
  dsimp only
  split
  · rfl
  · rw [Console.note_of_off hlog]

theorem leaves_stop (hlog : c.log.filter = .off) (output : Channel) (e : DriverError) :
    (stop c output e).Leaves c.channel e.status.code (driverLine e) := by
  refine ⟨rfl, ?_⟩
  unfold stop
  dsimp only
  rw [Console.note_of_off hlog]
  exact (Console.wrote_print c (driverLine e)).channel_eq

/-- An answer goes to the output only. -/
theorem leaves_reject_of_answer (hlog : s.log.filter = .off) (arguments : List Text)
    {e : ArgumentError} (h : e.isAnswer = true) : (reject s arguments e).Leaves s.errors 0 [] := by
  have hconsole : (console s .plain []).log.filter = .off := hlog
  unfold reject
  dsimp only
  rw [if_pos h]
  refine ⟨rfl, ?_⟩
  rw [Utf8.encode_nil, Channel.keep_nil]
  dsimp only
  split
  · rfl
  · rw [Console.note_of_off hconsole]
    rfl

theorem leaves_reject (hlog : s.log.filter = .off) (arguments : List Text) {e : ArgumentError}
    (h : e.isAnswer = false) :
    (reject s arguments e).Leaves s.errors 64 (e.text (programName arguments) s.format) := by
  have hconsole : (console s .plain []).log.filter = .off := hlog
  have hprint := Console.wrote_print (console s .plain []) (e.text (programName arguments) s.format)
  have husage := (leaves_showUsage (hprint.log_eq ▸ hconsole) s.output).of_wrote hprint
  unfold reject
  dsimp only
  rw [if_neg (by simp [h]), Console.note_of_off hconsole]
  rwa [List.append_nil] at husage

theorem leaves_of_crowded (hlog : s.log.filter = .off) {o : Options}
    (hscripts : 2 ≤ o.scripts.length) :
    (dispatch s o).Leaves s.errors 64 (dispatchReport s o ++ []) := by
  unfold dispatch dispatchReport
  simp only [o.invocation_eq_usage_iff.mpr hscripts]
  exact leaves_showUsage hlog s.output

section Script

variable {o : Options} {path : Text} {bytes : List UInt8}

/-- A script that cannot be read is not run. -/
theorem dispatch_of_unreadable (hlog : s.log.filter = .off) (hscripts : o.scripts = [path])
    {cause : Failure} (hread : s.read path = .error cause) :
    dispatch s o =
      stop (console s (o.style s.terminal) path) s.output (.unreadable path cause) := by
  unfold dispatch runScript
  simp only [Options.invocation, hscripts, hread, handle_note hlog]

theorem leaves_of_unreadable (hlog : s.log.filter = .off) (hscripts : o.scripts = [path])
    {cause : Failure} (hread : s.read path = .error cause) :
    (dispatch s o).Leaves s.errors 66
      (dispatchReport s o ++ driverLine (.unreadable path cause)) := by
  rw [dispatch_of_unreadable hlog hscripts hread]
  simp only [dispatchReport, Options.invocation, hscripts, hread]
  exact leaves_stop hlog s.output _

/-- A script whose tokens cannot be written has been scanned all the same. -/
theorem leaves_of_unwritable (hlog : s.log.filter = .off) (hscripts : o.scripts = [path])
    (hread : s.read path = .ok bytes) {refusal : Failure}
    (houtput : s.output = .limited 0 refusal) :
    (dispatch s o).Leaves s.errors 74 (dispatchReport s o ++ driverLine (.io refusal)) := by
  have hconsole : (console s (o.style s.terminal) path).log.filter = .off := hlog
  have hwrote := Console.wrote_run hconsole (Utf8.decode bytes) (.limited 0 refusal)
  unfold dispatch dispatchReport runScript
  simp only [Options.invocation, hscripts, hread, handle_note hlog, houtput,
    result_run_of_full refusal]
  exact (leaves_stop (hwrote.log_eq ▸ hconsole) _ _).of_wrote hwrote

/-- A script whose tokens can be written ends with what is to be said of its source. -/
theorem leaves_of_writable (hlog : s.log.filter = .off) (hscripts : o.scripts = [path])
    (hread : s.read path = .ok bytes) (houtput : s.output = .unlimited) :
    (dispatch s o).Leaves s.errors
      (if emissions (scanCalls (Utf8.decode bytes)) = [] then 0 else 65)
      (dispatchReport s o ++ []) := by
  have hconsole : (console s (o.style s.terminal) path).log.filter = .off := hlog
  have hwrote := Console.wrote_run hconsole (Utf8.decode bytes) s.output
  obtain ⟨outcome, hresult⟩ : ∃ outcome,
      (run (Utf8.decode bytes) (console s (o.style s.terminal) path) s.output).result =
        .ok outcome := by
    rw [houtput, run_of_accepts (Channel.accepts_unlimited _)]
    exact ⟨_, rfl⟩
  have herror : outcome.hadError ↔ emissions (scanCalls (Utf8.decode bytes)) ≠ [] := by
    have hcount : Reporter.errorCount (console s (o.style s.terminal) path) = 0 := rfl
    simpa [hcount] using hadError_of_run hresult
  have hfinished (event : Log.Event) := Console.note_of_off (hwrote.log_eq ▸ hconsole) event
  unfold dispatch dispatchReport runScript
  simp only [Options.invocation, hscripts, hread, handle_note hlog, hresult, List.append_nil]
  refine ⟨?_, (congrArg Console.channel (hfinished _)).trans hwrote.channel_eq⟩
  by_cases hfaults : emissions (scanCalls (Utf8.decode bytes)) = []
  · simp [hfaults, herror, ExitStatus.code]
  · simp [hfaults, herror, ExitStatus.code]

end Script

section Prompt

variable {o : Options}

/-- At a prompt that cannot be shown nothing is read. -/
theorem leaves_of_unshown (hlog : s.log.filter = .off) (hscripts : o.scripts = [])
    {refusal : Failure} (houtput : s.output = .limited 0 refusal) :
    (dispatch s o).Leaves s.errors 74 (dispatchReport s o ++ driverLine (.io refusal)) := by
  have hmark : (Channel.limited 0 refusal).writeFlushed promptMark =
      (some refusal, .limited 0 refusal) :=
    Channel.writeFlushed_of_no_room refusal (by decide)
  have hprompt (c : Console) : prompt s.input c (.limited 0 refusal) =
      ⟨some refusal, c, .limited 0 refusal⟩ := by
    unfold prompt
    cases s.input.lines <;> simp only [promptFrom, hmark]
  unfold dispatch dispatchReport
  simp only [Options.invocation, hscripts, houtput, hprompt]
  exact leaves_stop hlog _ _

/-- A session whose prompts are shown runs all lines, and ends as its input does. -/
theorem leaves_of_shown (hlog : s.log.filter = .off) (hscripts : o.scripts = [])
    (houtput : s.output = .unlimited) :
    (dispatch s o).Leaves s.errors (if s.input.failure = none then 0 else 74)
      (dispatchReport s o ++ s.input.failure.elim [] fun cause => driverLine (.io cause)) := by
  have hconsole : (console s (o.style s.terminal) promptOrigin).log.filter = .off := hlog
  have hfailure := failure_promptFrom Channel.isOpen_unlimited 0
    (console s (o.style s.terminal) promptOrigin) s.input.failure s.input.lines
  have hwrote := Console.wrote_promptFrom hconsole Channel.isOpen_unlimited 0 s.input.failure
    s.input.lines
  unfold dispatch dispatchReport prompt
  simp only [Options.invocation, hscripts, houtput, hfailure]
  cases hinput : s.input.failure with
  | none =>
    rw [hinput] at hwrote
    refine ⟨rfl, ?_⟩
    rw [Option.elim_none, List.append_nil]
    exact hwrote.channel_eq
  | some cause =>
    rw [hinput] at hwrote
    exact (leaves_stop (hwrote.log_eq ▸ hconsole) _ _).of_wrote hwrote

end Prompt

end

section

variable {s : Surroundings} {arguments : List Text}

theorem execute_of_error {e : ArgumentError} (hasked : asked s arguments = .error e) :
    Command.execute s arguments = Command.reject s arguments e ∧
      sourceReport s arguments = [] := by
  unfold Command.execute sourceReport
  rw [hasked]
  unfold asked at hasked
  rw [hasked]
  exact ⟨rfl, rfl⟩

theorem execute_of_ok {o : Options} (hasked : asked s arguments = .ok o) :
    Command.execute s arguments = Command.dispatch s o ∧
      sourceReport s arguments = dispatchReport s o := by
  unfold Command.execute sourceReport
  rw [hasked]
  unfold asked at hasked
  rw [hasked]
  exact ⟨rfl, rfl⟩

theorem leaves_of_error {e : ArgumentError} (hasked : asked s arguments = .error e) {code : UInt8}
    {last : Text} (h : (Command.reject s arguments e).Leaves s.errors code last) :
    (Command.execute s arguments).Leaves s.errors code (sourceReport s arguments ++ last) := by
  obtain ⟨hexecute, hreport⟩ := execute_of_error hasked
  rwa [hexecute, hreport, List.nil_append]

theorem leaves_of_ok {o : Options} (hasked : asked s arguments = .ok o) {code : UInt8}
    {last : Text} (h : (Command.dispatch s o).Leaves s.errors code (dispatchReport s o ++ last)) :
    (Command.execute s arguments).Leaves s.errors code (sourceReport s arguments ++ last) := by
  obtain ⟨hexecute, hreport⟩ := execute_of_ok hasked
  rwa [hexecute, hreport]

end

end LoxFrontEnd
