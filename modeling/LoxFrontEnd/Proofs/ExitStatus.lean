import LoxFrontEnd.Proofs.Endings
import LoxFrontEnd.Proofs.MessageText

/-!
# Exit status

The status of a command says why it has ended. `ExitsWith` lists the causes, each with what has gone
well before it: the arguments come first, then whether the script can be read, then whether the
output takes the tokens, and only then what is wrong with the source. Every cause is followed
through the command once, with its status and with what it leaves on the errors
(`ExitsWith.leaves`), and the contract is put together from that (`exitContract`).
-/
namespace LoxFrontEnd

/-- A channel that fails at every write. -/
def Channel.IsFull (c : Channel) : Prop := ∃ refusal, c = .limited 0 refusal

/-- Why a command ends with a status. -/
inductive ExitsWith (s : Surroundings) (arguments : List Text) : UInt8 → Prop
  /-- The help or the version has been asked for. -/
  | answered {e : ArgumentError} (hasked : asked s arguments = .error e)
    (hanswer : e.isAnswer = true) : ExitsWith s arguments 0
  | misread {e : ArgumentError} (hasked : asked s arguments = .error e)
    (hanswer : e.isAnswer = false) : ExitsWith s arguments 64
  | crowded {o : Options} (hasked : asked s arguments = .ok o) (hscripts : 2 ≤ o.scripts.length) :
    ExitsWith s arguments 64
  | unreadable {o : Options} {path : Text} {cause : Failure} (hasked : asked s arguments = .ok o)
    (hscripts : o.scripts = [path]) (hread : s.read path = .error cause) : ExitsWith s arguments 66
  | unwritable {o : Options} {path : Text} {bytes : List UInt8} (hasked : asked s arguments = .ok o)
    (hscripts : o.scripts = [path]) (hread : s.read path = .ok bytes)
    (houtput : s.output.IsFull) : ExitsWith s arguments 74
  | faulty {o : Options} {path : Text} {bytes : List UInt8} (hasked : asked s arguments = .ok o)
    (hscripts : o.scripts = [path]) (hread : s.read path = .ok bytes)
    (houtput : s.output = .unlimited) (hfaults : emissions (scanCalls (Utf8.decode bytes)) ≠ []) :
    ExitsWith s arguments 65
  | clean {o : Options} {path : Text} {bytes : List UInt8} (hasked : asked s arguments = .ok o)
    (hscripts : o.scripts = [path]) (hread : s.read path = .ok bytes)
    (houtput : s.output = .unlimited) (hfaults : emissions (scanCalls (Utf8.decode bytes)) = []) :
    ExitsWith s arguments 0
  /-- The prompt cannot be shown, or the input cannot be read to its end. -/
  | interrupted {o : Options} (hasked : asked s arguments = .ok o) (hscripts : o.scripts = [])
    (hfails : s.output.IsFull ∨ s.input.failure ≠ none) : ExitsWith s arguments 74
  | closed {o : Options} (hasked : asked s arguments = .ok o) (hscripts : o.scripts = [])
    (houtput : s.output = .unlimited) (hinput : s.input.failure = none) : ExitsWith s arguments 0

/-- What a command says last: what has stopped the driver, or something that cannot be taken for
it. -/
inductive LastWords : UInt8 → Text → Prop
  | driver (e : DriverError) : LastWords e.status.code (driverLine e)
  | other {code : UInt8} {t : Text} (hcode : code ≠ 66 ∧ code ≠ 74) (hends : t.EndsOtherwise)
    (hhead : t.head? ≠ some 'l') : LastWords code t

theorem LastWords.nothing {code : UInt8} (hcode : code ≠ 66 ∧ code ≠ 74) : LastWords code [] :=
  .other hcode (.inl rfl) (by decide)

theorem DriverError.code_status (e : DriverError) :
    e.status.code = 66 ∨ e.status.code = 74 := by
  cases e with
  | unreadable path cause => exact .inl rfl
  | io cause => exact .inr rfl

theorem LastWords.exists_driverLine_iff {code : UInt8} {t : Text} (h : LastWords code t) :
    (∃ e, t = driverLine e) ↔ code = 66 ∨ code = 74 := by
  cases h with
  | driver e => exact ⟨fun _ => e.code_status, fun _ => ⟨e, rfl⟩⟩
  | other hcode _ hhead =>
    refine ⟨?_, fun h => absurd h (not_or.mpr hcode)⟩
    rintro ⟨e, rfl⟩
    exact absurd rfl hhead

/-- A last line of the driver is not the end of anything else. -/
theorem LastWords.of_endsWithDriverLine {code : UInt8} {report t : Text} (h : LastWords code t)
    (hreport : report.EndsOtherwise) (hends : Text.EndsWithDriverLine (report ++ t)) :
    code = 66 ∨ code = 74 := by
  cases h with
  | driver e => exact e.code_status
  | other _ hother _ => exact absurd hends (hreport.append hother).not_endsWithDriverLine

theorem endsWithDriverLine_driverLine {report : Text} (hreport : report.IsLines) {e : DriverError}
    (he : '\n' ∉ e.text) : Text.EndsWithDriverLine (report ++ driverLine e) := by
  have hline : '\n' ∉ "lox: ".toList ++ e.text := by
    rw [List.mem_append, not_or]
    exact ⟨by decide, he⟩
  have hlast : Text.LastLine (driverLine e) ("lox: ".toList ++ e.text) :=
    ⟨hline, [], .inl rfl, rfl⟩
  exact ⟨_, hlast.append_left hreport, List.prefix_append _ _⟩

section

variable {s : Surroundings} {arguments : List Text}

/-- Every cause shows in the status and on the errors. -/
theorem ExitsWith.leaves {code : UInt8} (h : ExitsWith s arguments code)
    (hlog : s.log.filter = .off) (houtput : s.output = .unlimited ∨ s.output.IsFull) :
    ∃ last, LastWords code last ∧
      (Command.execute s arguments).Leaves s.errors code (sourceReport s arguments ++ last) := by
  cases h with
  | answered hasked hanswer =>
    have hleaves := leaves_reject_of_answer hlog arguments hanswer
    exact ⟨[], .nothing (by decide), leaves_of_error hasked hleaves⟩
  | @misread e hasked hanswer =>
    have hleaves := leaves_reject hlog arguments hanswer
    refine ⟨_, .other (by decide) (e.endsOtherwise_text _ _ hanswer) ?_,
      leaves_of_error hasked hleaves⟩
    rw [e.head?_text _ _ hanswer]
    decide
  | crowded hasked hscripts =>
    exact ⟨[], .nothing (by decide), leaves_of_ok hasked (leaves_of_crowded hlog hscripts)⟩
  | @unreadable o path cause hasked hscripts hread =>
    have hleaves := leaves_of_unreadable hlog hscripts hread
    exact ⟨_, .driver (.unreadable path cause), leaves_of_ok hasked hleaves⟩
  | unwritable hasked hscripts hread hfull =>
    obtain ⟨refusal, hrefusal⟩ := hfull
    have hleaves := leaves_of_unwritable hlog hscripts hread hrefusal
    exact ⟨_, .driver (.io refusal), leaves_of_ok hasked hleaves⟩
  | faulty hasked hscripts hread hopen hfaults =>
    have hleaves := leaves_of_writable hlog hscripts hread hopen
    rw [if_neg hfaults] at hleaves
    exact ⟨[], .nothing (by decide), leaves_of_ok hasked hleaves⟩
  | clean hasked hscripts hread hopen hfaults =>
    have hleaves := leaves_of_writable hlog hscripts hread hopen
    rw [if_pos hfaults] at hleaves
    exact ⟨[], .nothing (by decide), leaves_of_ok hasked hleaves⟩
  | interrupted hasked hscripts hfails =>
    obtain hopen | ⟨refusal, hfull⟩ := houtput
    · obtain ⟨refusal, hfull⟩ | hinput := hfails
      · rw [hopen] at hfull
        cases hfull
      · obtain ⟨cause, hcause⟩ := Option.ne_none_iff_exists'.mp hinput
        have hleaves := leaves_of_shown hlog hscripts hopen
        rw [hcause] at hleaves
        exact ⟨_, .driver (.io cause), leaves_of_ok hasked hleaves⟩
    · have hleaves := leaves_of_unshown hlog hscripts hfull
      exact ⟨_, .driver (.io refusal), leaves_of_ok hasked hleaves⟩
  | closed hasked hscripts hopen hinput =>
    have hleaves := leaves_of_shown hlog hscripts hopen
    rw [hinput] at hleaves
    exact ⟨[], .nothing (by decide), leaves_of_ok hasked hleaves⟩

/-- There is always a cause. -/
theorem exists_exitsWith (arguments : List Text)
    (houtput : s.output = .unlimited ∨ s.output.IsFull) :
    ∃ code, ExitsWith s arguments code := by
  cases hasked : asked s arguments with
  | error e =>
    cases hanswer : e.isAnswer with
    | true => exact ⟨0, .answered hasked hanswer⟩
    | false => exact ⟨64, .misread hasked hanswer⟩
  | ok o =>
    match hscripts : o.scripts with
    | [] =>
      obtain hopen | hfull := houtput
      · by_cases hinput : s.input.failure = none
        · exact ⟨0, .closed hasked hscripts hopen hinput⟩
        · exact ⟨74, .interrupted hasked hscripts (.inr hinput)⟩
      · exact ⟨74, .interrupted hasked hscripts (.inl hfull)⟩
    | [path] =>
      cases hread : s.read path with
      | error cause => exact ⟨66, .unreadable hasked hscripts hread⟩
      | ok bytes =>
        obtain hopen | hfull := houtput
        · by_cases hfaults : emissions (scanCalls (Utf8.decode bytes)) = []
          · exact ⟨0, .clean hasked hscripts hread hopen hfaults⟩
          · exact ⟨65, .faulty hasked hscripts hread hopen hfaults⟩
        · exact ⟨74, .unwritable hasked hscripts hread hfull⟩
    | _ :: _ :: _ => exact ⟨64, .crowded hasked (by simp [hscripts])⟩

/-- No cause has to do with what the errors take. -/
theorem ExitsWith.with_errors {code : UInt8} (h : ExitsWith s arguments code) (errors : Channel) :
    ExitsWith { s with errors := errors } arguments code := by
  cases h with
  | answered hasked hanswer => exact .answered hasked hanswer
  | misread hasked hanswer => exact .misread hasked hanswer
  | crowded hasked hscripts => exact .crowded hasked hscripts
  | unreadable hasked hscripts hread => exact .unreadable hasked hscripts hread
  | unwritable hasked hscripts hread hfull => exact .unwritable hasked hscripts hread hfull
  | faulty hasked hscripts hread hopen hfaults =>
    exact .faulty hasked hscripts hread hopen hfaults
  | clean hasked hscripts hread hopen hfaults => exact .clean hasked hscripts hread hopen hfaults
  | interrupted hasked hscripts hfails => exact .interrupted hasked hscripts hfails
  | closed hasked hscripts hopen hinput => exact .closed hasked hscripts hopen hinput

/-- Only a script that cannot be read has this status, and then nothing is written. -/
theorem ExitsWith.output_eq (h : ExitsWith s arguments 66) (hlog : s.log.filter = .off) :
    (Command.execute s arguments).output = s.output := by
  generalize hcode : (66 : UInt8) = code at h
  cases h with
  | unreadable hasked hscripts hread =>
    rw [(execute_of_ok hasked).1, dispatch_of_unreadable hlog hscripts hread]
    rfl
  | _ => exact absurd hcode (by decide)

/-- What is not about sources does not look at files or input. -/
theorem execute_of_unasked (h : ∀ o, asked s arguments = .ok o → 2 ≤ o.scripts.length)
    (read : Text → Except Failure (List UInt8)) (input : Input) :
    Command.execute { s with read := read, input := input } arguments =
      Command.execute s arguments := by
  let s' : Surroundings := { s with read := read, input := input }
  cases hasked : asked s arguments with
  | error e =>
    have hasked' : asked s' arguments = .error e := hasked
    rw [(execute_of_error hasked).1, (execute_of_error hasked').1]
    rfl
  | ok o =>
    have hasked' : asked s' arguments = .ok o := hasked
    have hscripts := h o hasked
    rw [(execute_of_ok hasked).1, (execute_of_ok hasked').1, Command.dispatch, Command.dispatch]
    simp only [o.invocation_eq_usage_iff.mpr hscripts]
    rfl

theorem endsOtherwise_sourceReport (s : Surroundings) (arguments : List Text) :
    (sourceReport s arguments).EndsOtherwise := by
  have hnothing : Text.EndsOtherwise [] := .inl rfl
  unfold sourceReport dispatchReport
  split
  · exact hnothing
  · split
    · exact hnothing
    · split
      · exact hnothing
      · exact Console.endsOtherwise_report _ _ _
    · split
      · exact hnothing
      · exact .flatMap fun _ _ => Console.endsOtherwise_report _ _ _

end

/-- How the status of a command hangs together with what it is run in and what it writes. -/
structure ExitContract (s : Surroundings) (arguments : List Text) : Prop where
  code_eq_iff : ∀ code, (Command.execute s arguments).status.code = code ↔
    ExitsWith s arguments code
  /-- Unless sources are asked for, neither files nor input matter. -/
  eq_of_unasked : (∀ o, asked s arguments = .ok o → 2 ≤ o.scripts.length) → ∀ read input,
    Command.execute { s with read := read, input := input } arguments = Command.execute s arguments
  kept_of_unreadable : (Command.execute s arguments).status.code = 66 →
    (Command.execute s arguments).output.kept = #[]
  /-- Diagnostics that cannot be shown do not matter. This holds of every channel, as `Console.print`
  goes on after each write. A process that gives up where it cannot print what the driver itself has
  to say, which is why it has stopped or what is wrong with the arguments, ends with a status of its
  own. So for a channel that refuses these words the field is about a command that goes on. -/
  code_with_errors : ∀ errors,
    (Command.execute { s with errors := errors } arguments).status.code =
      (Command.execute s arguments).status.code
  /-- First comes what is to be said of the sources, in finished lines. The driver has the last
  word if it has stopped, and only then. Its word is one line, unless there are line feeds in the
  path of the script, and nobody else ends with a line like it. -/
  kept_errors : s.errors = .unlimited → ∃ last,
    (Command.execute s arguments).errors.kept.toList =
      Utf8.encode (sourceReport s arguments ++ last) ∧
    (sourceReport s arguments).IsLines ∧
    ((∃ e, last = driverLine e) ↔ (Command.execute s arguments).status.code = 66 ∨
      (Command.execute s arguments).status.code = 74) ∧
    (Text.EndsWithDriverLine (sourceReport s arguments ++ last) →
      (Command.execute s arguments).status.code = 66 ∨
      (Command.execute s arguments).status.code = 74) ∧
    ∀ e, last = driverLine e → '\n' ∉ e.text →
      Text.EndsWithDriverLine (sourceReport s arguments ++ last)

/-- With the log switched off and an output that takes everything or nothing, the status of a
command says why it has ended. -/
theorem exitContract (s : Surroundings) (arguments : List Text)
    (hlog : s.environment "LOX_LOG" = none) (houtput : s.output = .unlimited ∨ s.output.IsFull) :
    ExitContract s arguments := by
  have hfilter := filter_log hlog
  obtain ⟨code, hcause⟩ := exists_exitsWith arguments houtput
  obtain ⟨last, hlast, hleaves⟩ := hcause.leaves hfilter houtput
  have hreport := endsOtherwise_sourceReport s arguments
  constructor
  case code_eq_iff =>
    intro code'
    constructor
    · intro hcode'
      rwa [← hcode', hleaves.code_eq]
    · intro hcause'
      obtain ⟨_, _, hleaves'⟩ := hcause'.leaves hfilter houtput
      exact hleaves'.code_eq
  case eq_of_unasked => exact execute_of_unasked
  case kept_of_unreadable =>
    intro hcode
    rw [hleaves.code_eq] at hcode
    subst hcode
    rw [hcause.output_eq hfilter]
    obtain hopen | ⟨refusal, hfull⟩ := houtput
    · rw [hopen]
      rfl
    · rw [hfull]
      rfl
  case code_with_errors =>
    intro errors
    obtain ⟨_, _, hleaves'⟩ := (hcause.with_errors errors).leaves hfilter houtput
    rw [hleaves.code_eq, hleaves'.code_eq]
  case kept_errors =>
    intro herrors
    have hkept := Channel.kept_keep
      (Channel.accepts_unlimited (Utf8.encode (sourceReport s arguments ++ last)))
    rw [← herrors, ← hleaves.errors_eq] at hkept
    rw [hleaves.code_eq]
    refine ⟨last, ?_, hreport.isLines, hlast.exists_driverLine_iff,
      hlast.of_endsWithDriverLine hreport, ?_⟩
    · rw [hkept, herrors]
      rfl
    · rintro e rfl he
      exact endsWithDriverLine_driverLine hreport.isLines he

/-- The input fails after a faulty line: the fault does not count, and the failure does. -/
theorem exitContract_interrupted :
    let s : Surroundings :=
      { environment := fun _ => none
        read := fun _ => .error (.kind .notFound)
        input := ⟨[[0x40, 0x0A]], some (.system .isADirectory)⟩
        output := .unlimited
        errors := .unlimited
        terminal := false }
    s.environment "LOX_LOG" = none ∧ s.output = .unlimited ∧ ExitContract s ["lox".toList] ∧
      (Command.execute s ["lox".toList]).status.code = 74 ∧
      sourceReport s ["lox".toList] = "[line 1] Error: Unexpected character.\n".toList := by
  intro s
  have hcontract := exitContract s ["lox".toList] rfl (.inl rfl)
  refine ⟨rfl, rfl, hcontract, ?_, ?_⟩
  · exact (hcontract.code_eq_iff 74).mpr (.interrupted rfl rfl (.inr (by decide)))
  · decide +kernel

end LoxFrontEnd
