import LoxFrontEnd.Prompt
import LoxFrontEnd.Reporter.Console
import LoxFrontEnd.Proofs.Emission
import LoxFrontEnd.Proofs.Writing

/-!
# What a console writes

A console without a log writes what it presents of the diagnostics that it is handed, whether or
not its channel takes it (`emit_of_off`). So what it writes about a source is put together from the
diagnostics of the source (`wrote_run`), and what it writes in a session from the lines that are run
(`wrote_promptFrom`).
-/
namespace LoxFrontEnd

namespace Channel

theorem keep_nil (c : Channel) : c.keep [] = c := by
  unfold keep writeBytes
  split
  · simp
  · rename_i room hroom
    simp [← hroom]

theorem writeFlushed_snd (c : Channel) (t : Text) :
    (c.writeFlushed t).2 = c.keep (Utf8.encode t) := rfl

/-- A channel that takes everything. -/
def IsOpen (c : Channel) : Prop := c.room = none ∧ c.flushFailure = none

theorem isOpen_unlimited : unlimited.IsOpen := ⟨rfl, rfl⟩

theorem IsOpen.accepts {c : Channel} (h : c.IsOpen) (bytes : List UInt8) : c.Accepts bytes :=
  ⟨h.2, by simp [h.1]⟩

theorem IsOpen.keep {c : Channel} (h : c.IsOpen) (bytes : List UInt8) : (c.keep bytes).IsOpen :=
  ⟨by simp [h.1], by simp [h.2]⟩

/-- A channel without room refuses every text. -/
theorem writeFlushed_of_no_room (refusal : Failure) {t : Text} (ht : t ≠ []) :
    (limited 0 refusal).writeFlushed t = (some refusal, limited 0 refusal) := by
  have hlength : 0 < (Utf8.encode t).length := by
    obtain ⟨c, cs, rfl⟩ := List.exists_cons_of_ne_nil ht
    have hc := c.utf8Size_pos
    simp only [Utf8.encode, List.flatMap_cons, List.length_append, String.length_utf8EncodeChar]
    omega
  have hrefused : ¬(Utf8.encode t).length ≤ 0 := by omega
  simp [writeFlushed, write, writeBytes, limited, hrefused]

end Channel

namespace Console

/-- What a console of some style writes about a source. -/
def report (style : Style) (origin source : Text) : Text :=
  (diagnostics source).flatMap (present style origin source)

/-- A console that has been told something, and has written a text since. -/
structure Wrote (c : Console) (t : Text) (c' : Console) : Prop where
  style_eq : c'.style = c.style
  origin_eq : c'.origin = c.origin
  log_eq : c'.log = c.log
  channel_eq : c'.channel = c.channel.keep (Utf8.encode t)

theorem Wrote.refl (c : Console) : Wrote c [] c := ⟨rfl, rfl, rfl, (Channel.keep_nil _).symm⟩

theorem Wrote.trans {c c' c'' : Console} {t u : Text} (h : Wrote c t c') (h' : Wrote c' u c'') :
    Wrote c (t ++ u) c'' where
  style_eq := h'.style_eq.trans h.style_eq
  origin_eq := h'.origin_eq.trans h.origin_eq
  log_eq := h'.log_eq.trans h.log_eq
  channel_eq := by rw [h'.channel_eq, h.channel_eq, Utf8.encode_append, Channel.keep_append]

theorem wrote_print (c : Console) (t : Text) : Wrote c t (c.print t) := ⟨rfl, rfl, rfl, rfl⟩

section

variable {c : Console}

theorem note_of_off (hlog : c.log.filter = .off) (e : Log.Event) : c.note e = c := by
  simp [note, Log.line?, hlog]

/-- A diagnostic that cannot be written counts as one that can. -/
theorem emit_of_off (hlog : c.log.filter = .off) (d : Diagnostic) :
    c.emit d = { c with
      channel := c.channel.keep (Utf8.encode (present c.style c.origin c.source d))
      errors := c.errors + 1 } := by
  unfold emit
  rw [note_of_off hlog]
  dsimp only
  rw [Channel.writeFlushed_snd]
  split
  · rfl
  · refine note_of_off ?_ _
    exact hlog

theorem wrote_emit (hlog : c.log.filter = .off) (d : Diagnostic) :
    Wrote c (present c.style c.origin c.source d) (c.emit d) := by
  rw [emit_of_off hlog]
  exact ⟨rfl, rfl, rfl, rfl⟩

theorem source_emit (hlog : c.log.filter = .off) (d : Diagnostic) :
    (c.emit d).source = c.source := by
  rw [emit_of_off hlog]

theorem wrote_begin (c : Console) (source : Text) : Wrote c [] (c.begin source) := by
  unfold begin
  split
  · exact .refl c
  · exact ⟨rfl, rfl, rfl, (Channel.keep_nil _).symm⟩

theorem wrote_closeLine (hlog : c.log.filter = .off) (number : Nat) (outcome : Outcome) :
    Wrote c [] (closeLine number outcome c) := by
  have hdiscard (event : Log.Event) : Reporter.handle c (.note event) = c := note_of_off hlog event
  have hreset : Wrote c [] (Reporter.handle c .reset) :=
    ⟨rfl, rfl, rfl, (Channel.keep_nil _).symm⟩
  unfold closeLine
  rwa [hdiscard, ite_self]

/-- The calls made while a source is scanned are written one after the other. -/
theorem wrote_handleAll (hlog : c.log.filter = .off) {calls : List Call}
    (h : ∀ call ∈ calls, call.IsScanning) :
    Wrote c ((emissions calls).flatMap (present c.style c.origin c.source))
      (Reporter.handleAll c calls) := by
  induction calls generalizing c with
  | nil => exact .refl c
  | cons call calls ih =>
    have hcalls : ∀ call ∈ calls, call.IsScanning :=
      fun call' h' => h call' (List.mem_cons_of_mem call h')
    rw [Reporter.handleAll_cons]
    cases call with
    | emit d =>
      have hfirst := wrote_emit hlog d
      have hrest := ih (hfirst.log_eq ▸ hlog) hcalls
      rw [hfirst.style_eq, hfirst.origin_eq, source_emit hlog] at hrest
      exact hfirst.trans hrest
    | note event =>
      have hnote : Reporter.handle c (.note event) = c := note_of_off hlog event
      rw [hnote]
      exact ih hlog hcalls
    | begin _ | reset => exact absurd (h _ List.mem_cons_self) id

/-- What a console writes in a run does not depend on the source it remembers from before. -/
theorem wrote_run (hlog : c.log.filter = .off) (source : Text) (output : Channel) :
    Wrote c (report c.style c.origin source) (run source c output).reporter := by
  have hbegin := wrote_begin c source
  have hcalls : ∀ call ∈ scanCalls source, call.IsScanning :=
    fun _ => isScanning_of_mem_scanCalls
  have hscan := wrote_handleAll (hbegin.log_eq ▸ hlog) hcalls
  have hpresent : present (c.begin source).style (c.begin source).origin (c.begin source).source =
      present c.style c.origin source := by
    rw [hbegin.style_eq, hbegin.origin_eq]
    cases hstyle : c.style with
    | plain => rfl
    | pretty color => rw [begin, hstyle]
  rw [emissions_scanCalls, hpresent] at hscan
  rw [reporter_run]
  exact hbegin.trans hscan

theorem wrote_runLine (hlog : c.log.filter = .off) (number : Nat) (line : List UInt8)
    (output : Channel) :
    Wrote c (report c.style c.origin (lineSource line))
      (runLine number line c output).reporter := by
  have hrun := wrote_run hlog (lineSource line) output
  unfold runLine
  dsimp only
  split
  · exact hrun
  · rename_i outcome _
    have hclose := wrote_closeLine (hrun.log_eq ▸ hlog) number outcome
    simpa using hrun.trans hclose

end

end Console

section

variable {ρ : Type} [Reporter ρ]

theorem runLine_of_isOpen {output : Channel} (hout : output.IsOpen) (number : Nat)
    (line : List UInt8) (r : ρ) :
    (runLine number line r output).failure = none ∧
      (runLine number line r output).output.IsOpen := by
  have haccepts := hout.accepts (printedBytes (lineSource line))
  unfold runLine
  rw [run_of_accepts haccepts]
  exact ⟨rfl, hout.keep _⟩

/-- A session whose output takes everything ends as its input does. -/
theorem failure_promptFrom {output : Channel} (hout : output.IsOpen) (done : Nat) (r : ρ)
    (ending : Option Failure) (lines : List (List UInt8)) :
    (promptFrom done r output ending lines).failure = ending := by
  induction lines generalizing done r output with
  | nil =>
    unfold promptFrom
    rw [Channel.writeFlushed_of_accepts (hout.accepts _)]
    cases ending <;> rfl
  | cons line lines ih =>
    unfold promptFrom
    rw [Channel.writeFlushed_of_accepts (hout.accepts _)]
    obtain ⟨hfailure, hopen⟩ := runLine_of_isOpen (hout.keep (Utf8.encode promptMark)) (done + 1)
      line r
    dsimp only
    rw [hfailure]
    exact ih hopen (done + 1) _

end

/-- In a session whose output takes everything, a console writes about all lines. -/
theorem Console.wrote_promptFrom {c : Console} (hlog : c.log.filter = .off) {output : Channel}
    (hout : output.IsOpen) (done : Nat) (ending : Option Failure) (lines : List (List UInt8)) :
    Wrote c ((lines.map lineSource).flatMap (report c.style c.origin))
      (promptFrom done c output ending lines).reporter := by
  induction lines generalizing done c output with
  | nil =>
    unfold promptFrom
    rw [Channel.writeFlushed_of_accepts (hout.accepts _)]
    cases ending with
    | some cause => exact .refl c
    | none =>
      have hnote (event : Log.Event) : Reporter.handle c (.note event) = c := note_of_off hlog event
      dsimp only [endInput]
      rw [hnote]
      exact .refl c
  | cons line lines ih =>
    unfold promptFrom
    rw [Channel.writeFlushed_of_accepts (hout.accepts _)]
    have hmarked := hout.keep (Utf8.encode promptMark)
    obtain ⟨hfailure, hopen⟩ := runLine_of_isOpen hmarked (done + 1) line c
    have hline := wrote_runLine hlog (done + 1) line (output.keep (Utf8.encode promptMark))
    have hrest := ih (hline.log_eq ▸ hlog) hopen (done + 1)
    rw [hline.style_eq, hline.origin_eq] at hrest
    dsimp only
    rw [hfailure]
    exact hline.trans hrest

end LoxFrontEnd
