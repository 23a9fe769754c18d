import LoxFrontEnd.Proofs.ConsoleText
import LoxFrontEnd.Proofs.PromptSession

/-!
# Refused output

Tokens are written piece by piece, and an output that is full may refuse any of the pieces, or the
end of one. What it has kept by then are the first bytes of the whole (`writeEach_eq`), so the
pieces need not be told apart. A source is scanned to its end before the first token is written, so
whatever the output refuses, the reporter has been told everything (`run_refused`).
-/
namespace LoxFrontEnd

namespace Channel

/-- There is room for the bytes. -/
def holds (c : Channel) (bytes : List UInt8) : Bool := c.room.all (bytes.length ≤ ·)

/-- Writes texts one after the other, and gives up when one of them is refused. -/
def writeEach (c : Channel) : List Text → Option Failure × Channel
  | [] => (none, c)
  | piece :: pieces =>
    match c.write piece with
    | (some cause, c) => (some cause, c)
    | (none, c) => c.writeEach pieces

theorem write_eq (c : Channel) (t : Text) :
    c.write t = (if c.holds (Utf8.encode t) then none else some c.refusal,
      c.keep (Utf8.encode t)) := by
  have hfailure : (c.writeBytes (Utf8.encode t)).1 =
      if c.holds (Utf8.encode t) then none else some c.refusal := by
    cases hroom : c.room with
    | none => simp [writeBytes_unlimited hroom, holds, hroom]
    | some room => simp [writeBytes_failure hroom, holds, hroom]
  exact Prod.ext hfailure rfl

@[simp] theorem refusal_keep (c : Channel) (bytes : List UInt8) :
    (c.keep bytes).refusal = c.refusal := by
  unfold keep writeBytes
  split <;> rfl

theorem holds_append (c : Channel) (xs ys : List UInt8) :
    c.holds (xs ++ ys) = (c.holds xs && (c.keep xs).holds ys) := by
  cases hroom : c.room with
  | none => simp [holds, hroom]
  | some room =>
    simp only [holds, room_keep, hroom, Option.map_some, Option.all_some, List.length_append,
      ← Bool.decide_and, decide_eq_decide]
    omega

/-- A channel that has refused a part of what was written takes nothing more. -/
theorem keep_append_of_not_holds {c : Channel} {xs : List UInt8} (h : ¬c.holds xs)
    (ys : List UInt8) : c.keep (xs ++ ys) = c.keep xs := by
  cases hroom : c.room with
  | none => simp [holds, hroom] at h
  | some room =>
    have hlt : room < xs.length := by simpa [holds, hroom] using h
    have hsub : room - (xs.length + ys.length) = room - xs.length := by omega
    simp [keep, writeBytes, hroom, List.take_append_of_le_length hlt.le, hsub]

/-- Where a text is cut into pieces has no influence on what is kept of it, nor on whether it is
refused. -/
theorem writeEach_eq (c : Channel) (pieces : List Text) :
    c.writeEach pieces = c.write pieces.flatten := by
  induction pieces generalizing c with
  | nil =>
    rw [List.flatten_nil, write_eq, Utf8.encode_nil, keep_nil]
    cases hroom : c.room <;> simp [writeEach, holds, hroom]
  | cons piece pieces ih =>
    rw [writeEach, write_eq, List.flatten_cons, write_eq, Utf8.encode_append]
    by_cases hpiece : c.holds (Utf8.encode piece)
    · rw [if_pos hpiece]
      dsimp only
      rw [ih, write_eq, holds_append, hpiece, Bool.true_and, keep_append, refusal_keep]
    · rw [if_neg hpiece, holds_append, keep_append_of_not_holds hpiece]
      simp [hpiece]

theorem accepts_iff {c : Channel} {bytes : List UInt8} :
    c.Accepts bytes ↔ c.flushFailure = none ∧ c.holds bytes := by
  simp only [Accepts, holds, Option.all_eq_true, decide_eq_true_eq]

theorem not_holds_of_lt {c : Channel} {room : Nat} {bytes : List UInt8} (hroom : c.room = some room)
    (h : room < bytes.length) : ¬c.holds bytes := by
  simpa [holds, hroom] using h

theorem accepts_of_le {c : Channel} {room : Nat} {bytes : List UInt8}
    (hflush : c.flushFailure = none) (hroom : c.room = some room) (h : bytes.length ≤ room) :
    c.Accepts bytes := by
  refine ⟨hflush, fun n hn => ?_⟩
  obtain rfl := Option.some.inj (hroom.symm.trans hn)
  exact h

/-- If the first bytes are accepted but not all of them, it is the others that are refused. -/
theorem not_holds_keep {c : Channel} {xs ys : List UInt8} (hxs : c.Accepts xs)
    (h : ¬c.holds (xs ++ ys)) : ¬(c.keep xs).holds ys := by
  rwa [holds_append, (accepts_iff.mp hxs).2, Bool.true_and] at h

theorem writeFlushed_of_not_holds {c : Channel} {t : Text} (h : ¬c.holds (Utf8.encode t)) :
    c.writeFlushed t = (some c.refusal, c.keep (Utf8.encode t)) := by
  rw [writeFlushed, write_eq, if_neg h]
  rfl

theorem writeFlushed_of_unflushed {c : Channel} {t : Text} (h : c.holds (Utf8.encode t))
    {cause : Failure} (hflush : c.flushFailure = some cause) :
    c.writeFlushed t = (some cause, c.keep (Utf8.encode t)) := by
  rw [writeFlushed, write_eq, if_pos h]
  dsimp only
  rw [flushFailure_keep, hflush, Option.none_or]

end Channel

theorem Utf8.encode_flatMap {α : Type} (f : α → Text) (xs : List α) :
    encode (xs.flatMap f) = xs.flatMap fun x => encode (f x) := List.flatMap_assoc

section

variable {ρ : Type} [Reporter ρ] {source : Text} {output : Channel}

/-- What a run leaves in its output does not depend on how it ends. -/
theorem output_run (source : Text) (r : ρ) (output : Channel) :
    (run source r output).output = output.keep (printedBytes source) := by
  unfold run
  dsimp only
  split <;> rfl

theorem run_of_not_holds (h : ¬output.holds (printedBytes source)) (r : ρ) :
    run source r output = ⟨.error output.refusal,
      scanInto source (Reporter.handle r (.begin source)), output.keep (printedBytes source)⟩ := by
  unfold run
  rw [Channel.writeFlushed_of_not_holds h]
  rfl

theorem run_of_unflushed (h : output.holds (printedBytes source)) {cause : Failure}
    (hflush : output.flushFailure = some cause) (r : ρ) :
    run source r output = ⟨.error cause,
      scanInto source (Reporter.handle r (.begin source)), output.keep (printedBytes source)⟩ := by
  unfold run
  rw [Channel.writeFlushed_of_unflushed h hflush]
  rfl

/-- A reporter is told the same in a run whatever becomes of the output. -/
theorem overheard_run (source : Text) (r : ρ) (output : Channel) :
    (run source (Overheard.of r) output).reporter =
      ⟨.begin source (Reporter.hadError r) :: (diagnostics source).map .emit,
        (run source r .unlimited).reporter⟩ := by
  have hagree := Overheard.agreement.run (rfl : (Overheard.of r).reporter = r) source output
  have hreporter : (run source (Overheard.of r) output).reporter.reporter =
      (run source r .unlimited).reporter := by
    rw [hagree.2.1, reporter_run, reporter_run]
    rfl
  have hentries : (run source (Overheard.of r) output).reporter.entries =
      .begin source (Reporter.hadError r) :: (diagnostics source).map .emit := by
    rw [reporter_run, Overheard.entries_scanInto]
    rfl
  rw [← hreporter, ← hentries]

/-- An output that takes the first `room` bytes only, or fails to hand them on, makes a run fail
and has kept just these bytes, in whatever pieces the tokens are written. The reporter is told as
much as in a run that completes. -/
theorem run_refused (source : Text) (r : ρ) (room : Nat) (refusal : Failure)
    (kept : Array UInt8) :
    let bytes := (tokens source).flatMap fun t => Utf8.encode (t.text ++ ['\n'])
    let free := run source r .unlimited
    let output : Channel := ⟨some room, refusal, none, kept⟩
    let ran := run source r output
    (bytes.length ≤ room →
      ran.result = .ok ⟨(tokens source).length, Reporter.hadError free.reporter⟩ ∧
      ran.output.kept.toList = kept.toList ++ bytes) ∧
    (room < bytes.length →
      ran.result = .error refusal ∧ ran.output.kept.toList = kept.toList ++ bytes.take room) ∧
    (∀ pieces : List Text, pieces.flatten = printTokens (tokens source) →
      output.writeEach pieces = (if bytes.length ≤ room then none else some refusal, ran.output)) ∧
    (∀ (limit : Option Nat) (cause : Failure), (∀ n ∈ limit, bytes.length ≤ n) →
      let unflushed := run source r ⟨limit, refusal, some cause, kept⟩
      unflushed.result = .error cause ∧ unflushed.output.kept.toList = kept.toList ++ bytes ∧
      unflushed.reporter = free.reporter) ∧
    ran.reporter = free.reporter ∧
    ∀ output : Channel, (run source (Overheard.of r) output).reporter =
      ⟨.begin source (Reporter.hadError r) :: (diagnostics source).map .emit, free.reporter⟩ := by
  intro bytes free output ran
  have hbytes : printedBytes source = bytes := Utf8.encode_flatMap _ _
  have hholds : output.holds bytes = decide (bytes.length ≤ room) := rfl
  have hkept : ran.output.kept.toList = kept.toList ++ bytes.take room := by
    rw [output_run, Channel.kept_keep_eq, hbytes]
    rfl
  refine ⟨fun hle => ⟨?_, ?_⟩, fun hlt => ⟨?_, hkept⟩, fun pieces hpieces => ?_,
    fun limit cause hlimit => ?_, ?_, overheard_run source r⟩
  · have haccepts : output.Accepts (printedBytes source) := by
      rw [hbytes, Channel.accepts_iff, hholds]
      exact ⟨rfl, decide_eq_true hle⟩
    rw [reporter_run]
    exact congrArg Ran.result (run_of_accepts haccepts r)
  · rw [hkept, List.take_of_length_le hle]
  · have hrefused : ¬output.holds (printedBytes source) := by
      rw [hbytes, hholds, decide_eq_true_eq]
      omega
    exact congrArg Ran.result (run_of_not_holds hrefused r)
  · have hprinted : Utf8.encode (printTokens (tokens source)) = bytes := hbytes
    rw [Channel.writeEach_eq, hpieces, Channel.write_eq, output_run, hprinted, hbytes, hholds]
    simp only [decide_eq_true_eq]
    rfl
  · have hheld : (⟨limit, refusal, some cause, kept⟩ : Channel).holds (printedBytes source) := by
      rw [hbytes, Channel.holds, Option.all_eq_true]
      simpa using hlimit
    have hran := run_of_unflushed hheld rfl r
    refine ⟨congrArg Ran.result hran, ?_, by rw [reporter_run, reporter_run]⟩
    rw [output_run, Channel.kept_keep_eq, hbytes]
    cases limit with
    | none => rfl
    | some n => rw [Option.elim_some, List.take_of_length_le (hlimit n rfl)]
  · rw [reporter_run, reporter_run]

end

/-- The first of the two bytes of a character is kept, and the second is refused. -/
theorem run_refused_half_character :
    (run ['"', 'é', '"'] Collection.empty (.limited 9 (.kind .brokenPipe))).result =
      .error (.kind .brokenPipe) ∧
    (run ['"', 'é', '"'] Collection.empty (.limited 9 (.kind .brokenPipe))).output.kept.toList =
      [0x53, 0x54, 0x52, 0x49, 0x4E, 0x47, 0x20, 0x22, 0xC3] := by
  have hcut : Lexeme.cut ['"', 'é', '"'] =
      [⟨['"', 'é', '"'], .token .string (some (.string ['é']))⟩] :=
    Lexeme.cut_eq_iff.mpr ⟨⟨.string (show '"' ∉ ['é'] by decide), trivial⟩, rfl⟩
  have htokens : tokens ['"', 'é', '"'] =
      [⟨.string, ['"', 'é', '"'], some (.string ['é']), 1⟩, .endOfFile 1] := by
    rw [tokens, scan, hcut]
    rfl
  have hrefused :=
    (run_refused ['"', 'é', '"'] Collection.empty 9 (.kind .brokenPipe) #[]).2.1
  rw [htokens] at hrefused
  obtain ⟨hresult, hkept⟩ := hrefused (by decide)
  exact ⟨hresult, hkept⟩

end LoxFrontEnd
