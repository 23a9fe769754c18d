import LoxFrontEnd.Run
import Mathlib.Data.List.Basic

/-!
# Writing

What a channel keeps of several writes is what it keeps of all their bytes at once, and it accepts
them one after the other if it accepts them together. A run with room for its tokens completes.
-/
namespace LoxFrontEnd

namespace Channel

/-- There is room for the bytes, and what is kept is handed on. -/
def Accepts (c : Channel) (bytes : List UInt8) : Prop :=
  c.flushFailure = none ∧ ∀ room, c.room = some room → bytes.length ≤ room

/-- The channel after bytes have been written to it, as many as there is room for. -/
def keep (c : Channel) (bytes : List UInt8) : Channel := (c.writeBytes bytes).2

@[simp] theorem flushFailure_keep (c : Channel) (bytes : List UInt8) :
    (c.keep bytes).flushFailure = c.flushFailure := by
  unfold keep writeBytes
  split <;> rfl

@[simp] theorem room_keep (c : Channel) (bytes : List UInt8) :
    (c.keep bytes).room = c.room.map (· - bytes.length) := by
  unfold keep writeBytes
  split <;> simp_all

theorem accepts_unlimited (bytes : List UInt8) : unlimited.Accepts bytes :=
  ⟨rfl, by simp [unlimited]⟩

theorem accepts_append {c : Channel} {xs ys : List UInt8} :
    c.Accepts (xs ++ ys) ↔ c.Accepts xs ∧ (c.keep xs).Accepts ys := by
  cases hroom : c.room with
  | none => simp [Accepts, hroom]
  | some room =>
    simp only [Accepts, hroom, flushFailure_keep, room_keep, List.length_append, Option.map_some,
      Option.some.injEq, forall_eq']
    constructor
    · rintro ⟨hflush, hle⟩
      exact ⟨⟨hflush, by omega⟩, hflush, by omega⟩
    · rintro ⟨⟨hflush, hle⟩, -, hle'⟩
      exact ⟨hflush, by omega⟩

theorem keep_append (c : Channel) (xs ys : List UInt8) :
    c.keep (xs ++ ys) = (c.keep xs).keep ys := by
  cases hroom : c.room with
  | none => simp [keep, writeBytes, hroom, ← Array.toList_inj]
  | some room =>
    simp [keep, writeBytes, hroom, List.take_append, Nat.sub_sub, ← Array.toList_inj]

/-- A channel keeps the bytes that there is room for. -/
theorem kept_keep_eq (c : Channel) (bytes : List UInt8) :
    (c.keep bytes).kept.toList = c.kept.toList ++ c.room.elim bytes bytes.take := by
  cases hroom : c.room with
  | none => simp [keep, writeBytes_unlimited hroom]
  | some room => rw [keep, kept_writeBytes hroom, Option.elim_some]

theorem kept_keep {c : Channel} {bytes : List UInt8} (h : c.Accepts bytes) :
    (c.keep bytes).kept.toList = c.kept.toList ++ bytes := by
  rw [kept_keep_eq]
  cases hroom : c.room with
  | none => rfl
  | some room => rw [Option.elim_some, List.take_of_length_le (h.2 room hroom)]

theorem writeFlushed_of_accepts {c : Channel} {t : Text} (h : c.Accepts (Utf8.encode t)) :
    c.writeFlushed t = (none, c.keep (Utf8.encode t)) := by
  have hwrite : (c.writeBytes (Utf8.encode t)).1 = none := by
    cases hroom : c.room with
    | none => rw [writeBytes_unlimited hroom]
    | some room => rw [writeBytes_failure hroom, if_pos (h.2 room hroom)]
  change ((c.writeBytes _).1.or (c.keep _).flushFailure, c.keep _) = _
  rw [hwrite, flushFailure_keep, h.1]
  rfl

theorem accepts_of_writeFlushed {c : Channel} {t : Text} (h : (c.writeFlushed t).1 = none) :
    c.Accepts (Utf8.encode t) := by
  change (c.writeBytes (Utf8.encode t)).1.or (c.keep (Utf8.encode t)).flushFailure = none at h
  rw [Option.or_eq_none_iff, flushFailure_keep] at h
  obtain ⟨hwrite, hflush⟩ := h
  refine ⟨hflush, fun room hroom => ?_⟩
  by_contra hlt
  rw [writeBytes_failure hroom, if_neg hlt] at hwrite
  cases hwrite

end Channel

/-- The bytes that a run writes. -/
def printedBytes (source : Text) : List UInt8 := Utf8.encode (printTokens (tokens source))

variable {ρ : Type} [Reporter ρ]

/-- A reporter has been told everything, even if the run fails. -/
theorem reporter_run (source : Text) (r : ρ) (output : Channel) :
    (run source r output).reporter = scanInto source (Reporter.handle r (.begin source)) := by
  unfold run
  dsimp only
  split <;> rfl

/-- A run with room for its tokens completes and writes them. -/
theorem run_of_accepts {source : Text} {output : Channel}
    (h : output.Accepts (printedBytes source)) (r : ρ) :
    let told := scanInto source (Reporter.handle r (.begin source))
    run source r output = ⟨.ok ⟨(tokens source).length, Reporter.hadError told⟩, told,
      output.keep (printedBytes source)⟩ := by
  unfold run
  rw [Channel.writeFlushed_of_accepts h]
  rfl

theorem accepts_of_run {source : Text} {r : ρ} {output : Channel} {outcome : Outcome}
    (h : (run source r output).result = .ok outcome) : output.Accepts (printedBytes source) := by
  refine Channel.accepts_of_writeFlushed ?_
  unfold run at h
  dsimp only at h
  split at h
  · cases h
  · assumption

/-- A completed run has written its tokens behind what was there. -/
theorem kept_run {source : Text} {r : ρ} {output : Channel} {outcome : Outcome}
    (h : (run source r output).result = .ok outcome) :
    (run source r output).output.kept.toList = output.kept.toList ++ printedBytes source := by
  have haccepts := accepts_of_run h
  rw [run_of_accepts haccepts]
  exact Channel.kept_keep haccepts

end LoxFrontEnd
