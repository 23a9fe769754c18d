import LoxFrontEnd.Prompt
import Mathlib.Data.List.Basic

/-!
# Line cutting

Input is cut into lines before it is decoded, and scanned as text after. Both see the same lines,
as a line feed is decoded from its own byte and from no other, even next to bytes that write no
character (`decode_append_lineFeed`, `lineFeed_not_mem_decode`).
-/
namespace LoxFrontEnd

namespace Utf8

/-- The least value that the bits may have after the next byte. -/
def UnderWay.least (u : UnderWay) : Nat := u.bits * 64 + (u.low - 0x80)

/-- The character under way cannot turn out to be below 0x80, whatever bytes follow. -/
def UnderWay.IsLarge (u : UnderWay) : Prop := 2 ≤ u.least ∧ (u.missing ≤ 1 → 0x80 ≤ u.least)

/-- No line feed has been read, and none is under way. -/
def Reading.IsFree (r : Reading) : Prop := '\n' ∉ r.1 ∧ ∀ u ∈ r.2, u.IsLarge

theorem ofNat_ne_lineFeed {n : Nat} (h : n ≠ 10) : Char.ofNat n ≠ '\n' := by
  by_cases hn : n.isValidChar
  · intro he
    have hvalue : (Char.ofNat n).toNat = n := by
      rw [Char.ofNat, dif_pos hn]
      rfl
    rw [he] at hvalue
    exact h hvalue.symm
  · rw [Char.ofNat, dif_neg hn]
    decide

theorem isFree_singleton {c : Char} (hc : c ≠ '\n') : Reading.IsFree ([c], none) :=
  ⟨by simpa using hc.symm, by simp⟩

theorem isFree_underWay {u : UnderWay} (hu : u.IsLarge) : Reading.IsFree ([], some u) :=
  ⟨by simp, fun _ hv => Option.some.inj hv ▸ hu⟩

theorem start_isFree {b : UInt8} (hb : b ≠ 0x0A) : (start b).IsFree := by
  have hne : b.toNat ≠ 10 := fun h => hb (UInt8.toNat_inj.mp h)
  unfold start
  dsimp only
  split
  · exact isFree_singleton (ofNat_ne_lineFeed hne)
  split
  · exact isFree_singleton (by decide)
  split
  · refine isFree_underWay ⟨?_, fun _ => ?_⟩ <;> dsimp only [UnderWay.least] <;> omega
  split
  · refine isFree_underWay ⟨?_, by simp⟩
    dsimp only [UnderWay.least]
    split <;> omega
  split
  · refine isFree_underWay ⟨?_, by simp⟩
    dsimp only [UnderWay.least]
    split <;> omega
  · exact isFree_singleton (by decide)

theorem continue?_isFree {u : UnderWay} (hu : u.IsLarge) {b : UInt8} {r : Reading}
    (h : continue? u b = some r) : r.IsFree := by
  obtain ⟨hleast, hlast⟩ := hu
  unfold continue? at h
  split_ifs at h with hrange hmissing <;> cases h
  · have hle := hlast hmissing
    unfold UnderWay.least at hle
    exact isFree_singleton (ofNat_ne_lineFeed (by omega))
  · unfold UnderWay.least at hleast
    refine isFree_underWay ⟨?_, fun _ => ?_⟩ <;> dsimp only [UnderWay.least] <;> omega

theorem step_isFree {state : Option UnderWay} (hstate : ∀ u ∈ state, u.IsLarge) {b : UInt8}
    (hb : b ≠ 0x0A) : (step state b).IsFree := by
  cases state with
  | none => exact start_isFree hb
  | some u =>
    have hstart := start_isFree hb
    unfold step
    dsimp only
    cases hu : continue? u b with
    | none => exact ⟨by simpa using ⟨by decide, hstart.1⟩, hstart.2⟩
    | some r => exact continue?_isFree (hstate u rfl) hu

theorem lineFeed_not_mem_decodeFrom {state : Option UnderWay} (hstate : ∀ u ∈ state, u.IsLarge)
    {bytes : List UInt8} (h : Input.lineFeed ∉ bytes) : '\n' ∉ decodeFrom state bytes := by
  induction bytes generalizing state with
  | nil =>
    cases state with
    | none => simp [decodeFrom]
    | some u => simp [decodeFrom]; decide
  | cons b bs ih =>
    have hb : b ≠ Input.lineFeed := (List.ne_of_not_mem_cons h).symm
    have hbs : Input.lineFeed ∉ bs := List.not_mem_of_not_mem_cons h
    have hstep := step_isFree hstate hb
    rw [decodeFrom, List.mem_append, not_or]
    exact ⟨hstep.1, ih hstep.2 hbs⟩

theorem lineFeed_not_mem_decode {bytes : List UInt8} (h : Input.lineFeed ∉ bytes) :
    '\n' ∉ decode bytes :=
  lineFeed_not_mem_decodeFrom (by simp) h

theorem decode_append_lineFeed (xs ys : List UInt8) :
    decode (xs ++ Input.lineFeed :: ys) = decode xs ++ '\n' :: decode ys :=
  decode_append_ascii xs (by decide) ys

end Utf8

namespace Input

/-- Bytes cut after each line feed, and a last line without one if there is more. -/
inductive CutsInto : List UInt8 → List (List UInt8) → Prop
  | none : CutsInto [] []
  | last {body : List UInt8} (hne : body ≠ []) (hbody : lineFeed ∉ body) : CutsInto body [body]
  | cons {body bytes : List UInt8} {lines : List (List UInt8)} (hbody : lineFeed ∉ body)
      (h : CutsInto bytes lines) :
    CutsInto (body ++ lineFeed :: bytes) ((body ++ [lineFeed]) :: lines)

theorem cutsInto_cutLines (bytes : List UInt8) : CutsInto bytes (cutLines bytes) := by
  induction bytes with
  | nil => exact .none
  | cons b bs ih =>
    by_cases hb : b = lineFeed
    · rw [cutLines, if_pos hb, hb]
      exact CutsInto.cons (List.not_mem_nil) ih
    · have hcons {body : List UInt8} (hbody : lineFeed ∉ body) : lineFeed ∉ b :: body :=
        List.not_mem_cons_of_ne_of_not_mem (Ne.symm hb) hbody
      rw [cutLines, if_neg hb]
      generalize cutLines bs = lines at ih
      cases ih with
      | none => exact .last (by simp) (hcons List.not_mem_nil)
      | last hne hbody => exact .last (by simp) (hcons hbody)
      | cons hbody h => exact CutsInto.cons (hcons hbody) h

end Input

/-- A text and what is left of it without its line end. -/
inductive Strips : Text → Text → Prop
  | lineFeed {t : Text} (ht : t.getLast? ≠ some '\r') : Strips (t ++ ['\n']) t
  | both (t : Text) : Strips (t ++ ['\r', '\n']) t
  | neither {t : Text} (ht : t.getLast? ≠ some '\n') : Strips t t

theorem strips_stripLineEnd (t : Text) : Strips t (stripLineEnd t) := by
  unfold stripLineEnd
  split
  · rename_i cs hreverse
    rw [← t.reverse_reverse, hreverse]
    simpa using Strips.both cs.reverse
  · rename_i cs hother hreverse
    rw [← t.reverse_reverse, hreverse]
    have hcs : cs.reverse.getLast? ≠ some '\r' := by
      rw [List.getLast?_reverse]
      cases cs with
      | nil => simp
      | cons c cs =>
        intro hc
        obtain rfl : c = '\r' := by simpa using hc
        exact hother cs rfl
    simpa using Strips.lineFeed hcs
  · rename_i hboth hother
    refine .neither ?_
    rw [← List.head?_reverse]
    cases hreverse : t.reverse with
    | nil => simp
    | cons c cs =>
      intro hc
      obtain rfl : c = '\n' := by simpa using hc
      exact hother cs hreverse

theorem Strips.stripLineEnd_eq {t s : Text} (h : Strips t s) : stripLineEnd t = s := by
  cases h with
  | @lineFeed t ht =>
    rw [stripLineEnd, List.reverse_append, List.reverse_singleton, List.singleton_append]
    rw [← List.head?_reverse] at ht
    split
    · rename_i cs hcs
      rw [(List.cons.inj hcs).2] at ht
      exact absurd rfl ht
    · rename_i cs hboth hcs
      rw [← (List.cons.inj hcs).2, List.reverse_reverse]
    · rename_i hboth hother
      exact absurd rfl (hother _)
  | both t => simp [stripLineEnd]
  | neither ht =>
    unfold stripLineEnd
    rw [← List.head?_reverse] at ht
    split
    · rename_i cs hcs
      simp [hcs] at ht
    · rename_i cs hboth hcs
      simp [hcs] at ht
    · rfl

/-- The source of a line is what stands in front of its line end. -/
theorem stripLineEnd_eq_iff {t s : Text} : stripLineEnd t = s ↔ Strips t s := by
  constructor
  · rintro rfl
    exact strips_stripLineEnd t
  · exact Strips.stripLineEnd_eq

theorem lineSource_of_last {body : List UInt8} (h : Input.lineFeed ∉ body) :
    lineSource body = Utf8.decode body := by
  refine Strips.stripLineEnd_eq (.neither ?_)
  intro hlast
  exact Utf8.lineFeed_not_mem_decode h (List.mem_of_getLast? hlast)

/-- The source of a line with its line feed leaves out a carriage return at the most. -/
theorem exists_lineSource_append (body : List UInt8) :
    ∃ tail ∈ [[], ['\r']],
      Utf8.decode body = lineSource (body ++ [Input.lineFeed]) ++ tail := by
  have hdecode : Utf8.decode (body ++ [Input.lineFeed]) = Utf8.decode body ++ ['\n'] :=
    Utf8.decode_append_lineFeed body []
  by_cases hlast : (Utf8.decode body).getLast? = some '\r'
  · obtain ⟨s, hs⟩ := List.getLast?_eq_some_iff.mp hlast
    have hstrips : Strips (Utf8.decode (body ++ [Input.lineFeed])) s := by
      rw [hdecode, hs, List.append_assoc]
      exact .both s
    exact ⟨['\r'], by simp, by rw [lineSource, hstrips.stripLineEnd_eq, hs]⟩
  · have hstrips : Strips (Utf8.decode (body ++ [Input.lineFeed])) (Utf8.decode body) := by
      rw [hdecode]
      exact .lineFeed hlast
    exact ⟨[], by simp, by rw [lineSource, hstrips.stripLineEnd_eq, List.append_nil]⟩

/-- The sources that a session makes of some bytes. -/
def lineSources (bytes : List UInt8) : List Text := (Input.cutLines bytes).map lineSource

/-- A text with the sources of its lines: they hold no line feed, and nothing but line ends is
between them. -/
inductive HasLines : Text → List Text → Prop
  | none : HasLines [] []
  | last {s : Text} (hs : '\n' ∉ s) : HasLines s [s]
  | cons {s tail t : Text} {sources : List Text} (hs : '\n' ∉ s) (htail : tail ∈ [[], ['\r']])
      (h : HasLines t sources) : HasLines (s ++ tail ++ '\n' :: t) (s :: sources)

/-- Decoding commutes with cutting lines. -/
theorem hasLines_decode (bytes : List UInt8) :
    HasLines (Utf8.decode bytes) (lineSources bytes) := by
  have hcuts := Input.cutsInto_cutLines bytes
  rw [lineSources]
  generalize Input.cutLines bytes = lines at hcuts
  induction hcuts with
  | none => exact .none
  | last hne hbody =>
    rw [List.map_singleton, lineSource_of_last hbody]
    exact .last (Utf8.lineFeed_not_mem_decode hbody)
  | @cons body bytes lines hbody h ih =>
    obtain ⟨tail, htail, hdecode⟩ := exists_lineSource_append body
    have hfree := Utf8.lineFeed_not_mem_decode hbody
    rw [Utf8.decode_append_lineFeed, List.map_cons, hdecode]
    rw [hdecode, List.mem_append, not_or] at hfree
    exact .cons hfree.1 htail ih

theorem HasLines.lineFeed_not_mem {t : Text} {sources : List Text} (h : HasLines t sources) :
    ∀ s ∈ sources, '\n' ∉ s := by
  induction h with
  | none => simp
  | last hs => simpa using hs
  | cons hs _ _ ih => exact List.forall_mem_cons.mpr ⟨hs, ih⟩

end LoxFrontEnd
