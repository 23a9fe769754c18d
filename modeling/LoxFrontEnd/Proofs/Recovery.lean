import LoxFrontEnd.Proofs.Separation
import Mathlib.Data.List.Forall2
import Mathlib.Data.List.Pairwise

/-!
# Recovery

A fault takes up the text that is wrong and nothing else: if that text is blanked out, the source
is without fault and has the tokens it had before, on the same lines (`scan_blankOut`). Spaces in
place of a fault do not change what stands in front of it (`Delimited.spacedOut`), and what stands
behind it is scanned from the same place as before.
-/
namespace LoxFrontEnd

/-- Whether a position is within a span. -/
def Span.holds (span : Span) (i : Nat) : Bool := span.start ≤ i && i < span.stop

namespace Text

/-- A space, but line feeds stay. -/
def blanked (c : Char) : Char := if c = '\n' then '\n' else ' '

/-- Blanks out all that some spans hold. -/
def blankOut (spans : List Span) (source : Text) : Text :=
  source.mapIdx fun i c => if spans.any (·.holds i) then blanked c else c

theorem isBlank_blanked (c : Char) : isBlank (blanked c) := by
  unfold blanked
  split <;> decide

/-- A text in which some characters, but no line feeds, have become spaces. -/
def SpacedOut (t t' : Text) : Prop := List.Forall₂ (fun c d => d = c ∨ d = ' ' ∧ c ≠ '\n') t t'

theorem SpacedOut.refl (t : Text) : SpacedOut t t := List.forall₂_same.mpr fun _ _ => .inl rfl

theorem spacedOut_map_blanked (t : Text) : SpacedOut t (t.map blanked) := by
  rw [SpacedOut, List.forall₂_map_right_iff, List.forall₂_same]
  intro c _
  by_cases hc : c = '\n'
  · exact .inl (by rw [hc]; rfl)
  · exact .inr ⟨if_neg hc, hc⟩

theorem SpacedOut.stops {t t' : Text} (h : SpacedOut t t') {p : Char → Bool} (ht : t.Stops p)
    (hp : p ' ' = false) : t'.Stops p := by
  cases h with
  | nil => simp
  | cons hc _ =>
    rw [stops_cons] at ht ⊢
    obtain rfl | ⟨rfl, -⟩ := hc
    · exact ht
    · exact hp

theorem SpacedOut.lineFeeds_eq {t t' : Text} (h : SpacedOut t t') : t'.lineFeeds = t.lineFeeds := by
  induction h with
  | nil => rfl
  | cons hc _ ih =>
    obtain rfl | ⟨rfl, hne⟩ := hc
    · simpa [lineFeeds, List.count_cons] using ih
    · simpa [lineFeeds, hne] using ih

/-- A line goes no further than before. -/
theorem SpacedOut.stops_lineFeed {t t' : Text} (h : SpacedOut t t') (ht : t.Stops (· != '\n')) :
    t'.Stops (· != '\n') := by
  cases h with
  | nil => simp
  | cons hc _ =>
    rw [stops_cons] at ht ⊢
    obtain rfl | ⟨-, hne⟩ := hc
    · exact ht
    · simp [hne] at ht

end Text

namespace Lexeme

open Text (SpacedOut blanked)

/-- A lexeme stays what it is if spaces take the place of characters behind it. -/
theorem Delimited.spacedOut {l : Lexeme} {rest rest' : Text} (h : Delimited l rest)
    (hrest : SpacedOut rest rest') : Delimited l rest' := by
  cases h with
  | blank hc => exact .blank hc
  | comment hbody hstop => exact .comment hbody (hrest.stops_lineFeed hstop)
  | string hvalue => exact .string hvalue
  | unterminated hvalue =>
    cases hrest
    exact .unterminated hvalue
  | whole hdigits hstop hpoint =>
    refine .whole hdigits (hrest.stops hstop (by decide)) ?_
    rintro d ds rfl
    -- Behind a point that is still there, a digit was a digit before.
    cases hrest with
    | cons hc hcs =>
      obtain rfl | ⟨hspace, -⟩ := hc
      · cases hcs with
        | cons he _ =>
          obtain rfl | ⟨rfl, -⟩ := he
          · exact hpoint _ _ rfl
          · decide
      · exact absurd hspace (by decide)
  | decimal hdigits hdecimals hstop =>
    exact .decimal hdigits hdecimals (hrest.stops hstop (by decide))
  | word hc hcs hstop => exact .word hc hcs (hrest.stops hstop (by decide))
  | @operator o rest hlonger hslash =>
    cases hrest with
    | nil => exact .operator hlonger hslash
    | cons hc _ =>
      obtain rfl | ⟨rfl, -⟩ := hc
      · exact .operator hlonger hslash
      · refine .operator ?_ (by simp)
        intro d hd
        obtain rfl : ' ' = d := by simpa using hd
        exact ofSpelling?_append_blank o (by decide)
  | unexpected hc => exact .unexpected hc

/-- Blanks in place of a fault, and any other lexeme as it is. -/
def erased (l : Lexeme) : List Lexeme :=
  match l.fault? with
  | some _ => l.text.map fun c => ⟨[blanked c], .blank⟩
  | none => [l]

theorem flatMap_text_erased (l : Lexeme) :
    l.erased.flatMap text = if l.fault?.isSome then l.text.map blanked else l.text := by
  unfold erased
  cases l.fault? with
  | none => simp
  | some fault => simp [List.flatMap_map, ← List.map_eq_flatMap]

theorem spacedOut_erased (l : Lexeme) : SpacedOut l.text (l.erased.flatMap text) := by
  rw [flatMap_text_erased]
  split
  · exact Text.spacedOut_map_blanked l.text
  · exact .refl l.text

theorem spacedOut_flatMap_erased (ls : List Lexeme) :
    SpacedOut (ls.flatMap text) ((ls.flatMap erased).flatMap text) := by
  induction ls with
  | nil => exact .nil
  | cons l ls ih =>
    rw [List.flatMap_cons, List.flatMap_cons, List.flatMap_append]
    exact List.rel_append (spacedOut_erased l) ih

theorem isCut_blanks (t rest : Text) :
    IsCut rest (t.map fun c => ⟨[blanked c], .blank⟩) := by
  have hblank : ∀ c ∈ t.map blanked, isBlank c := by
    simp [Text.isBlank_blanked]
  have hcut := isCut_blanks_of_isBlank hblank rest
  rwa [blanks, List.map_map] at hcut

/-- Lexemes stay cut where they are when faults are erased. -/
theorem IsCut.erased {ls : List Lexeme} (h : IsCut [] ls) : IsCut [] (ls.flatMap erased) := by
  induction ls with
  | nil => trivial
  | cons l ls ih =>
    obtain ⟨hfirst, hrest⟩ := h
    rw [List.flatMap_cons, isCut_append]
    refine ⟨?_, ih hrest⟩
    rw [List.append_nil] at hfirst ⊢
    unfold Lexeme.erased
    cases l.fault? with
    | none => exact ⟨hfirst.spacedOut (spacedOut_flatMap_erased ls), trivial⟩
    | some fault => exact isCut_blanks l.text _

theorem fault?_of_mem_erased {l m : Lexeme} (h : m ∈ l.erased) : m.fault? = none := by
  unfold erased at h
  split at h
  · obtain ⟨c, -, rfl⟩ := List.mem_map.mp h
    rfl
  · rw [List.mem_singleton.mp h]
    assumption

end Lexeme

namespace Element

open Text (blanked)

/-- What is blanked out is what the faults take up, if the covered positions are those of faults. -/
theorem mapIdx_join {covered : Nat → Bool} {start line : Nat} {ls : List Lexeme}
    (h : ∀ e ∈ place start line ls, ∀ i, e.span.holds i → covered i = e.lexeme.fault?.isSome) :
    (ls.flatMap Lexeme.text).mapIdx (fun i c => if covered (start + i) then blanked c else c) =
      (ls.flatMap Lexeme.erased).flatMap Lexeme.text := by
  induction ls generalizing start line with
  | nil => rfl
  | cons l ls ih =>
    have hfirst : ∀ i < l.text.length, covered (start + i) = l.fault?.isSome := by
      intro i hi
      refine h _ List.mem_cons_self (start + i) ?_
      simp only [Span.holds, span, stop]
      simpa using hi
    have hrest := ih fun e he => h e (List.mem_cons_of_mem _ he)
    rw [List.flatMap_cons, List.mapIdx_append, List.flatMap_cons, List.flatMap_append, ← hrest,
      Lexeme.flatMap_text_erased]
    congr 1
    · refine List.ext_getElem (by split <;> simp) fun i hi _ => ?_
      rw [List.length_mapIdx] at hi
      rw [List.getElem_mapIdx, hfirst i hi]
      split <;> simp
    · simp only [Nat.add_comm, Nat.add_left_comm]

theorem filterMap_place_eq_nil {α : Type} {f : Element → Option α} {ls : List Lexeme}
    (h : ∀ e : Element, e.lexeme ∈ ls → f e = none) (start line : Nat) :
    (place start line ls).filterMap f = [] := by
  rw [List.filterMap_eq_nil_iff]
  intro e he
  refine h e ?_
  rw [← map_lexeme_place start line ls]
  exact List.mem_map_of_mem he

theorem token?_eq_none {e : Element} (h : e.lexeme.signature? = none) : e.token? = none := by
  rwa [← map_signature_token?, Option.map_eq_none_iff] at h

theorem diagnostic?_eq_none {e : Element} (h : e.lexeme.fault? = none) : e.diagnostic? = none := by
  rw [diagnostic?_eq, h]
  rfl

/-- A fault gives no token, and blanks in its place give none either. -/
theorem filterMap_token?_erased (start line : Nat) (l : Lexeme) :
    (place start line l.erased).filterMap token? = (place start line [l]).filterMap token? := by
  unfold Lexeme.erased
  split
  · rename_i fault hfault
    have hsignature : l.signature? = none := by
      cases hrole : l.role <;> simp_all [Lexeme.fault?, Lexeme.signature?]
    rw [filterMap_place_eq_nil, filterMap_place_eq_nil]
    · intro e he
      rw [List.mem_singleton] at he
      exact token?_eq_none (he ▸ hsignature)
    · intro e he
      obtain ⟨c, -, hc⟩ := List.mem_map.mp he
      exact token?_eq_none (by rw [← hc]; rfl)
  · rfl

/-- Erasing faults leaves the tokens where they are. -/
theorem filterMap_place_erased (start line : Nat) (ls : List Lexeme) :
    (place start line (ls.flatMap Lexeme.erased)).filterMap token? =
      (place start line ls).filterMap token? := by
  induction ls generalizing start line with
  | nil => rfl
  | cons l ls ih =>
    have hlength : (l.erased.flatMap Lexeme.text).length = l.text.length :=
      (Lexeme.spacedOut_erased l).length_eq.symm
    rw [List.flatMap_cons, place_append, List.filterMap_append, hlength,
      (Lexeme.spacedOut_erased l).lineFeeds_eq, ih, filterMap_token?_erased,
      ← List.filterMap_append]
    rfl

end Element

/-- No position of a source is in two of its lexemes. -/
theorem eq_of_holds {source : Text} {e f : Element} (he : e ∈ scan source) (hf : f ∈ scan source)
    {i : Nat} (hei : e.span.holds i) (hfi : f.span.holds i) : e = f := by
  have horder := List.pairwise_map.mp (consecutive_scan source).pairwise
  simp only [Span.holds, Bool.and_eq_true, decide_eq_true_eq] at hei hfi
  let R (e f : Element) : Prop :=
    e.span.start ≤ i ∧ i < e.span.stop → f.span.start ≤ i ∧ i < f.span.stop → e = f
  have hsymm : Std.Symm R := ⟨fun _ _ h hx hy => (h hy hx).symm⟩
  have hpairwise : (scan source).Pairwise R := by
    refine horder.imp fun {e f} hef he hf => ?_
    omega
  exact List.Pairwise.forall_of_forall (fun _ _ _ _ => rfl) hpairwise he hf hei hfi

theorem mem_faultSpans {source : Text} {span : Span} :
    span ∈ (diagnostics source).filterMap Diagnostic.span ↔
      ∃ e ∈ scan source, e.lexeme.fault?.isSome ∧ e.span = span := by
  have hspan (e : Element) : e.diagnostic?.bind Diagnostic.span =
      if e.lexeme.fault?.isSome then some e.span else none := by
    rw [Element.diagnostic?_eq]
    cases e.lexeme.fault? <;> rfl
  simp [diagnostics, List.filterMap_filterMap, hspan]

/-- What diagnostics cover of a source is its faults. -/
theorem any_holds_eq {source : Text} {e : Element} (he : e ∈ scan source) {i : Nat}
    (hi : e.span.holds i) :
    ((diagnostics source).filterMap Diagnostic.span).any (·.holds i) = e.lexeme.fault?.isSome := by
  rw [Bool.eq_iff_iff, List.any_eq_true]
  constructor
  · rintro ⟨span, hspan, hholds⟩
    obtain ⟨f, hf, hfault, rfl⟩ := mem_faultSpans.mp hspan
    rwa [eq_of_holds he hf hi hholds]
  · intro hfault
    exact ⟨e.span, mem_faultSpans.mpr ⟨e, he, hfault, rfl⟩, hi⟩

/-- A source with its faults blanked out is cut where it was before. -/
theorem cut_blankOut (source : Text) :
    Lexeme.cut (Text.blankOut ((diagnostics source).filterMap Diagnostic.span) source) =
      (Lexeme.cut source).flatMap Lexeme.erased := by
  have hcovered : ∀ e ∈ Element.place 0 1 (Lexeme.cut source), ∀ i, e.span.holds i →
      ((diagnostics source).filterMap Diagnostic.span).any (·.holds i) =
        e.lexeme.fault?.isSome :=
    fun e he i hi => any_holds_eq he hi
  have hjoin := Element.mapIdx_join hcovered
  rw [Lexeme.join_cut] at hjoin
  rw [Lexeme.cut_eq_iff]
  refine ⟨(Lexeme.isCut_cut source).erased, ?_⟩
  rw [← hjoin]
  simp [Text.blankOut]

/-- A source with its faults blanked out has no faults, and the tokens it had before. -/
theorem scan_blankOut (source : Text) :
    let spans := (emissions (scanCalls source)).filterMap Diagnostic.span
    let repaired := Text.blankOut spans source
    emissions (scanCalls repaired) = [] ∧ tokens repaired = tokens source := by
  intro spans repaired
  have hcut : Lexeme.cut repaired = (Lexeme.cut source).flatMap Lexeme.erased := by
    simp only [repaired, spans, emissions_scanCalls]
    exact cut_blankOut source
  constructor
  · rw [emissions_scanCalls, diagnostics, scan, hcut]
    refine Element.filterMap_place_eq_nil (fun e he => ?_) 0 1
    obtain ⟨l, -, hl⟩ := List.mem_flatMap.mp he
    exact Element.diagnostic?_eq_none (Lexeme.fault?_of_mem_erased hl)
  · have hlines : repaired.lineFeeds = source.lineFeeds := by
      have hspaced := Lexeme.spacedOut_flatMap_erased (Lexeme.cut source)
      rw [← hcut, Lexeme.join_cut, Lexeme.join_cut] at hspaced
      exact hspaced.lineFeeds_eq
    rw [tokens, tokens, scan, hcut, Element.filterMap_place_erased, lastLine, hlines]
    rfl

end LoxFrontEnd
