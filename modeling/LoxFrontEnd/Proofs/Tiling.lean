import LoxFrontEnd.Proofs.Cut
import LoxFrontEnd.Proofs.Emission

/-!
# Tiling

A source is split into consecutive segments, and every segment is accounted for by one token, by
one diagnostic, or by being a blank or a comment. Tokens and diagnostics come in the order of their
segments, so a scan neither loses nor repeats any text (`exists_tiling`).
-/
namespace LoxFrontEnd

namespace Span

/-- The text that a span takes out of a source. -/
def textOf (span : Span) (source : Text) : Text :=
  (source.drop span.start).take (span.stop - span.start)

/-- Spans of one or more characters that follow one another without gaps. -/
def Consecutive (start stop : Nat) : List Span → Prop
  | [] => start = stop
  | s :: ss => s.start = start ∧ s.start < s.stop ∧ Consecutive s.stop stop ss

theorem Consecutive.le {start stop : Nat} {spans : List Span} (h : Consecutive start stop spans) :
    start ≤ stop := by
  induction spans generalizing start with
  | nil => exact le_of_eq h
  | cons s ss ih =>
    obtain ⟨hstart, hlt, hrest⟩ := h
    have := ih hrest
    omega

theorem Consecutive.bounds {start stop : Nat} {spans : List Span}
    (h : Consecutive start stop spans) :
    ∀ s ∈ spans, start ≤ s.start ∧ s.start < s.stop ∧ s.stop ≤ stop := by
  induction spans generalizing start with
  | nil => simp
  | cons s ss ih =>
    obtain ⟨hstart, hlt, hrest⟩ := h
    intro t ht
    obtain rfl | ht := List.mem_cons.mp ht
    · exact ⟨hstart.ge, hlt, hrest.le⟩
    · obtain ⟨hle, hbounds⟩ := ih hrest t ht
      exact ⟨by omega, hbounds⟩

/-- Consecutive spans are in order, and no position is in two of them. -/
theorem Consecutive.pairwise {start stop : Nat} {spans : List Span}
    (h : Consecutive start stop spans) : spans.Pairwise fun s t => s.stop ≤ t.start := by
  induction spans generalizing start with
  | nil => exact .nil
  | cons s ss ih =>
    obtain ⟨-, -, hrest⟩ := h
    exact .cons (fun t ht => (hrest.bounds t ht).1) (ih hrest)

end Span

namespace Element

/-- A placed lexeme starts after the ones before it, and its line counts their line feeds and its
own. -/
theorem exists_of_mem_place {start line : Nat} {ls : List Lexeme} {e : Element}
    (h : e ∈ place start line ls) :
    ∃ before after, ls = before ++ e.lexeme :: after ∧
      e.start = start + (before.flatMap Lexeme.text).length ∧
      e.line = line + Text.lineFeeds (before.flatMap Lexeme.text ++ e.lexeme.text) := by
  induction ls generalizing start line with
  | nil => simp [place] at h
  | cons l ls ih =>
    obtain rfl | h := List.mem_cons.mp h
    · exact ⟨[], ls, rfl, rfl, by simp⟩
    · obtain ⟨before, after, rfl, hstart, hline⟩ := ih h
      refine ⟨l :: before, after, rfl, ?_, ?_⟩
      · rw [hstart, List.flatMap_cons, List.length_append, Nat.add_assoc]
      · simp only [hline, List.flatMap_cons, Text.lineFeeds_append]
        omega

theorem map_lexeme_place (start line : Nat) (ls : List Lexeme) :
    (place start line ls).map lexeme = ls := by
  induction ls generalizing start line with
  | nil => rfl
  | cons l ls ih => simp [place, ih]

theorem place_append (start line : Nat) (ls ms : List Lexeme) :
    place start line (ls ++ ms) = place start line ls ++
      place (start + (ls.flatMap Lexeme.text).length)
        (line + Text.lineFeeds (ls.flatMap Lexeme.text)) ms := by
  induction ls generalizing start line with
  | nil => simp [place]
  | cons l ls ih => simp [place, ih, Nat.add_assoc]

theorem consecutive_place {start line : Nat} {rest : Text} {ls : List Lexeme}
    (h : Lexeme.IsCut rest ls) :
    Span.Consecutive start (start + (ls.flatMap Lexeme.text).length)
      ((place start line ls).map span) := by
  induction ls generalizing start line with
  | nil => rfl
  | cons l ls ih =>
    have hpos := List.length_pos_iff.mpr h.1.text_ne_nil
    refine ⟨rfl, ?_, ?_⟩
    · change start < start + l.text.length
      omega
    · rw [List.flatMap_cons, List.length_append, ← Nat.add_assoc]
      exact ih h.2

end Element

/-- What a scan finds at a position: a lexeme with the source on both sides of it. -/
theorem exists_of_mem_scan {source : Text} {e : Element} (h : e ∈ scan source) :
    ∃ before after : Text, source = before ++ e.lexeme.text ++ after ∧ e.start = before.length ∧
      e.line = 1 + (before ++ e.lexeme.text).lineFeeds ∧ e.lexeme.Delimited after := by
  obtain ⟨before, after, hcut, hstart, hline⟩ := Element.exists_of_mem_place h
  have hisCut := Lexeme.isCut_cut source
  have hjoin := Lexeme.join_cut source
  rw [hcut] at hisCut hjoin
  refine ⟨before.flatMap Lexeme.text, after.flatMap Lexeme.text, ?_, by omega, hline, ?_⟩
  · simpa using hjoin.symm
  · simpa using hisCut.delimited

theorem drop_start_of_mem_scan {source : Text} {e : Element} (h : e ∈ scan source) :
    source.drop e.start = e.lexeme.text ++ source.drop e.stop := by
  obtain ⟨before, after, rfl, hstart, -, -⟩ := exists_of_mem_scan h
  simp [Element.stop, hstart, ← List.drop_drop]

theorem delimited_of_mem_scan {source : Text} {e : Element} (h : e ∈ scan source) :
    e.lexeme.Delimited (source.drop e.stop) := by
  obtain ⟨before, after, rfl, hstart, -, hdelimited⟩ := exists_of_mem_scan h
  simpa [Element.stop, hstart, ← List.drop_drop] using hdelimited

/-- The token of a delimited lexeme is what its text denotes. -/
theorem Element.token?_eq_some_iff {e : Element} {rest : Text} (h : e.lexeme.Delimited rest)
    (t : Token) : e.token? = some t ↔
      t.lexeme = e.lexeme.text ∧ t.line = e.line ∧ Denotes e.lexeme.text t.kind t.literal := by
  constructor
  · intro ht
    have hmeans := h.means
    cases hrole : e.lexeme.role with
    | token kind literal =>
      rw [hrole] at hmeans
      obtain rfl : ⟨kind, e.lexeme.text, literal, e.line⟩ = t := by simpa [token?, hrole] using ht
      exact ⟨rfl, rfl, hmeans⟩
    | _ => simp [token?, hrole] at ht
  · rintro ⟨hlexeme, hline, hdenotes⟩
    have heq := h.eq_of_text_eq hdenotes.delimited rfl
    simp [token?, congrArg Lexeme.role heq, ← hlexeme, ← hline]

theorem Element.kind_ne_eof {source : Text} {e : Element} (h : e ∈ scan source) {t : Token}
    (ht : e.token? = some t) : t.kind ≠ .eof :=
  ((token?_eq_some_iff (delimited_of_mem_scan h) t).mp ht).2.2.kind_ne_eof

/-- All of a source without line feeds is on its first line. -/
theorem line_of_mem_scan {source : Text} (hsource : '\n' ∉ source) {e : Element}
    (h : e ∈ scan source) : e.line = 1 := by
  obtain ⟨before, after, rfl, -, hline, -⟩ := exists_of_mem_scan h
  rw [List.mem_append, not_or] at hsource
  rw [hline, Text.lineFeeds, List.count_eq_zero.mpr hsource.1]

theorem line_of_mem_diagnostics {source : Text} (hsource : '\n' ∉ source) {d : Diagnostic}
    (h : d ∈ diagnostics source) : d.line = 1 := by
  obtain ⟨e, he, hd⟩ := List.mem_filterMap.mp h
  cases hrole : e.lexeme.role with
  | fault fault =>
    rw [Element.diagnostic?, hrole] at hd
    rw [← Option.some.inj hd]
    exact line_of_mem_scan hsource he
  | _ => simp [Element.diagnostic?, hrole] at hd

/-- What accounts for a segment of a source. -/
inductive Account
  | token (t : Token)
  | diagnostic (d : Diagnostic)
  | blank
  | comment

structure Segment where
  span : Span
  account : Account

namespace Segment

def token? (s : Segment) : Option Token :=
  match s.account with
  | .token t => some t
  | _ => none

def diagnostic? (s : Segment) : Option Diagnostic :=
  match s.account with
  | .diagnostic d => some d
  | _ => none

/-- Texts between tokens that mean nothing. -/
def IsTrivia (t : Text) : Prop := LexicalClass.blank.Contains t ∨ LexicalClass.comment.Contains t

/-- Whether the account of a segment is right. A comment has to reach to the end of its line. -/
def IsRight (source : Text) (s : Segment) : Prop :=
  let text := s.span.textOf source
  match s.account with
  | .token t => t.kind ≠ .eof ∧ t.lexeme = text ∧ ¬IsTrivia text
  | .diagnostic d => d.span = some s.span ∧ ¬IsTrivia text
  | .blank => LexicalClass.blank.Contains text
  | .comment => LexicalClass.comment.Contains text ∧
      ∀ c ∈ (source.drop s.span.stop).head?, c = '\n'

end Segment

/-- The segments of a source, and what a scan answers and emits. -/
structure IsTiling (source : Text) (segments : List Segment) : Prop where
  consecutive : Span.Consecutive 0 source.length (segments.map Segment.span)
  isRight : ∀ s ∈ segments, s.IsRight source
  tokens_eq : ∃ line, tokens source = segments.filterMap Segment.token? ++ [⟨.eof, [], none, line⟩]
  emissions_eq : emissions (scanCalls source) = segments.filterMap Segment.diagnostic?

namespace Element

/-- The segment of a placed lexeme. -/
def segment (e : Element) : Segment :=
  ⟨e.span, match e.lexeme.role with
    | .token kind literal => .token ⟨kind, e.lexeme.text, literal, e.line⟩
    | .fault fault => .diagnostic ⟨e.line, [], fault.message, some e.span⟩
    | .blank => .blank
    | .comment => .comment⟩

theorem token?_comp_segment : Segment.token? ∘ segment = token? := by
  funext e
  cases h : e.lexeme.role <;> simp [segment, Segment.token?, token?, h]

theorem diagnostic?_comp_segment : Segment.diagnostic? ∘ segment = diagnostic? := by
  funext e
  cases h : e.lexeme.role <;> simp [segment, Segment.diagnostic?, diagnostic?, h]

theorem textOf_span {source : Text} {e : Element} (h : e ∈ scan source) :
    e.span.textOf source = e.lexeme.text := by
  simp [Span.textOf, span, drop_start_of_mem_scan h, stop]

theorem segment_isRight {source : Text} {e : Element} (h : e ∈ scan source) :
    e.segment.IsRight source := by
  have htext := textOf_span h
  have hdelimited := delimited_of_mem_scan h
  have hmeans := hdelimited.means
  have hnot (hblank : e.lexeme.role ≠ .blank) (hcomment : e.lexeme.role ≠ .comment) :
      ¬Segment.IsTrivia e.lexeme.text := by
    rintro (ht | ht)
    · exact hblank (hdelimited.role_of_blank ht)
    · exact hcomment (hdelimited.role_of_comment ht)
  cases hrole : e.lexeme.role with
  | token kind literal =>
    rw [hrole] at hmeans hnot
    simp only [Segment.IsRight, segment, hrole, htext]
    exact ⟨hmeans.kind_ne_eof, trivial, hnot (by simp) (by simp)⟩
  | fault fault =>
    rw [hrole] at hnot
    simp only [Segment.IsRight, segment, hrole, htext]
    exact ⟨trivial, hnot (by simp) (by simp)⟩
  | blank =>
    rw [hrole] at hmeans
    simp only [Segment.IsRight, segment, hrole, htext]
    exact hmeans
  | comment =>
    rw [hrole] at hmeans
    simp only [Segment.IsRight, segment, hrole, htext]
    refine ⟨hmeans.1, ?_⟩
    intro c hc
    simpa using hmeans.2 c hc

end Element

/-- The lexemes of a source take it up without gaps. -/
theorem consecutive_scan (source : Text) :
    Span.Consecutive 0 source.length ((scan source).map Element.span) := by
  have h : Span.Consecutive 0 (0 + _) ((Element.place 0 1 _).map Element.span) :=
    Element.consecutive_place (Lexeme.isCut_cut source)
  rwa [Lexeme.join_cut, Nat.zero_add] at h

theorem isTiling_scan (source : Text) : IsTiling source ((scan source).map Element.segment) where
  consecutive := by
    rw [List.map_map]
    exact consecutive_scan source
  isRight := by
    intro s hs
    obtain ⟨e, he, rfl⟩ := List.mem_map.mp hs
    exact Element.segment_isRight he
  tokens_eq := by
    refine ⟨lastLine source, ?_⟩
    rw [tokens, List.filterMap_map, Element.token?_comp_segment]
    rfl
  emissions_eq := by
    rw [emissions_scanCalls, diagnostics, List.filterMap_map, Element.diagnostic?_comp_segment]

/-- The diagnostics of a tiling have the spans of its segments. -/
theorem IsTiling.exists_span {source : Text} {segments : List Segment}
    (h : IsTiling source segments) {d : Diagnostic} (hd : d ∈ emissions (scanCalls source)) :
    ∃ s ∈ segments, s.account = .diagnostic d ∧ d.span = some s.span := by
  rw [h.emissions_eq] at hd
  obtain ⟨s, hs, hsd⟩ := List.mem_filterMap.mp hd
  have hright := h.isRight s hs
  cases haccount : s.account with
  | diagnostic d' =>
    obtain rfl : d' = d := by simpa [Segment.diagnostic?, haccount] using hsd
    simp only [Segment.IsRight, haccount] at hright
    exact ⟨s, hs, haccount, hright.1⟩
  | _ => simp [Segment.diagnostic?, haccount] at hsd

/-- Every source has a tiling, so spans of diagnostics hold text and no segments overlap. -/
theorem exists_tiling (source : Text) :
    ∃ segments, IsTiling source segments ∧
      segments.Pairwise (fun s t => s.span.stop ≤ t.span.start) ∧
      ∀ d ∈ emissions (scanCalls source),
        ∃ span, d.span = some span ∧ span.start < span.stop ∧ span.stop ≤ source.length := by
  have h := isTiling_scan source
  refine ⟨_, h, List.pairwise_map.mp h.consecutive.pairwise, ?_⟩
  intro d hd
  obtain ⟨s, hs, -, hspan⟩ := h.exists_span hd
  have hbounds := h.consecutive.bounds s.span (List.mem_map_of_mem hs)
  exact ⟨s.span, hspan, hbounds.2.1, hbounds.2.2⟩

end LoxFrontEnd
