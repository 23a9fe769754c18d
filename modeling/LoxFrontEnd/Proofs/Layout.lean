import LoxFrontEnd.Proofs.Lookahead
import LoxFrontEnd.Proofs.Separation

/-!
# Layout between lexemes

Blanks and comments can be put anywhere between the lexemes of a source without changing what it
means (`scan_widened`). Behind a comment a part of them becomes a part of the comment, up to the
first line feed, and the rest is layout again. Anywhere else the blank they begin with ends the
lexeme in front, as nothing more of what stood behind it was needed for that.
-/
namespace LoxFrontEnd

/-- Blanks, and comments that each come with the line feed behind them. -/
inductive Text.IsLayout : Text → Prop
  | nil : IsLayout []
  | blank {c : Char} {w : Text} (hc : c ∈ [' ', '\r', '\t', '\n']) (hw : IsLayout w) :
    IsLayout (c :: w)
  | comment {body w : Text} (hbody : '\n' ∉ body) (hw : IsLayout w) :
    IsLayout ('/' :: '/' :: body ++ '\n' :: w)

/-- What layout has behind its first line is layout. -/
theorem Text.IsLayout.dropWhile {w : Text} (h : w.IsLayout) :
    Text.IsLayout (w.dropWhile (· != '\n')) := by
  induction h with
  | nil => exact .nil
  | @blank c w hc hw ih =>
    by_cases hfeed : c = '\n'
    · simpa [hfeed] using IsLayout.blank (by simp) hw
    · simpa [hfeed] using ih
  | @comment body w hbody hw _ =>
    have hrun : ∀ d ∈ '/' :: '/' :: body, (d != '\n') = true :=
      Text.bne_of_not_mem (by simpa using hbody)
    rw [Text.dropWhile_run hrun (by simp)]
    exact .blank (by simp) hw

theorem Text.Stops.of_append {rest t : Text} {p : Char → Bool} (h : Text.Stops (rest ++ t) p) :
    rest.Stops p := by
  cases rest with
  | nil => simp
  | cons c cs => simpa using h

namespace Lexeme

/-- A lexeme stays what it is if the text behind it is cut off somewhere. -/
theorem Delimited.of_append {l : Lexeme} {rest t : Text} (h : Delimited l (rest ++ t)) :
    Delimited l rest := by
  generalize hbehind : rest ++ t = behind at h
  cases h with
  | blank hc => exact .blank hc
  | comment hbody hrest => exact .comment hbody (hbehind ▸ hrest).of_append
  | string hvalue => exact .string hvalue
  | unterminated hvalue =>
    obtain ⟨rfl, -⟩ := List.append_eq_nil_iff.mp hbehind
    exact .unterminated hvalue
  | whole hdigits hrest hpoint =>
    refine .whole hdigits (hbehind ▸ hrest).of_append ?_
    rintro d ds rfl
    exact hpoint d (ds ++ t) hbehind.symm
  | decimal hdigits hdecimals hrest =>
    exact .decimal hdigits hdecimals (hbehind ▸ hrest).of_append
  | word hc hcs hrest => exact .word hc hcs (hbehind ▸ hrest).of_append
  | operator hlonger hcomment =>
    subst hbehind
    cases rest with
    | nil => exact .operator (by simp) (by simp)
    | cons c cs => exact .operator hlonger hcomment
  | unexpected hc => exact .unexpected hc

theorem IsCut.of_append {rest t : Text} {ls : List Lexeme} (h : IsCut (rest ++ t) ls) :
    IsCut rest ls := by
  induction ls with
  | nil => trivial
  | cons l ls ih =>
    obtain ⟨hfirst, hrest⟩ := h
    rw [← List.append_assoc] at hfirst
    exact ⟨hfirst.of_append, ih hrest⟩

/-- A list of lexemes is not cut anywhere else if what is behind it begins in the same way. -/
theorem IsCut.of_take_eq {rest rest' : Text} {ls : List Lexeme} (h : IsCut rest ls)
    (hclosed : ∀ l ∈ ls, l.role ≠ .fault .unterminatedString)
    (htake : rest.take 2 = rest'.take 2) : IsCut rest' ls := by
  induction ls with
  | nil => trivial
  | cons l ls ih =>
    obtain ⟨hfirst, hrest⟩ := h
    obtain ⟨hl, hls⟩ := List.forall_mem_cons.mp hclosed
    refine ⟨hfirst.of_take_eq hl ?_, ih hrest hls⟩
    have hshorter := congrArg (List.take (2 - (ls.flatMap text).length)) htake
    simp only [List.take_take, Nat.min_eq_left (Nat.sub_le _ _)] at hshorter
    rw [List.take_append, List.take_append, hshorter]

/-- A string that is left open has nothing behind it. -/
theorem IsCut.closed_before {rest : Text} {before : List Lexeme} {l : Lexeme}
    {after : List Lexeme} (h : IsCut rest (before ++ l :: after)) :
    ∀ m ∈ before, m.role ≠ .fault .unterminatedString := by
  intro m hm hrole
  obtain ⟨front, behind, rfl⟩ := List.append_of_mem hm
  have hl : l.text ≠ [] := h.delimited.text_ne_nil
  rw [List.append_assoc, List.cons_append] at h
  have hmeans := h.delimited.means
  rw [hrole] at hmeans
  have hnil := hmeans.2
  simp [hl] at hnil

/-- Layout is cut into blanks and comments, whatever comes behind it. -/
theorem exists_isCut_of_isLayout {w : Text} (h : w.IsLayout) :
    ∃ ls : List Lexeme, ls.flatMap text = w ∧ ls.filter (!·.isTrivia) = [] ∧
      ∀ rest, IsCut rest ls := by
  induction h with
  | nil => exact ⟨[], rfl, rfl, fun _ => trivial⟩
  | @blank c w hc _ ih =>
    obtain ⟨ls, rfl, htrivia, hcut⟩ := ih
    refine ⟨⟨[c], .blank⟩ :: ls, rfl, by simpa [isTrivia] using htrivia, fun rest => ?_⟩
    exact ⟨.blank ((LexicalClass.isBlank_iff c).mpr hc), hcut rest⟩
  | @comment body w hbody _ ih =>
    obtain ⟨ls, rfl, htrivia, hcut⟩ := ih
    refine ⟨⟨'/' :: '/' :: body, .comment⟩ :: ⟨['\n'], .blank⟩ :: ls, by simp,
      by simpa [isTrivia] using htrivia, fun rest => ?_⟩
    exact ⟨.comment hbody (by simp), .blank (by decide), hcut rest⟩

/-- Layout behind a comment: its first line goes into the comment. -/
theorem essence_insert_comment {before after : List Lexeme} {body : Text}
    (hcut : IsCut [] (before ++ ⟨'/' :: '/' :: body, .comment⟩ :: after)) {w : Text}
    (hw : w.IsLayout) :
    essence (before.flatMap text ++ '/' :: '/' :: body ++ w ++ after.flatMap text) =
      (before ++ after).filter (!·.isTrivia) := by
  have hclosed := hcut.closed_before
  obtain ⟨hbefore, hcomment, hafter⟩ := isCut_append.mp hcut
  obtain ⟨⟨body', hbody', hbody⟩, hstops⟩ := hcomment.means
  obtain rfl : body = body' := by simpa using hbody'
  have hsplit := List.takeWhile_append_dropWhile (p := (· != '\n')) (l := w)
  have hline : '\n' ∉ w.takeWhile (· != '\n') := fun h => by
    simpa using List.mem_takeWhile_imp h
  have hend := Text.stops_dropWhile (· != '\n') w
  generalize w.takeWhile (· != '\n') = line at hsplit hline
  obtain ⟨ls, hls, htrivia, hlayout⟩ := exists_isCut_of_isLayout hw.dropWhile
  rw [← hls] at hsplit hend
  have hlonger : cut (before.flatMap text ++ '/' :: '/' :: body ++ w ++ after.flatMap text) =
      before ++ ⟨'/' :: '/' :: (body ++ line), .comment⟩ :: (ls ++ after) := by
    rw [cut_eq_iff]
    constructor
    · refine isCut_append.mpr ⟨hbefore.of_take_eq hclosed (by simp), .comment ?_ ?_,
        isCut_append.mpr ⟨hlayout _, hafter⟩⟩
      · simp [hbody, hline]
      · rw [List.flatMap_append, List.append_nil]
        cases hfeed : ls.flatMap text with
        | nil => simpa using hstops
        | cons c cs =>
          rw [hfeed, Text.stops_cons] at hend
          simpa using hend
    · simp [← hsplit]
  rw [essence, hlonger, List.filter_append, List.filter_cons_of_neg (by simp [isTrivia]),
    List.filter_append, htrivia, List.nil_append, ← List.filter_append]

/-- Layout behind anything but a comment: the blank that it begins with ends what is in front. -/
theorem essence_insert_blank {before after : List Lexeme} (hcut : IsCut [] (before ++ after))
    (hclosed : ∀ l ∈ before, l.role ≠ .fault .unterminatedString)
    (hcomment : ∀ l ∈ before.getLast?, l.role ≠ .comment) {w : Text} (hw : w.IsLayout) {b : Char}
    (hb : isBlank b) (hhead : w.head? = some b) :
    essence (before.flatMap text ++ w ++ after.flatMap text) =
      (before ++ after).filter (!·.isTrivia) := by
  obtain ⟨hbefore, hafter⟩ := isCut_append.mp hcut
  obtain ⟨ls, hls, htrivia, hlayout⟩ := exists_isCut_of_isLayout hw
  obtain ⟨t, rfl⟩ : ∃ t, w = b :: t := by
    cases w with
    | nil => simp at hhead
    | cons c t => exact ⟨t, by simpa using hhead⟩
  have hwider : cut (before.flatMap text ++ (b :: t) ++ after.flatMap text) =
      before ++ (ls ++ after) := by
    rw [cut_eq_iff]
    constructor
    · have halone : IsCut [] before := IsCut.of_append (t := after.flatMap text ++ []) hbefore
      have hfollowed := halone.followed hb hclosed
        (fun ⟨l, hl, hrole⟩ => absurd hrole (hcomment l hl)) (t ++ after.flatMap text)
      refine isCut_append.mpr ⟨?_, isCut_append.mpr ⟨hlayout _, hafter⟩⟩
      simpa [hls] using hfollowed
    · simp [hls]
  rw [essence, hwider]
  simp [List.filter_append, htrivia]

/-- Layout put between lexemes means nothing. -/
theorem essence_insert {before after : List Lexeme} (hcut : IsCut [] (before ++ after))
    (hclosed : ∀ l ∈ before, l.role ≠ .fault .unterminatedString) {w : Text} (hw : w.IsLayout)
    {b : Char} (hb : isBlank b) (hhead : w.head? = some b) :
    essence (before.flatMap text ++ w ++ after.flatMap text) =
      (before ++ after).filter (!·.isTrivia) := by
  by_cases hlast : ∃ l ∈ before.getLast?, l.role = .comment
  · obtain ⟨⟨c, role⟩, hl, rfl⟩ := hlast
    obtain ⟨front, rfl⟩ := List.getLast?_eq_some_iff.mp hl
    rw [List.append_assoc, List.singleton_append] at hcut
    obtain ⟨⟨body, rfl, -⟩, -⟩ := hcut.delimited.means
    simpa [isTrivia] using essence_insert_comment hcut hw
  · exact essence_insert_blank hcut hclosed (fun l hl hrole => hlast ⟨l, hl, hrole⟩) hw hb hhead

end Lexeme

/-- A position between segments of a source, or at one of its ends. The end of a string that is left
open is none, since whatever is put there goes on with the string. -/
def IsBoundary (source : Text) (p : Nat) : Prop :=
  p = 0 ∨ ∃ s ∈ (scan source).map Element.segment, s.span.stop = p ∧
    ∀ d, s.account = .diagnostic d → d.message ≠ "Unterminated string.".toList

theorem IsBoundary.exists_cut {source : Text} {p : Nat} (h : IsBoundary source p) :
    ∃ before after, Lexeme.cut source = before ++ after ∧
      (before.flatMap Lexeme.text).length = p ∧
      ∀ l ∈ before, l.role ≠ .fault .unterminatedString := by
  obtain rfl | ⟨s, hs, rfl, hopen⟩ := h
  · exact ⟨[], Lexeme.cut source, rfl, rfl, by simp⟩
  · obtain ⟨e, he, rfl⟩ := List.mem_map.mp hs
    obtain ⟨before, after, hcut, hstart, -⟩ := Element.exists_of_mem_place he
    have hisCut := Lexeme.isCut_cut source
    rw [hcut] at hisCut
    refine ⟨before ++ [e.lexeme], after, by simp [hcut], ?_, ?_⟩
    · change _ = e.start + e.lexeme.text.length
      rw [hstart]
      simp
    · simp only [List.mem_append, List.mem_singleton]
      rintro l (hl | rfl) hrole
      · exact hisCut.closed_before l hl hrole
      · have haccount : e.segment.account = .diagnostic
            ⟨e.line, [], Fault.message .unterminatedString, some e.span⟩ := by
          simp [Element.segment, hrole]
        exact hopen _ haccount rfl

/-- Blanks and comments put at a boundary of a source leave its tokens and messages as they are, if
they begin with a blank. -/
theorem scan_widened {source w : Text} {p : Nat} (hp : IsBoundary source p) (hw : w.IsLayout)
    (hhead : ∃ c ∈ [' ', '\r', '\t', '\n'], w.head? = some c) :
    let widened := source.take p ++ w ++ source.drop p
    (tokens widened).map Token.signature = (tokens source).map Token.signature ∧
    (emissions (scanCalls widened)).map Diagnostic.message =
      (emissions (scanCalls source)).map Diagnostic.message := by
  intro widened
  obtain ⟨before, after, hcut, rfl, hclosed⟩ := hp.exists_cut
  obtain ⟨b, hb, hhead⟩ := hhead
  have hessence : Lexeme.essence widened = Lexeme.essence source := by
    have hisCut := Lexeme.isCut_cut source
    have hjoin := Lexeme.join_cut source
    rw [hcut] at hisCut
    rw [hcut, List.flatMap_append] at hjoin
    have hinsert := Lexeme.essence_insert hisCut hclosed hw ((LexicalClass.isBlank_iff b).mpr hb)
      hhead
    simp only [widened, ← hjoin, List.take_left, List.drop_left]
    rw [hinsert, hjoin, Lexeme.essence, hcut]
  constructor
  · rw [tokens, tokens, List.map_append, List.map_append, map_signature_tokens,
      map_signature_tokens, hessence]
    rfl
  · rw [emissions_scanCalls, emissions_scanCalls, map_message_diagnostics,
      map_message_diagnostics, hessence]

/-- Behind a comment, a quote in the layout is in a comment too, whichever of the two it is. -/
theorem scan_widened_comment :
    let source : Text := ['!', '/', '/', 'a', '\n', '=', '@']
    let w : Text := [' ', '/', '/', '"', '\n', '/', '/', '"', '\n']
    IsBoundary source 4 ∧ w.IsLayout ∧ (∃ c ∈ [' ', '\r', '\t', '\n'], w.head? = some c) ∧
    (tokens (['!', '/', '/', 'a'] ++ w ++ ['\n', '=', '@'])).map Token.signature =
      [(.operator .bang, ['!'], none), (.operator .equal, ['='], none), (.eof, [], none)] ∧
    (emissions (scanCalls (['!', '/', '/', 'a'] ++ w ++ ['\n', '=', '@']))).map
      Diagnostic.message = [Fault.message .unexpectedCharacter] := by
  intro source w
  have hcut : Lexeme.cut source = [⟨['!'], .token (.operator .bang) none⟩,
      ⟨['/', '/', 'a'], .comment⟩, ⟨['\n'], .blank⟩, ⟨['='], .token (.operator .equal) none⟩,
      ⟨['@'], .fault .unexpectedCharacter⟩] :=
    Lexeme.cut_eq_iff.mpr ⟨⟨.operator (o := .bang) (by simp; decide) (by simp),
      .comment (show '\n' ∉ ['a'] by decide) (by simp), .blank (by decide),
      .operator (o := .equal) (by simp; decide) (by simp), .unexpected (by decide), trivial⟩, rfl⟩
  have hboundary : IsBoundary source 4 := by
    refine .inr ⟨⟨⟨1, 4⟩, .comment⟩, ?_, rfl, by simp⟩
    rw [scan, hcut]
    exact List.mem_cons_of_mem _ List.mem_cons_self
  have hquote : '\n' ∉ ['"'] := by decide
  have hlayout : w.IsLayout := .blank (by simp) (.comment hquote (.comment hquote .nil))
  have hhead : ∃ c ∈ [' ', '\r', '\t', '\n'], w.head? = some c := ⟨' ', by simp, rfl⟩
  obtain ⟨htokens, hmessages⟩ := scan_widened hboundary hlayout hhead
  refine ⟨hboundary, hlayout, hhead, htokens.trans ?_, hmessages.trans ?_⟩
  · simp only [tokens, scan, hcut]
    rfl
  · simp only [emissions_scanCalls, diagnostics, scan, hcut]
    rfl

end LoxFrontEnd
