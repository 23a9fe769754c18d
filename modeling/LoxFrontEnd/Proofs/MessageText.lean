import LoxFrontEnd.Arguments.Messages
import LoxFrontEnd.Proofs.LastLine

/-!
# Messages about arguments

What is wrong with a command line is said with parts of the command line in it, and these may hold
escape sequences. They end with the style around them (`Text.settles_styled`), so the end of a
message is shown as it is, whatever the arguments hold (`ArgumentError.endsOtherwise_text`).
-/
namespace LoxFrontEnd

namespace Text

/-- A text that leaves no escape sequence unfinished. -/
def Settles (t : Text) : Prop := EscapeState.outside.after t = .outside

theorem settles_of_free {t : Text} (h : '\x1b' ∉ t) : Settles t := by
  induction t with
  | nil => rfl
  | cons c cs ih =>
    obtain ⟨hc, hcs⟩ := not_or.mp (mt List.mem_cons.mpr h)
    have hnext : EscapeState.outside.next c = .outside := by
      unfold EscapeState.next
      rw [if_neg (Ne.symm hc), ite_self]
    unfold Settles EscapeState.after
    rw [List.foldl_cons, hnext]
    exact ih hcs

theorem Settles.append {t u : Text} (ht : t.Settles) (hu : u.Settles) : Settles (t ++ u) := by
  unfold Settles EscapeState.after at *
  rw [List.foldl_append, ht, hu]

/-- A character in front changes nothing, unless it begins a sequence. -/
theorem Settles.cons {c : Char} {t : Text} (hc : c ≠ '\x1b') (ht : t.Settles) : Settles (c :: t) :=
  have hsingle : '\x1b' ∉ [c] := by simpa using hc.symm
  (settles_of_free hsingle).append ht

theorem Settles.flatMap {α : Type} {f : α → Text} {as : List α} (h : ∀ a ∈ as, (f a).Settles) :
    Settles (as.flatMap f) := by
  induction as with
  | nil => rfl
  | cons a as ih =>
    rw [List.flatMap_cons]
    exact (h a List.mem_cons_self).append (ih fun a' ha' => h a' (List.mem_cons_of_mem a ha'))

theorem Settles.intercalate {separator : Text} (hseparator : separator.Settles) {ts : List Text}
    (h : ∀ t ∈ ts, t.Settles) : Settles (separator.intercalate ts) := by
  induction ts with
  | nil => rfl
  | cons t ts ih =>
    have ht := h t List.mem_cons_self
    have hts := ih fun t' ht' => h t' (List.mem_cons_of_mem t ht')
    by_cases hempty : ts = []
    · rwa [hempty, List.intercalate_singleton]
    · rw [List.intercalate_cons_of_ne_nil hempty]
      exact (ht.append hseparator).append hts

theorem intercalate_concat {separator t : Text} {ts : List Text} (h : ts ≠ []) :
    separator.intercalate (ts ++ [t]) = separator.intercalate ts ++ (separator ++ t) := by
  induction ts with
  | nil => exact absurd rfl h
  | cons u us ih =>
    by_cases hempty : us = []
    · simp [hempty, List.intercalate_cons_cons]
    · rw [List.cons_append, List.intercalate_cons_of_ne_nil (by simp), ih hempty,
        List.intercalate_cons_of_ne_nil hempty]
      simp only [List.append_assoc]

/-- A style is ended whatever the styled text holds. -/
theorem settles_styled (parameters : List Text) (t : Text) : Settles (styled parameters t) := by
  have hreset (s : EscapeState) : s.after (escape ['0']) = .outside := by cases s <;> rfl
  unfold Settles styled EscapeState.after at *
  rw [List.foldl_append, hreset]

theorem plain_append {t : Text} (ht : t.Settles) (u : Text) :
    plain (t ++ u) = plain t ++ plain u := by
  rw [plain, visible_append, ht]
  rfl

end Text

section

open Text

theorem settles_mark (e : Emphasis) (t : Text) : (e.mark t).Settles := settles_styled _ t

theorem settles_quote {before after : Text} (hbefore : '\x1b' ∉ before) (e : Emphasis) (t : Text)
    (hafter : '\x1b' ∉ after) : (before ++ e.mark t ++ after).Settles :=
  ((settles_of_free hbefore).append (settles_mark e t)).append (settles_of_free hafter)

theorem Parameter.settles_placeholder (p : Parameter) : p.placeholder.Settles := by
  cases p with
  | setting s => cases s <;> exact settles_of_free (by decide)
  | flag f => rfl
  | script => exact settles_of_free (by decide)

theorem Parameter.settles_markedForm (p : Parameter) : p.markedForm.Settles :=
  (settles_mark _ _).append p.settles_placeholder

theorem settles_usageLine (program : Text) {arguments : Text} (h : arguments.Settles) :
    (usageLine program arguments).Settles := by
  have hspace : ' ' ≠ '\x1b' := by decide
  exact ((settles_mark _ _).append ((settles_mark _ _).cons hspace)).append (h.cons hspace)

theorem settles_argumentsLike (given : List Parameter) : (argumentsLike given).Settles := by
  unfold argumentsLike
  split
  · exact settles_of_free (by decide)
  · refine .append (.flatMap fun p _ => ?_) ?_
    · exact p.settles_markedForm.append (settles_of_free (by decide))
    · split
      · exact settles_of_free (by decide)
      · exact Parameter.script.settles_placeholder

theorem settles_argumentsBeside (f : Flag) (first : Bool) : (argumentsBeside f first).Settles := by
  have hrest : '\x1b' ∉ if first then Parameter.script.placeholder
      else "<script|".toList ++ (Parameter.setting .format).form ++ '|' ::
        (Parameter.setting .color).form ++ ['>'] := by
    cases first <;> decide
  exact (Parameter.settles_markedForm _).append ((settles_of_free hrest).cons (by decide))

namespace ArgumentError

theorem settles_tip {advice : Text} (h : advice.Settles) : (tip advice).Settles :=
  ((settles_of_free (by decide)).append (settles_mark _ _)).append (h.cons (by decide))

theorem settles_similarTip {noun : String} (h : '\x1b' ∉ noun.toList) (similar : Text) :
    (similarTip noun similar).Settles := by
  refine settles_tip (settles_quote ?_ _ similar (by decide))
  simp only [List.mem_append, not_or]
  exact ⟨⟨by decide, h⟩, by decide⟩

theorem settles_escapeTip (argument : Text) : (escapeTip argument).Settles := by
  refine settles_tip (.append (.append ?_ (settles_mark _ _)) (settles_of_free (by decide)))
  exact settles_quote (by decide) _ argument (by decide)

theorem settles_unexpected (argument : Text) : (unexpected argument).Settles :=
  settles_quote (by decide) .wrong argument (by decide)

theorem settles_possibleValues (s : Setting) : (possibleValues s).Settles := by
  refine .append (.append (settles_of_free (by decide)) ?_) (settles_of_free (by decide))
  refine .intercalate (settles_of_free (by decide)) fun t ht => ?_
  obtain ⟨value, -, rfl⟩ := List.mem_map.mp ht
  exact settles_mark _ value

/-- A message ends with the hint, if no part of it brings an escape sequence to the hint. -/
theorem endsOtherwise_message {parts : List Text} (hne : parts ≠ [])
    (h : ∀ part ∈ parts, part.Settles) : (plain (message parts)).EndsOtherwise := by
  let head : Text := Emphasis.fault.mark "error:".toList ++ ' ' :: ['\n', '\n'].intercalate parts
  let hint : Text := "For more information, try '--help'.".toList
  have hparts : Settles (['\n', '\n'].intercalate parts) :=
    .intercalate (settles_of_free (by decide)) h
  have hhead : head.Settles := (settles_mark _ _).append (hparts.cons (by decide))
  have htail : plain (['\n', '\n'] ++ ("For more information, try '".toList ++
      Emphasis.literal.mark "--help".toList ++ "'.".toList) ++ ['\n']) =
      ['\n', '\n'] ++ hint ++ ['\n'] := by
    decide
  have hplain : plain (message parts) = (plain head ++ ['\n', '\n']) ++ hint ++ ['\n'] := by
    rw [List.append_assoc, List.append_assoc, ← List.append_assoc ['\n', '\n'], ← htail,
      ← plain_append hhead]
    unfold message
    simp only [intercalate_concat hne, head, List.append_assoc, List.cons_append]
  have hlast : LastLine (plain (message parts)) hint :=
    ⟨by decide, _, .inr (List.getLast?_append ..), hplain⟩
  exact hlast.endsOtherwise (by decide)

/-- Only what is wrong begins a message. -/
theorem head?_message (parts : List Text) : (plain (message parts)).head? = some 'e' := by
  have herror : plain (Emphasis.fault.mark "error:".toList) = "error:".toList := by decide
  unfold message
  dsimp only
  rw [List.append_assoc, plain_append (settles_mark _ _), herror]
  rfl

/-- What is wrong is said in parts. What the arguments bring into them is styled, so it cannot
reach beyond its part. -/
theorem exists_parts (program : Text) (environment : Option Text) {e : ArgumentError}
    (h : e.isAnswer = false) :
    ∃ parts, e.text program environment = plain (message parts) ∧ parts ≠ [] ∧
      ∀ part ∈ parts, part.Settles := by
  have hmessage {part : Text} {parts : List Text} (hpart : part.Settles)
      (hparts : ∀ part ∈ parts, part.Settles) :
      ∃ parts', plain (message (part :: parts)) = plain (message parts') ∧ parts' ≠ [] ∧
        ∀ part ∈ parts', part.Settles :=
    ⟨_, rfl, List.cons_ne_nil _ _, List.forall_mem_cons.mpr ⟨hpart, hparts⟩⟩
  have hany : (usageLine program anyArguments).Settles :=
    settles_usageLine program (settles_of_free (by decide))
  cases e with
  | unknownOption name similar given =>
    cases similar with
    | some p =>
      refine hmessage (settles_unexpected _) (List.forall_mem_cons.mpr ⟨?_, ?_⟩)
      · exact settles_similarTip (by decide) _
      · simpa using settles_usageLine program (settles_argumentsLike _)
    | none =>
      refine hmessage (settles_unexpected _) (List.forall_mem_cons.mpr ⟨?_, ?_⟩)
      · exact settles_escapeTip _
      · simpa using settles_usageLine program (settles_argumentsLike _)
  | unknownLetter letter =>
    refine hmessage (settles_unexpected _) (List.forall_mem_cons.mpr ⟨?_, by simpa using hany⟩)
    exact settles_escapeTip _
  | missingValue p =>
    refine hmessage (.append (settles_quote (by decide) _ _ (by decide)) ?_) (by simp)
    cases p with
    | setting s => exact settles_possibleValues s
    | flag f => rfl
    | script => rfl
  | invalidValue s value =>
    have hfault : Settles ("invalid value '".toList ++ Emphasis.wrong.mark value ++
        "' for '".toList ++ Emphasis.literal.mark (Parameter.setting s).form ++ ['\x27'] ++
        possibleValues s) := by
      refine .append (.append (.append ?_ (settles_mark _ _)) ?_) (settles_possibleValues s)
      · exact settles_quote (by decide) _ value (by decide)
      · exact settles_of_free (by decide)
    unfold text styledText
    dsimp only
    split
    · exact hmessage hfault (by simpa using settles_similarTip (by decide) _)
    · exact hmessage hfault (by simp)
  | repeated s => exact hmessage (settles_quote (by decide) _ _ (by decide)) (by simpa using hany)
  | unneededValue f value first =>
    refine hmessage (.append (.append ?_ (settles_mark _ _)) (settles_of_free (by decide)))
      (by simpa using settles_usageLine program (settles_argumentsBeside f first))
    exact settles_quote (by decide) _ value (by decide)
  | requested f => cases h

theorem endsOtherwise_text (program : Text) (environment : Option Text) {e : ArgumentError}
    (h : e.isAnswer = false) : (e.text program environment).EndsOtherwise := by
  obtain ⟨parts, htext, hne, hparts⟩ := exists_parts program environment h
  exact htext ▸ endsOtherwise_message hne hparts

theorem head?_text (program : Text) (environment : Option Text) {e : ArgumentError}
    (h : e.isAnswer = false) : (e.text program environment).head? = some 'e' := by
  obtain ⟨parts, htext, -, -⟩ := exists_parts program environment h
  exact htext ▸ head?_message parts

end ArgumentError

end

end LoxFrontEnd
