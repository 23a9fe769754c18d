import LoxFrontEnd.Proofs.Tiling
import Mathlib.Data.List.Basic

/-!
# Essence

Blanks and comments mean nothing to a program. What is left of the cut of a text without them is
its essence, and tokens and messages, without their places, are read off it.
-/
namespace LoxFrontEnd

/-- A token without its line. -/
def Token.signature (t : Token) : Kind × Text × Option Literal := (t.kind, t.lexeme, t.literal)

namespace Lexeme

/-- Whether a lexeme means nothing to the program. -/
def isTrivia (l : Lexeme) : Bool :=
  match l.role with
  | .blank | .comment => true
  | .token _ _ | .fault _ => false

/-- The lexemes of a text that mean something. -/
def essence (t : Text) : List Lexeme := (cut t).filter (!·.isTrivia)

/-- Every string in a text has both its quotes. -/
def IsClosed (t : Text) : Prop := ∀ l ∈ cut t, l.role ≠ .fault .unterminatedString

theorem isClosed_iff_essence {t : Text} :
    IsClosed t ↔ ∀ l ∈ essence t, l.role ≠ .fault .unterminatedString := by
  constructor
  · intro h l hl
    exact h l (List.mem_filter.mp hl).1
  · intro h l hl hrole
    exact h l (List.mem_filter.mpr ⟨hl, by simp [isTrivia, hrole]⟩) hrole

def signature? (l : Lexeme) : Option (Kind × Text × Option Literal) :=
  match l.role with
  | .token kind literal => some (kind, l.text, literal)
  | .fault _ | .blank | .comment => none

def fault? (l : Lexeme) : Option Fault :=
  match l.role with
  | .fault fault => some fault
  | .token _ _ | .blank | .comment => none

theorem signature?_of_isTrivia {l : Lexeme} (h : l.isTrivia) : l.signature? = none := by
  cases hrole : l.role <;> simp_all [isTrivia, signature?]

theorem fault?_of_isTrivia {l : Lexeme} (h : l.isTrivia) : l.fault? = none := by
  cases hrole : l.role <;> simp_all [isTrivia, fault?]

theorem filterMap_essence {α : Type} {f : Lexeme → Option α}
    (hf : ∀ l : Lexeme, l.isTrivia → f l = none) (t : Text) :
    (essence t).filterMap f = (cut t).filterMap f := by
  rw [essence, List.filterMap_filter]
  refine List.filterMap_congr fun l _ => ?_
  cases hl : l.isTrivia with
  | true => simp [hf l hl]
  | false => simp

end Lexeme

namespace Element

theorem filterMap_place {α : Type} (f : Lexeme → Option α) (start line : Nat) (ls : List Lexeme) :
    (place start line ls).filterMap (fun e => f e.lexeme) = ls.filterMap f := by
  have hmap := congrArg (List.filterMap f) (map_lexeme_place start line ls)
  rwa [List.filterMap_map] at hmap

theorem map_signature_token? (e : Element) :
    e.token?.map Token.signature = e.lexeme.signature? := by
  cases hrole : e.lexeme.role <;> simp [token?, Lexeme.signature?, Token.signature, hrole]

/-- A fault is reported at its place, and its message does not know the place. -/
theorem diagnostic?_eq (e : Element) :
    e.diagnostic? = e.lexeme.fault?.map fun f => ⟨e.line, [], f.message, some e.span⟩ := by
  cases hrole : e.lexeme.role <;> simp [diagnostic?, Lexeme.fault?, hrole]

end Element

theorem filter_tokens (source : Text) :
    (tokens source).filter (·.kind ≠ .eof) = (scan source).filterMap Element.token? := by
  have hkeep : ∀ t ∈ (scan source).filterMap Element.token?, decide (t.kind ≠ .eof) = true := by
    intro t ht
    obtain ⟨e, he, het⟩ := List.mem_filterMap.mp ht
    simpa using Element.kind_ne_eof he het
  rw [tokens, List.filter_append, List.filter_eq_self.mpr hkeep]
  simp [Token.endOfFile]

theorem map_signature_tokens (source : Text) :
    ((scan source).filterMap Element.token?).map Token.signature =
      (Lexeme.essence source).filterMap Lexeme.signature? := by
  rw [Lexeme.filterMap_essence (fun _ => Lexeme.signature?_of_isTrivia), List.map_filterMap,
    ← Element.filterMap_place Lexeme.signature? 0 1]
  exact List.filterMap_congr fun e _ => e.map_signature_token?

theorem map_message_diagnostics (source : Text) :
    (diagnostics source).map Diagnostic.message =
      ((Lexeme.essence source).filterMap Lexeme.fault?).map Fault.message := by
  rw [Lexeme.filterMap_essence (fun _ => Lexeme.fault?_of_isTrivia), diagnostics,
    List.map_filterMap, ← Element.filterMap_place Lexeme.fault? 0 1, List.map_filterMap]
  refine List.filterMap_congr fun e _ => ?_
  rw [Element.diagnostic?_eq, Option.map_map]
  rfl

/-- A scan that reports no unterminated string has closed all of them. -/
theorem isClosed_of_diagnostics {source : Text}
    (h : ∀ d ∈ diagnostics source, d.message ≠ "Unterminated string.".toList) :
    Lexeme.IsClosed source := by
  intro l hl hrole
  rw [← Element.map_lexeme_place 0 1 (Lexeme.cut source)] at hl
  obtain ⟨e, he, rfl⟩ := List.mem_map.mp hl
  have hd : e.diagnostic? = some ⟨e.line, [], Fault.message .unterminatedString, some e.span⟩ := by
    rw [Element.diagnostic?, hrole]
  exact h _ (List.mem_filterMap.mpr ⟨e, he, hd⟩) rfl

end LoxFrontEnd
