import LoxFrontEnd.Token
import LoxFrontEnd.Text.Alphabetic
import LoxFrontEnd.Text.Numeric

/-!
# Lexemes

A program is cut from the left into lexemes: tokens, blanks, comments, and stretches of text that
are no part of the language. `takeFirst` takes the first lexeme off a text that is not empty, and
`cut` takes all of them. Nothing is lost (`takeFirst_append`, `join_cut`) and every lexeme takes
at least one character (`takeFirst_ne_nil`).
-/
namespace LoxFrontEnd

/-- Digits of number literals. -/
def isDigit (c : Char) : Bool := '0' ≤ c && c ≤ '9'

/-- The characters between tokens that mean nothing. -/
def isBlank (c : Char) : Bool := c == ' ' || c == '\r' || c == '\t' || c == '\n'

def isIdentifierStart (c : Char) : Bool := Text.isAlphabetic c || c == '_'

def isIdentifierPart (c : Char) : Bool := Text.isAlphabetic c || Text.isNumeric c || c == '_'

/-- What is wrong with a stretch of text. -/
inductive Fault
  | unexpectedCharacter
  | unterminatedString
  | numberTooLarge
  deriving DecidableEq, Repr

def Fault.message : Fault → Text
  | unexpectedCharacter => "Unexpected character.".toList
  | unterminatedString => "Unterminated string.".toList
  | numberTooLarge => "Number literal is too large.".toList

/-- What a lexeme is to the program. -/
inductive Role
  | token (kind : Kind) (literal : Option Literal)
  | fault (fault : Fault)
  | blank
  | comment
  deriving DecidableEq, Repr

/-- A stretch of text with its role. -/
structure Lexeme where
  text : Text
  role : Role
  deriving DecidableEq, Repr

namespace Lexeme

/-- A comment reaches to the end of its line and leaves the line feed. -/
def takeComment (cs : Text) : Lexeme × Text :=
  (⟨'/' :: cs.takeWhile (· != '\n'), .comment⟩, cs.dropWhile (· != '\n'))

/-- A string reaches to the next quote, across lines if need be. Without one it is a fault that
takes all the rest. -/
def takeString (cs : Text) : Lexeme × Text :=
  let value := cs.takeWhile (· != '"')
  match cs.dropWhile (· != '"') with
  | [] => (⟨'"' :: value, .fault .unterminatedString⟩, [])
  | quote :: rest => (⟨'"' :: value ++ [quote], .token .string (some (.string value))⟩, rest)

/-- The point and the digits after it, if a number goes on with both. -/
def fraction : Text → Text
  | point :: d :: cs => if point = '.' ∧ isDigit d then point :: d :: cs.takeWhile isDigit else []
  | _ => []

/-- A number literal has to have a finite value. -/
def numberRole (t : Text) : Role :=
  (Decimal.ofText t).nearest?.elim (.fault .numberTooLarge) fun value =>
    .token .number (some (.number value))

/-- A number is a run of digits, with a fraction if a digit follows the point. -/
def takeNumber (c : Char) (cs : Text) : Lexeme × Text :=
  let whole := cs.takeWhile isDigit
  let rest := cs.dropWhile isDigit
  let text := c :: whole ++ fraction rest
  (⟨text, numberRole text⟩, rest.drop (fraction rest).length)

/-- A word is reserved only as a whole. -/
def wordKind (t : Text) : Kind :=
  match Keyword.ofSpelling? t with
  | some k => .keyword k
  | none => .identifier

def takeWord (c : Char) (cs : Text) : Lexeme × Text :=
  let text := c :: cs.takeWhile isIdentifierPart
  (⟨text, .token (wordKind text) none⟩, cs.dropWhile isIdentifierPart)

/-- An operator of two characters goes before one of a single character. A character that starts
no lexeme is a fault by itself. -/
def takeOperator (c : Char) (cs : Text) : Lexeme × Text :=
  match Operator.ofSpelling? (c :: cs.take 1), Operator.ofSpelling? [c] with
  | some o, _ => (⟨c :: cs.take 1, .token (.operator o) none⟩, cs.drop 1)
  | none, some o => (⟨[c], .token (.operator o) none⟩, cs)
  | none, none => (⟨[c], .fault .unexpectedCharacter⟩, cs)

/-- Takes the first lexeme off the text `c :: cs`. -/
def takeFirst (c : Char) (cs : Text) : Lexeme × Text :=
  if isBlank c then (⟨[c], .blank⟩, cs)
  else if c = '"' then takeString cs
  else if isDigit c then takeNumber c cs
  else if isIdentifierStart c then takeWord c cs
  else if c = '/' ∧ cs.head? = some '/' then takeComment cs
  else takeOperator c cs

theorem fraction_append (t : Text) : fraction t ++ t.drop (fraction t).length = t := by
  unfold fraction
  split
  · split
    · simp only [List.length_cons, List.drop_succ_cons, List.cons_append, List.cons.injEq,
        true_and]
      rename_i cs _
      conv => rhs; rw [← List.takeWhile_append_dropWhile (p := isDigit) (l := cs)]
      conv => lhs; arg 2; arg 2; rw [← List.takeWhile_append_dropWhile (p := isDigit) (l := cs)]
      rw [List.drop_left]
    · rfl
  · rfl

/-- The lexeme and the rest make up the text again. -/
theorem takeFirst_append (c : Char) (cs : Text) :
    (takeFirst c cs).1.text ++ (takeFirst c cs).2 = c :: cs := by
  unfold takeFirst
  split
  · rfl
  split
  · rename_i hc
    subst hc
    simp only [takeString]
    have h := List.takeWhile_append_dropWhile (p := (· != '"')) (l := cs)
    split
    · rename_i hd
      rw [hd, List.append_nil] at h
      rw [List.append_nil, h]
    · rename_i hd
      rw [hd] at h
      simp only [List.cons_append, List.append_assoc, List.nil_append, h]
  split
  · simp only [takeNumber, List.cons_append, List.append_assoc, fraction_append,
      List.takeWhile_append_dropWhile]
  split
  · simp only [takeWord, List.cons_append, List.takeWhile_append_dropWhile]
  split
  · rename_i hc
    simp only [takeComment, List.cons_append, List.takeWhile_append_dropWhile, hc.1]
  · unfold takeOperator
    split
    · simp only [List.cons_append, List.take_append_drop]
    · rfl
    · rfl

/-- Every lexeme takes at least one character. -/
theorem takeFirst_ne_nil (c : Char) (cs : Text) : (takeFirst c cs).1.text ≠ [] := by
  unfold takeFirst takeString takeNumber takeWord takeComment takeOperator
  repeat' split
  all_goals simp

theorem length_takeFirst_le (c : Char) (cs : Text) : (takeFirst c cs).2.length ≤ cs.length := by
  have h := congrArg List.length (takeFirst_append c cs)
  have hpos := List.length_pos_iff.mpr (takeFirst_ne_nil c cs)
  simp only [List.length_append, List.length_cons] at h
  omega

/-- All lexemes of a text. -/
def cut : Text → List Lexeme
  | [] => []
  | c :: cs =>
    let first := takeFirst c cs
    first.1 :: cut first.2
termination_by t => t.length
decreasing_by exact Nat.lt_succ_of_le (length_takeFirst_le c cs)

@[simp] theorem cut_nil : cut [] = [] := by rw [cut]

theorem cut_cons (c : Char) (cs : Text) :
    cut (c :: cs) = (takeFirst c cs).1 :: cut (takeFirst c cs).2 := by rw [cut]

/-- The lexemes make up the whole text. -/
theorem join_cut (t : Text) : (cut t).flatMap text = t := by
  fun_induction cut t with
  | case1 => rfl
  | case2 c cs first ih =>
    rw [List.flatMap_cons, ih]
    exact takeFirst_append c cs

end Lexeme

end LoxFrontEnd
