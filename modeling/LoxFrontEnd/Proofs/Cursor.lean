import LoxFrontEnd.Proofs.Cut
import LoxFrontEnd.Proofs.Tiling
import LoxFrontEnd.Proofs.LineSpans

/-!
# Scanning by a cursor

A scanner that cuts nothing off its source but moves a cursor over it can miss the source: it can
step over the end, or read a stretch that is not there. The cursor below checks its positions and
fails if one is wrong: `advance?` needs a character to step over, and `slice?` needs a start that is
not behind the stop and a stop that is not behind the end. No check ever fails
(`cursor_stays_inside`), although the end of a source looks like a NUL in it, and what is found are
the tokens and the diagnostics of the source.
-/
namespace LoxFrontEnd

/-- How far a scan has come: where the lexeme under way starts, which character is next and on which
line, and what has been found so far. -/
structure Cursor where
  start : Nat
  current : Nat
  line : Nat
  tokens : List Token
  diagnostics : List Diagnostic

namespace Cursor

def initial : Cursor := ⟨0, 0, 1, [], []⟩

section Scanner

variable (source : Text)

def isAtEnd (c : Cursor) : Bool := source.length ≤ c.current

/-- The next character. At the end it is a NUL, but a source can hold a NUL as well. -/
def peek (c : Cursor) : Char := source[c.current]?.getD '\x00'

/-- The character after the next one. -/
def peekNext (c : Cursor) : Char := source[c.current + 1]?.getD '\x00'

/-- Steps over a character of the source, and fails at its end. -/
def advance? (c : Cursor) : Option Cursor :=
  if c.current < source.length then some { c with current := c.current + 1 } else none

/-- Steps over the next character if it is the expected one, and tells whether it was. -/
def matchChar? (c : Cursor) (expected : Char) : Option (Bool × Cursor) :=
  if c.isAtEnd source || c.peek source != expected then some (false, c)
  else (c.advance? source).map (true, ·)

/-- Counts the line that the next character ends, if lines are counted at all. -/
def countLine (c : Cursor) (counts : Bool) : Cursor :=
  if counts && c.peek source == '\n' then { c with line := c.line + 1 } else c

theorem current_countLine (c : Cursor) (counts : Bool) :
    (c.countLine source counts).current = c.current := by
  unfold countLine
  split <;> rfl

theorem advance?_eq_some {source : Text} {c d : Cursor} (h : c.advance? source = some d) :
    c.current < source.length ∧ d.current = c.current + 1 := by
  unfold advance? at h
  split_ifs at h with hlt
  cases h
  exact ⟨hlt, rfl⟩

/-- Steps over characters as long as a test holds, and counts their lines or not. -/
def advanceWhile? (test : Cursor → Bool) (counts : Bool) (c : Cursor) : Option Cursor :=
  if test c then
    match _h : (c.countLine source counts).advance? source with
    | some next => advanceWhile? test counts next
    | none => none
  else some c
termination_by source.length - c.current
decreasing_by
  obtain ⟨hlt, hnext⟩ := advance?_eq_some _h
  rw [current_countLine] at hlt hnext
  omega

/-- Steps over everything in front of a mark or the end of the source. -/
def advanceUntil? (c : Cursor) (mark : Char) (counts : Bool) : Option Cursor :=
  c.advanceWhile? source (fun c => c.peek source != mark && !c.isAtEnd source) counts

/-- Steps over characters of a class. There is no test for the end. -/
def advanceRun? (c : Cursor) (p : Char → Bool) : Option Cursor :=
  c.advanceWhile? source (fun c => p (c.peek source)) false

/-- Reads a stretch of the source, and fails if it does not lie within it. -/
def slice? (start stop : Nat) : Option Text :=
  if start ≤ stop ∧ stop ≤ source.length then some (Span.textOf ⟨start, stop⟩ source) else none

/-- The text of the lexeme under way, as far as it has been passed. -/
def lexeme? (c : Cursor) : Option Text := slice? source c.start c.current

def addLiteral? (c : Cursor) (kind : Kind) (literal : Option Literal) : Option Cursor :=
  (c.lexeme? source).map fun text =>
    { c with tokens := c.tokens ++ [⟨kind, text, literal, c.line⟩] }

def addToken? (c : Cursor) (kind : Kind) : Option Cursor := c.addLiteral? source kind none

def report (c : Cursor) (span : Span) (fault : Fault) : Cursor :=
  { c with diagnostics := c.diagnostics ++ [⟨c.line, [], fault.message, some span⟩] }

/-- Reads an operator that goes on with an equals sign or not. -/
def scanOperator? (c : Cursor) (short long : Operator) : Option Cursor := do
  let (isLong, c) ← c.matchChar? source '='
  c.addToken? source (.operator (if isLong then long else short))

/-- Reads on behind a slash. -/
def scanSlash? (c : Cursor) : Option Cursor := do
  let (isComment, c) ← c.matchChar? source '/'
  if isComment then c.advanceUntil? source '\n' false
  else c.addToken? source (.operator .slash)

/-- Reads on behind the opening quote. -/
def scanString? (c : Cursor) : Option Cursor := do
  let c ← c.advanceUntil? source '"' true
  if c.isAtEnd source then some (c.report ⟨c.start, c.current⟩ .unterminatedString)
  else do
    let c ← c.advance? source
    let value ← slice? source (c.start + 1) (c.current - 1)
    c.addLiteral? source .string (some (.string value))

/-- Steps over a point, if there is a digit behind it, and over the digits. -/
def advanceFraction? (c : Cursor) : Option Cursor :=
  if c.peek source == '.' && isDigit (c.peekNext source) then do
    let c ← c.advance? source
    c.advanceRun? source isDigit
  else some c

/-- Values the digits that have been passed, unless the number is too large. -/
def addNumber? (c : Cursor) : Option Cursor := do
  let text ← c.lexeme? source
  match (Decimal.ofText text).nearest? with
  | some value => c.addLiteral? source .number (some (.number value))
  | none => some (c.report ⟨c.start, c.current⟩ .numberTooLarge)

/-- Reads on behind the first digit. -/
def scanNumber? (c : Cursor) : Option Cursor := do
  let c ← c.advanceRun? source isDigit
  let c ← c.advanceFraction? source
  c.addNumber? source

/-- Reads on behind the first character of a word. -/
def scanWord? (c : Cursor) : Option Cursor := do
  let c ← c.advanceRun? source isIdentifierPart
  let text ← c.lexeme? source
  c.addToken? source (Lexeme.wordKind text)

/-- Reads on behind the first character of a lexeme. -/
def scanBehind? (c : Cursor) (first : Char) : Option Cursor :=
  match first with
  | '(' => c.addToken? source (.operator .leftParen)
  | ')' => c.addToken? source (.operator .rightParen)
  | '{' => c.addToken? source (.operator .leftBrace)
  | '}' => c.addToken? source (.operator .rightBrace)
  | ',' => c.addToken? source (.operator .comma)
  | '.' => c.addToken? source (.operator .dot)
  | '-' => c.addToken? source (.operator .minus)
  | '+' => c.addToken? source (.operator .plus)
  | ';' => c.addToken? source (.operator .semicolon)
  | '*' => c.addToken? source (.operator .star)
  | '!' => c.scanOperator? source .bang .bangEqual
  | '=' => c.scanOperator? source .equal .equalEqual
  | '<' => c.scanOperator? source .less .lessEqual
  | '>' => c.scanOperator? source .greater .greaterEqual
  | '/' => c.scanSlash? source
  | ' ' | '\r' | '\t' => some c
  | '\n' => some { c with line := c.line + 1 }
  | '"' => c.scanString? source
  | first =>
    if isDigit first then c.scanNumber? source
    else if isIdentifierStart first then c.scanWord? source
    else some (c.report ⟨c.start, c.start + 1⟩ .unexpectedCharacter)

/-- Reads the lexeme that begins with the next character. -/
def scanNext? (c : Cursor) : Option Cursor := do
  let first := c.peek source
  let c ← { c with start := c.current }.advance? source
  c.scanBehind? source first

/-- Reads lexemes to the end of the source, and fails if `limit` of them do not reach it. -/
def scanAll? : Nat → Cursor → Option Cursor
  | 0, c => if c.isAtEnd source then some c else none
  | limit + 1, c =>
    if c.isAtEnd source then some c else (c.scanNext? source).bind (scanAll? limit)

end Scanner

/-- The cursor behind a text that comes next. -/
def passing (c : Cursor) (t : Text) : Cursor :=
  { c with current := c.current + t.length, line := c.line + t.lineFeeds }

@[simp] theorem passing_nil (c : Cursor) : c.passing [] = c := rfl

@[simp] theorem passing_passing (c : Cursor) (s t : Text) :
    (c.passing s).passing t = c.passing (s ++ t) := by
  simp [passing, Nat.add_assoc]

theorem isAtEnd_eq (source : Text) (c : Cursor) :
    c.isAtEnd source = (source.drop c.current).isEmpty := by
  rw [isAtEnd, Bool.eq_iff_iff, decide_eq_true_iff, List.isEmpty_iff, List.drop_eq_nil_iff]

/-- The cursor has passed `taken` since the start of the lexeme, and `rest` comes next. -/
structure Holds (source : Text) (c : Cursor) (taken rest : Text) : Prop where
  start_le : c.start ≤ source.length
  drop_start : source.drop c.start = taken ++ rest
  current_eq : c.current = c.start + taken.length

open Lexeme

variable {source taken rest cs : Text} {c : Cursor} {d : Char}

namespace Holds

theorem drop_current (h : c.Holds source taken rest) : source.drop c.current = rest := by
  rw [h.current_eq, ← List.drop_drop, h.drop_start, List.drop_left]

theorem length_eq (h : c.Holds source taken rest) :
    source.length = c.current + rest.length := by
  have hlength := congrArg List.length h.drop_start
  have hstart := h.start_le
  rw [List.length_drop, List.length_append] at hlength
  rw [h.current_eq]
  omega

theorem passing (run : Text) (h : c.Holds source taken (run ++ rest)) :
    (c.passing run).Holds source (taken ++ run) rest where
  start_le := h.start_le
  drop_start := by rw [List.append_assoc, ← h.drop_start]; rfl
  current_eq := by simp [Cursor.passing, h.current_eq, Nat.add_assoc]

theorem isAtEnd_eq (h : c.Holds source taken rest) : c.isAtEnd source = rest.isEmpty := by
  rw [Cursor.isAtEnd_eq, h.drop_current]

theorem peek_eq (h : c.Holds source taken rest) : c.peek source = rest.head?.getD '\x00' := by
  rw [peek, ← h.drop_current, List.head?_drop]

theorem peekNext_eq (h : c.Holds source taken rest) : c.peekNext source = rest[1]?.getD '\x00' := by
  rw [peekNext, ← h.drop_current, List.getElem?_drop]

theorem lt_length (h : c.Holds source taken (d :: rest)) :
    c.current < source.length := by
  rw [h.length_eq, List.length_cons]
  omega

/-- There is a character to step over, and its line has been counted if it ends one. -/
theorem advance?_countLine (h : c.Holds source taken (d :: rest)) (counts : Bool)
    (hd : counts = true ∨ d ≠ '\n') :
    (c.countLine source counts).advance? source = some (c.passing [d]) := by
  have hpeek : c.peek source = d := h.peek_eq
  rw [advance?, if_pos (by rw [current_countLine]; exact h.lt_length), countLine, hpeek]
  by_cases hfeed : d = '\n'
  · obtain rfl := hd.resolve_right (not_not.mpr hfeed)
    simp [hfeed, Cursor.passing, Text.lineFeeds]
  · simp [hfeed, Cursor.passing, Text.lineFeeds]

theorem advance?_eq (h : c.Holds source taken (d :: rest)) (hd : d ≠ '\n') :
    c.advance? source = some (c.passing [d]) := h.advance?_countLine false (.inr hd)

theorem matchChar?_eq (h : c.Holds source taken rest) {expected : Char} (hfeed : expected ≠ '\n') :
    c.matchChar? source expected =
      if rest.head? = some expected then some (true, c.passing [expected])
      else some (false, c) := by
  rw [matchChar?, h.isAtEnd_eq, h.peek_eq]
  cases rest with
  | nil => rfl
  | cons d ds =>
    by_cases hd : d = expected
    · subst hd
      simp [h.advance?_eq hfeed]
    · simp [hd]

end Holds

theorem advanceWhile?_eq (source : Text) (test : Cursor → Bool) (counts : Bool) (c : Cursor) :
    c.advanceWhile? source test counts =
      if test c then ((c.countLine source counts).advance? source).bind
        (advanceWhile? source test counts) else some c := by
  rw [advanceWhile?]
  split
  · split <;> simp [*]
  · rfl

namespace Holds

/-- A loop whose test says no at the end of the source passes a run of characters, and no check
fails on the way. -/
theorem advanceWhile?_eq {test : Cursor → Bool} {counts : Bool} {p : Char → Bool}
    (htest : ∀ c taken rest, Holds source c taken rest → test c = rest.head?.any p)
    (hline : counts = true ∨ p '\n' = false) (h : c.Holds source taken rest) :
    c.advanceWhile? source test counts = some (c.passing (rest.takeWhile p)) := by
  induction rest generalizing c taken with
  | nil => simp [Cursor.advanceWhile?_eq, htest _ _ _ h]
  | cons d ds ih =>
    rw [Cursor.advanceWhile?_eq, htest _ _ _ h]
    cases hd : p d with
    | false => simp [hd]
    | true =>
      have hfeed : counts = true ∨ d ≠ '\n' := by
        refine hline.imp_right ?_
        rintro hp rfl
        rw [hp] at hd
        cases hd
      have hnext : (c.passing [d]).Holds source (taken ++ [d]) ds := h.passing [d]
      simp [hd, h.advance?_countLine counts hfeed, ih hnext]

/-- The test for the end keeps this loop within the source, as a NUL is not the mark. -/
theorem advanceUntil?_eq {mark : Char} {counts : Bool} (hline : counts = true ∨ mark = '\n')
    (h : c.Holds source taken rest) :
    c.advanceUntil? source mark counts = some (c.passing (rest.takeWhile (· != mark))) := by
  refine h.advanceWhile?_eq ?_ (hline.imp_right fun hmark => by simp [hmark])
  intro c taken rest h
  rw [h.peek_eq, h.isAtEnd_eq]
  cases rest <;> simp

/-- A NUL keeps this loop within the source, as it is not of the class. -/
theorem advanceRun?_eq {p : Char → Bool} (hnul : p '\x00' = false) (hfeed : p '\n' = false)
    (h : c.Holds source taken rest) :
    c.advanceRun? source p = some (c.passing (rest.takeWhile p)) := by
  refine h.advanceWhile?_eq ?_ (.inr hfeed)
  intro c taken rest h
  rw [h.peek_eq]
  cases rest <;> simp [hnul]

theorem passing_takeWhile (h : c.Holds source taken rest) (p : Char → Bool) :
    (c.passing (rest.takeWhile p)).Holds source (taken ++ rest.takeWhile p) (rest.dropWhile p) := by
  apply passing
  rwa [List.takeWhile_append_dropWhile]

end Holds

theorem slice?_eq {start : Nat} {t : Text} (hstart : start ≤ source.length)
    (h : source.drop start = t ++ rest) : slice? source start (start + t.length) = some t := by
  have hlength := congrArg List.length h
  rw [List.length_drop, List.length_append] at hlength
  unfold slice?
  rw [if_pos (by omega)]
  simp [Span.textOf, h]

theorem Holds.lexeme?_eq (h : c.Holds source taken rest) : c.lexeme? source = some taken := by
  rw [lexeme?, h.current_eq]
  exact slice?_eq h.start_le h.drop_start

/-- The cursor when a lexeme that begins at it has been read. -/
def behind (c : Cursor) (l : Lexeme) : Cursor :=
  let e : Element := ⟨l, c.current, c.line + l.text.lineFeeds⟩
  { start := e.start
    current := e.stop
    line := e.line
    tokens := c.tokens ++ [e].filterMap Element.token?
    diagnostics := c.diagnostics ++ [e].filterMap Element.diagnostic? }

namespace Holds

theorem start_eq (h : c.Holds source [] rest) : c.start = c.current := h.current_eq.symm

theorem addLiteral?_eq {t : Text} (h : c.Holds source [] (t ++ rest)) (kind : Kind)
    (literal : Option Literal) :
    (c.passing t).addLiteral? source kind literal = some (c.behind ⟨t, .token kind literal⟩) := by
  rw [addLiteral?, (h.passing t).lexeme?_eq]
  simp [behind, Cursor.passing, Element.token?, Element.diagnostic?, Element.stop, h.start_eq]

theorem addToken?_eq {t : Text} (h : c.Holds source [] (t ++ rest)) (kind : Kind) :
    (c.passing t).addToken? source kind = some (c.behind ⟨t, .token kind none⟩) :=
  h.addLiteral?_eq kind none

theorem report_eq (h : c.Holds source [] rest) (t : Text) (fault : Fault) :
    (c.passing t).report ⟨c.start, c.start + t.length⟩ fault = c.behind ⟨t, .fault fault⟩ := by
  simp [behind, report, Cursor.passing, Element.token?, Element.diagnostic?, Element.span,
    Element.stop, h.start_eq]

theorem passing_eq_behind (h : c.Holds source [] rest) {role : Role}
    (hrole : role = .blank ∨ role = .comment) (t : Text) : c.passing t = c.behind ⟨t, role⟩ := by
  obtain rfl | rfl := hrole <;>
    simp [behind, Cursor.passing, Element.token?, Element.diagnostic?, Element.stop, h.start_eq]

/-- The first character has been passed. -/
theorem passing_first (h : c.Holds source [] (d :: cs)) :
    (c.passing [d]).Holds source [d] cs := h.passing [d]

/-- An operator that none goes on from. -/
theorem addToken?_operator (h : c.Holds source [] (d :: cs)) {o : Operator} (ho : o.spelling = [d])
    (hlonger : ∀ e, Operator.ofSpelling? [d, e] = none) :
    (c.passing [d]).addToken? source (.operator o) = some (c.behind (takeOperator d cs).1) := by
  rw [takeOperator_short ho fun e _ => hlonger e]
  exact addToken?_eq (t := [d]) h _

/-- An operator that goes on with an equals sign or not. -/
theorem scanOperator?_eq (h : c.Holds source [] (d :: cs)) {short long : Operator}
    (hshort : short.spelling = [d]) (hlong : long.spelling = [d, '=']) :
    (c.passing [d]).scanOperator? source short long = some (c.behind (takeOperator d cs).1) := by
  rw [scanOperator?, h.passing_first.matchChar?_eq (by decide)]
  split_ifs with hhead
  · obtain ⟨es, rfl⟩ := List.head?_eq_some_iff.mp hhead
    rw [takeOperator_long hlong, passing_passing]
    exact addToken?_eq (t := [d, '=']) h _
  · have hlonger : ∀ e ∈ cs.head?, Operator.ofSpelling? [d, e] = none := by
      intro e he
      refine ofSpelling?_pair_eq_none ?_ d
      rintro rfl
      exact hhead he
    rw [takeOperator_short hshort hlonger]
    exact addToken?_eq (t := [d]) h _

theorem scanSlash?_eq (h : c.Holds source [] ('/' :: cs)) :
    (c.passing ['/']).scanSlash? source =
      some (c.behind (if cs.head? = some '/' then takeComment cs else takeOperator '/' cs).1) := by
  rw [scanSlash?, h.passing_first.matchChar?_eq (by decide)]
  split_ifs with hhead
  · obtain ⟨ds, rfl⟩ := List.head?_eq_some_iff.mp hhead
    have hslashes : (c.passing ['/', '/']).Holds source ['/', '/'] ds := h.passing ['/', '/']
    rw [passing_passing]
    change (c.passing ['/', '/']).advanceUntil? source '\n' false = _
    rw [hslashes.advanceUntil?_eq (.inr rfl), passing_passing, h.passing_eq_behind (.inr rfl)]
    simp [takeComment]
  · have hlonger : ∀ e, Operator.ofSpelling? ['/', e] = none := fun _ => rfl
    exact h.addToken?_operator rfl hlonger

/-- The text between the quotes is there to be read when the second of them has been passed. -/
theorem slice?_value {value : Text} (h : c.Holds source [] ('"' :: (value ++ '"' :: rest))) :
    slice? source (c.start + 1) ((c.passing ('"' :: value ++ ['"'])).current - 1) = some value := by
  have hstart : c.start + 1 ≤ source.length := h.start_eq ▸ h.lt_length
  have hdrop : source.drop (c.start + 1) = value ++ '"' :: rest := by
    rw [← List.drop_drop, h.drop_start]
    rfl
  have hlength : ('"' :: value ++ ['"']).length = value.length + 2 := by simp
  have hstop : (c.passing ('"' :: value ++ ['"'])).current - 1 = c.start + 1 + value.length := by
    rw [h.start_eq, Cursor.passing, hlength]
    dsimp only
    omega
  rw [hstop]
  exact slice?_eq hstart hdrop

theorem scanString?_eq (h : c.Holds source [] ('"' :: cs)) :
    (c.passing ['"']).scanString? source = some (c.behind (takeString cs).1) := by
  have hquote := Text.stops_dropWhile (· != '"') cs
  have hsplit := List.takeWhile_append_dropWhile (p := (· != '"')) (l := cs)
  have hvalue := h.passing_first.passing_takeWhile (· != '"')
  unfold scanString? takeString
  rw [h.passing_first.advanceUntil?_eq (.inl rfl)]
  generalize cs.takeWhile (· != '"') = value at *
  rw [passing_passing] at hvalue ⊢
  cases hdrop : cs.dropWhile (· != '"') with
  | nil =>
    rw [hdrop] at hvalue
    simp only [Option.bind_eq_bind, Option.bind_some, hvalue.isAtEnd_eq, List.isEmpty_nil, if_true,
      hvalue.current_eq]
    exact congrArg some (h.report_eq _ _)
  | cons quote after =>
    rw [hdrop] at hvalue hsplit hquote
    obtain rfl : quote = '"' := by simpa using hquote
    subst hsplit
    have hread := h.slice?_value
    simp only [Option.bind_eq_bind, Option.bind_some, hvalue.isAtEnd_eq, List.isEmpty_cons,
      hvalue.advance?_eq (show '"' ≠ '\n' by decide), passing_passing]
    change Option.bind
      (slice? source (c.start + 1) ((c.passing ('"' :: value ++ ['"'])).current - 1)) _ = _
    have hall : c.Holds source [] (('"' :: value ++ ['"']) ++ after) := by simpa using h
    rw [hread]
    exact hall.addLiteral?_eq _ _

/-- A digit behind the point is looked for two characters ahead, where the source may be over. -/
theorem advanceFraction?_eq (h : c.Holds source taken rest) :
    c.advanceFraction? source = some (c.passing (fraction rest)) := by
  have hnul : isDigit '\x00' = false := by decide
  unfold advanceFraction?
  rw [h.peek_eq, h.peekNext_eq]
  obtain _ | ⟨point, _ | ⟨d, ds⟩⟩ := rest
  · rfl
  · simp [hnul, fraction]
  by_cases hpoint : point = '.' ∧ isDigit d
  · obtain ⟨rfl, hd⟩ := hpoint
    have hnext : (c.passing ['.']).Holds source (taken ++ ['.']) (d :: ds) := h.passing ['.']
    simp [fraction, hd, h.advance?_eq (show '.' ≠ '\n' by decide),
      hnext.advanceRun?_eq hnul (by decide)]
  · simp [fraction, hpoint]

theorem addNumber?_eq {t : Text} (h : c.Holds source [] (t ++ rest)) :
    (c.passing t).addNumber? source = some (c.behind ⟨t, numberRole t⟩) := by
  have hall := h.passing t
  rw [addNumber?, hall.lexeme?_eq, hall.current_eq]
  obtain ⟨value, hvalue, hrole⟩ | ⟨hnone, hrole⟩ := numberRole_cases t
  · simp only [Option.bind_eq_bind, Option.bind_some, List.nil_append, hvalue, hrole]
    exact h.addLiteral?_eq _ _
  · simp only [Option.bind_eq_bind, Option.bind_some, List.nil_append, hnone, hrole]
    exact congrArg some (h.report_eq t _)

theorem scanNumber?_eq (h : c.Holds source [] (d :: cs)) :
    (c.passing [d]).scanNumber? source = some (c.behind (takeNumber d cs).1) := by
  have hwhole := h.passing_first.passing_takeWhile isDigit
  rw [passing_passing] at hwhole
  have hall : c.Holds source [] (d :: cs.takeWhile isDigit ++ fraction (cs.dropWhile isDigit) ++
      (cs.dropWhile isDigit).drop (fraction (cs.dropWhile isDigit)).length) := by
    rwa [List.append_assoc, fraction_append, List.cons_append, List.takeWhile_append_dropWhile]
  rw [scanNumber?, h.passing_first.advanceRun?_eq (by decide) (by decide)]
  simp only [Option.bind_eq_bind, Option.bind_some, passing_passing, hwhole.advanceFraction?_eq]
  exact hall.addNumber?_eq

theorem scanWord?_eq (h : c.Holds source [] (d :: cs)) :
    (c.passing [d]).scanWord? source = some (c.behind (takeWord d cs).1) := by
  have hall : c.Holds source []
      (d :: cs.takeWhile isIdentifierPart ++ cs.dropWhile isIdentifierPart) := by
    rwa [List.cons_append, List.takeWhile_append_dropWhile]
  have hword : lexeme? source (c.passing ([d] ++ cs.takeWhile isIdentifierPart)) =
      some (d :: cs.takeWhile isIdentifierPart) := (hall.passing _).lexeme?_eq
  rw [scanWord?, h.passing_first.advanceRun?_eq (by decide) (by decide), passing_passing]
  simp only [Option.bind_eq_bind, Option.bind_some, hword]
  exact hall.addToken?_eq _

/-- The operators are told apart by their first characters. -/
theorem scanBehind?_operator (h : c.Holds source [] (d :: cs)) {o : Operator}
    (ho : o.spelling = [d]) (hslash : d ≠ '/') :
    (c.passing [d]).scanBehind? source d = some (c.behind (takeOperator d cs).1) := by
  cases o <;> cases ho
  case slash => exact absurd rfl hslash
  case bang | equal | greater | less => exact h.scanOperator?_eq rfl rfl
  all_goals exact h.addToken?_operator rfl fun _ => rfl

end Holds

/-- The characters that `scanBehind?` tells apart one by one. -/
def marks : List Char :=
  ['(', ')', '{', '}', ',', '.', '-', '+', ';', '*', '!', '=', '<', '>', '/', ' ', '\r', '\t', '\n',
    '"']

/-- A character of a class without marks begins a number, a word or nothing. -/
theorem scanBehind?_of_class {p : Char → Bool} (hp : marks.all (!p ·) = true) (hd : p d)
    (c : Cursor) :
    c.scanBehind? source d =
      if isDigit d then c.scanNumber? source
      else if isIdentifierStart d then c.scanWord? source
      else some (c.report ⟨c.start, c.start + 1⟩ .unexpectedCharacter) := by
  have hmark : d ∉ marks := by
    intro hmem
    simpa [hd] using List.all_eq_true.mp hp d hmem
  unfold scanBehind?
  split
  case h_21 => rfl
  all_goals exact absurd (by decide) hmark

theorem scanBehind?_of_isDigit (hd : isDigit d) (c : Cursor) :
    c.scanBehind? source d = c.scanNumber? source := by
  rw [scanBehind?_of_class (p := isDigit) (by decide) hd, if_pos hd]

theorem scanBehind?_of_isIdentifierStart (hd : isIdentifierStart d) (c : Cursor) :
    c.scanBehind? source d = c.scanWord? source := by
  have hdigit : ¬isDigit d := by
    intro h
    simp [LexicalClass.isIdentifierStart_of_isDigit h] at hd
  rw [scanBehind?_of_class (p := isIdentifierStart) (by decide) hd, if_neg hdigit, if_pos hd]

theorem scanBehind?_of_opening (hd : LexicalClass.opening d = none) (c : Cursor) :
    c.scanBehind? source d = some (c.report ⟨c.start, c.start + 1⟩ .unexpectedCharacter) := by
  have hdigit : ¬isDigit d := by
    intro h
    simp [LexicalClass.opening_of_isDigit h] at hd
  have hword : ¬isIdentifierStart d := by
    intro h
    simp [LexicalClass.opening_of_isIdentifierStart h] at hd
  have hnone : (LexicalClass.opening d).isNone := by rw [hd]; rfl
  rw [scanBehind?_of_class (p := fun d => (LexicalClass.opening d).isNone) (by decide) hnone,
    if_neg hdigit, if_neg hword]

namespace Holds

/-- Whatever the first character is, what comes next is read as the lexeme that it begins. -/
theorem scanBehind?_eq (h : c.Holds source [] (d :: cs)) (hd : d ≠ '\n') :
    (c.passing [d]).scanBehind? source d = some (c.behind (takeFirst d cs).1) := by
  rw [takeFirst_eq]
  cases hopening : LexicalClass.opening d with
  | none =>
    have hslash : ¬(d = '/' ∧ cs.head? = some '/') := by
      rintro ⟨rfl, -⟩
      simp at hopening
    dsimp only
    rw [if_neg hslash, takeOperator_unexpected hopening, scanBehind?_of_opening hopening]
    exact congrArg some (h.report_eq [d] _)
  | some k =>
    have hk := LexicalClass.opening_eq_some hopening
    cases k with
    | blank =>
      obtain rfl | rfl | rfl : d = ' ' ∨ d = '\r' ∨ d = '\t' := by
        simpa [hd] using (LexicalClass.isBlank_iff d).mp hk
      all_goals exact congrArg some (h.passing_eq_behind (.inl rfl) _)
    | comment => exact hk.elim
    | operator =>
      obtain ⟨o, ho⟩ := hk
      by_cases hslash : d = '/'
      · subst hslash
        simp only [true_and]
        exact h.scanSlash?_eq
      · dsimp only
        rw [if_neg fun hcomment => hslash hcomment.1]
        exact h.scanBehind?_operator (Operator.spelling_of_ofSpelling? ho) hslash
    | string =>
      obtain rfl : d = '"' := hk
      exact h.scanString?_eq
    | number => rw [scanBehind?_of_isDigit hk]; exact h.scanNumber?_eq
    | word => rw [scanBehind?_of_isIdentifierStart hk]; exact h.scanWord?_eq

end Holds

/-- A cursor within the source is ready to read the rest of it. -/
theorem holds_rest (hc : c.current ≤ source.length) :
    { c with start := c.current }.Holds source [] (source.drop c.current) := ⟨hc, rfl, rfl⟩

/-- A turn of the loop reads the first lexeme of the rest, and none of its checks fails. -/
theorem scanNext?_eq (hrest : source.drop c.current = d :: cs) :
    c.scanNext? source = some (c.behind (takeFirst d cs).1) := by
  have hlt : c.current < source.length := by
    rw [← Nat.not_le, ← List.drop_eq_nil_iff, hrest]
    simp
  have h := holds_rest hlt.le
  rw [hrest] at h
  have hpeek : c.peek source = d := h.peek_eq
  rw [scanNext?, hpeek]
  by_cases hd : d = '\n'
  · subst hd
    rw [advance?, if_pos hlt]
    exact congrArg some (h.passing_eq_behind (.inl rfl) ['\n'])
  · rw [h.advance?_eq hd]
    exact h.scanBehind?_eq hd

theorem behind_takeFirst (hrest : source.drop c.current = d :: cs) :
    c.current < (c.behind (takeFirst d cs).1).current ∧
      (c.behind (takeFirst d cs).1).current ≤ source.length ∧
      source.drop (c.behind (takeFirst d cs).1).current = (takeFirst d cs).2 := by
  have happend := takeFirst_append d cs
  have hpos := List.length_pos_iff.mpr (takeFirst_ne_nil d cs)
  have hcurrent : (c.behind (takeFirst d cs).1).current =
      c.current + (takeFirst d cs).1.text.length := rfl
  rw [← hrest] at happend
  have hlength := congrArg List.length happend
  rw [List.length_append, List.length_drop] at hlength
  refine ⟨by omega, by omega, ?_⟩
  rw [hcurrent, ← List.drop_drop, ← happend, List.drop_left]

/-- The loop reads the lexemes of the rest one after the other. As each turn gets ahead, it takes no
more turns than there are characters. -/
theorem scanAll?_eq {limit : Nat} (hc : c.current ≤ source.length)
    (hlimit : source.length ≤ c.current + limit) :
    scanAll? source limit c = some ((cut (source.drop c.current)).foldl behind c) := by
  induction limit generalizing c with
  | zero =>
    rw [scanAll?, isAtEnd_eq, List.drop_eq_nil_of_le (by omega), cut_nil]
    rfl
  | succ limit ih =>
    rw [scanAll?, isAtEnd_eq]
    cases hrest : source.drop c.current with
    | nil =>
      rw [cut_nil]
      rfl
    | cons d cs =>
      obtain ⟨hahead, hinside, hdrop⟩ := behind_takeFirst hrest
      rw [if_neg (by simp), scanNext?_eq hrest, Option.bind_some, ih hinside (by omega), hdrop,
        cut_cons, List.foldl_cons]

/-- What has been found when several lexemes have been read. -/
theorem foldl_behind (ls : List Lexeme) (c : Cursor) :
    (ls.foldl behind c).current = c.current + (ls.flatMap text).length ∧
      (ls.foldl behind c).line = c.line + Text.lineFeeds (ls.flatMap text) ∧
      (ls.foldl behind c).tokens =
        c.tokens ++ (Element.place c.current c.line ls).filterMap Element.token? ∧
      (ls.foldl behind c).diagnostics =
        c.diagnostics ++ (Element.place c.current c.line ls).filterMap Element.diagnostic? := by
  induction ls generalizing c with
  | nil => simp [Element.place]
  | cons l ls ih =>
    obtain ⟨hcurrent, hline, htokens, hdiagnostics⟩ := ih (c.behind l)
    have hplace : Element.place c.current c.line (l :: ls) =
        [⟨l, c.current, c.line + l.text.lineFeeds⟩] ++
          Element.place (c.behind l).current (c.behind l).line ls := rfl
    rw [List.foldl_cons, hcurrent, hline, htokens, hdiagnostics, hplace, List.filterMap_append,
      List.filterMap_append, ← List.append_assoc, ← List.append_assoc]
    refine ⟨?_, ?_, rfl, rfl⟩
    · simp [behind, Element.stop, Nat.add_assoc]
    · simp [behind, Nat.add_assoc]

end Cursor

/-- From wherever in the source a turn of the loop starts, no check of it fails: the characters that
are stepped over are there, and so are the stretches from `start` to `current` and between quotes.
A turn gets ahead without getting over the end, so as many turns as the source has characters are
enough, and what they find are the tokens and the diagnostics of the source. -/
theorem cursor_stays_inside (source : Text) :
    (∀ c : Cursor, c.current < source.length → ∃ next, c.scanNext? source = some next ∧
      c.current < next.current ∧ next.current ≤ source.length) ∧
    ∃ last, Cursor.scanAll? source source.length .initial = some last ∧
      last.current = source.length ∧ last.tokens ++ [.endOfFile last.line] = tokens source ∧
      last.diagnostics = diagnostics source := by
  constructor
  · intro c hc
    have hrest : source.drop c.current ≠ [] := by simpa using hc
    obtain ⟨d, cs, hrest⟩ := List.exists_cons_of_ne_nil hrest
    obtain ⟨hahead, hinside, -⟩ := Cursor.behind_takeFirst hrest
    exact ⟨_, Cursor.scanNext?_eq hrest, hahead, hinside⟩
  · have hscan : Cursor.scanAll? source source.length .initial =
        some ((Lexeme.cut source).foldl Cursor.behind .initial) :=
      Cursor.scanAll?_eq (Nat.zero_le _) (Nat.le_add_left _ _)
    obtain ⟨hcurrent, hline, htokens, hdiagnostics⟩ :=
      Cursor.foldl_behind (Lexeme.cut source) .initial
    rw [Lexeme.join_cut] at hcurrent hline
    refine ⟨_, hscan, ?_, ?_, ?_⟩
    · simpa [Cursor.initial] using hcurrent
    · rw [htokens, hline]
      rfl
    · rw [hdiagnostics]
      rfl

/-- A NUL in a source is read like any other character and not taken for the end. -/
example : (Cursor.scanAll? ['\x00', ';'] 2 .initial).map (fun c => (c.current, c.diagnostics)) =
    some (2, [⟨1, [], Fault.unexpectedCharacter.message, some ⟨0, 1⟩⟩]) := by decide

end LoxFrontEnd
