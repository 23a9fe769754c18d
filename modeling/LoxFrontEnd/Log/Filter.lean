import LoxFrontEnd.Log.Event
import LoxFrontEnd.Log.Value

/-!
# Log filters

A filter is a list of directives. A directive says down to which level events are shown; it can be
for a target, named by the beginning of its name, and for events that have a certain field. Of the
directives that cover an event the most specific one decides. A filter is read from directives
between commas, and a filter that cannot be read shows nothing.
-/
namespace LoxFrontEnd.Log

/-- Shows events down to the level of rank `threshold`; 0 shows none. -/
structure Directive where
  /-- How the target begins; without it, any target will do. -/
  target : Option Text
  /-- A field that an event has to have. -/
  field : Option Text
  threshold : Nat
  deriving DecidableEq, Repr

namespace Directive

/-- Whether a directive is for an event. -/
def covers (d : Directive) (e : Event) : Bool :=
  d.target.all (·.isPrefixOf e.target.toList) && d.field.all (e.fieldNames.contains ·)

/-- Whether `d` is at least as specific as `e`: a longer target goes before a shorter one and any
target before none, then a field before none, and of two fields the later one in order. -/
def atLeast (d e : Directive) : Bool :=
  let length (d : Directive) : Nat := (d.target.map (·.length + 1)).getD 0
  if length d ≠ length e then length e < length d
  else match d.field, e.field with
    | some f, some g => !Text.before f g
    | none, some _ => false
    | _, none => true

end Directive

abbrev Filter := List Directive

namespace Filter

/-- The filter that shows nothing. -/
def off : Filter := []

/-- The most specific directive for an event, and of two alike the later one. -/
def deciding? (f : Filter) (e : Event) : Option Directive :=
  (f.filter (·.covers e)).foldl
    (fun best d => if best.all (d.atLeast ·) then some d else best) none

def enables (f : Filter) (e : Event) : Bool :=
  match f.deciding? e with
  | some d => e.level.rank ≤ d.threshold
  | none => false

@[simp] theorem enables_off (e : Event) : enables off e = false := rfl

/-- The rank named by a level, in letters of either case or as a number. -/
def threshold? (t : Text) : Option Nat :=
  let digits := if t.head? = some '+' then t.drop 1 else t
  if digits ≠ [] ∧ digits.all Char.isDigit then
    let n := Decimal.valueOf digits
    if n ≤ 5 then some n else none
  else
    match String.ofList (t.map Char.toLower) with
    | "off" => some 0
    | "error" => some 1
    | "warn" => some 2
    | "info" => some 3
    | "debug" => some 4
    | "trace" => some 5
    | _ => none

/-- The level behind an equals sign. Without one everything is shown. -/
def level? (t : Text) : Option Nat := if t = [] then some Level.trace.rank else threshold? t

/-- Whether a directive can begin with a character. -/
def isDirectiveStart (c : Char) : Bool :=
  c == '[' || c == '-' || c == ':' || c == '_' || Text.isAlphabetic c || Text.isNumeric c

/-- What stands between brackets: the name of a span, a field in braces, or both, and the text
behind the closing bracket. A part is what `cut` takes for it where it stands. -/
def brackets? (cut : Text → Text → Text) (t : Text) : Option (Option Text × Option Text × Text) :=
  let span := t.takeWhile fun c => c != ']' && c != '{'
  match t.drop span.length with
  | ']' :: rest => some (some (cut t span), none, rest)
  | '{' :: inner =>
    let field := inner.takeWhile (· != '}')
    match inner.drop field.length with
    | '}' :: ']' :: rest =>
      if field = [] then none
      else some (if span = [] then none else some (cut t span), some (cut inner field), rest)
    | _ => none
  | _ => none

/-- Whether what stands in braces asks for a value, unless that is none that can be asked for. The
value is what stands between the first equals sign and the next. -/
def asksValue? (field : Text) : Option Bool :=
  match field.dropWhile (· != '=') with
  | _ :: rest => if Value.isUsable (rest.takeWhile (· != '=')) then some true else none
  | [] => some false

/-- The bytes of `t` from `start` on, `length` of them at most, as a text. -/
def bytesOf (t : Text) (start length : Nat) : Text :=
  Utf8.decode (((Utf8.encode t).drop start).take length)

/-- Reads a directive: a level for everything, a target of which everything is shown, or a target,
brackets, or both, with the level behind an equals sign. There are no spans, and no event is asked
for the values of its fields, so a directive for either of these covers nothing. The places of the
parts are found without the blanks around a directive, but the parts are cut out of it with them;
so blanks in front move every part to the left. -/
def directives? (t : Text) : Option (List Directive) :=
  let size (t : Text) : Nat := (Utf8.encode t).length
  let body := Text.trim t
  let place (rest : Text) : Nat := size body - size rest
  let cut (rest part : Text) : Text := bytesOf t (place rest) (size part)
  let levelAt? (rest : Text) : Option Nat := level? (bytesOf t (place rest) (size t))
  let head := body.takeWhile fun c => c != '=' && c != '['
  let target : Option Text := if head = [] then none else some (cut body head)
  if !(body.head?.any isDirectiveStart) then none
  else
    match body.drop head.length with
    | '=' :: rest => (levelAt? rest).map fun n => [⟨target, none, n⟩]
    | '[' :: inner => do
      let (span, field, rest) ← brackets? cut inner
      let asksValue ← (field.map asksValue?).getD (some false)
      let threshold ← match rest with
        | [] => some Level.trace.rank
        | '=' :: rest => levelAt? rest
        | _ => none
      some (if span.isSome || asksValue then [] else [⟨target, field, threshold⟩])
    | _ => match threshold? t with
      | some n => some [⟨none, none, n⟩]
      | none => some [⟨some t, none, Level.trace.rank⟩]

/-- Reads directives between commas, of which empty ones mean nothing. Without any directive only
errors are shown. -/
def ofText? (t : Text) : Option Filter :=
  match (Text.cutAt ',' t).filter (· ≠ []) with
  | [] => some [⟨none, none, Level.error.rank⟩]
  | pieces => (pieces.mapM directives?).map List.flatten

/-- The filter asked for by a setting, which may be absent. -/
def ofSetting (setting : Option Text) : Filter := (setting.bind ofText?).getD off

end Filter

end LoxFrontEnd.Log
