import LoxFrontEnd.Log.Pattern.Item
import LoxFrontEnd.Text.Alphabetic
import LoxFrontEnd.Text.Numeric

/-!
# Patterns

A log filter may ask for the value of a field by a regular expression. Whether the filter can be
read at all hangs on that expression: it has to be well formed, may not be nested too deeply, and
may only use items that its flags admit. This is checked in one pass from the left that keeps the
groups and brackets that are open and how deep they are. A pattern in a filter ends before the first
`}`, so nothing that needs one can be written.
-/
namespace LoxFrontEnd.Log.Pattern

/-- Parts that stand side by side: how many, and how deep the deepest of them is. -/
structure Row where
  count : Nat
  depth : Nat
  deriving DecidableEq, Repr

namespace Row

def empty : Row := ⟨0, 0⟩

def add (r : Row) (depth : Nat) : Row := ⟨r.count + 1, max r.depth depth⟩

/-- Two parts or more are a level of their own. -/
def whole (r : Row) : Nat := if r.count ≤ 1 then r.depth else r.depth + 1

end Row

/-- The depth of a part that is joined to what stands in front of it, if anything does. -/
def joined (front : Option Nat) (depth : Nat) : Nat :=
  match front with
  | none => depth
  | some d => max d depth + 1

/-- What has been read of a group, or of a pattern outside of all groups. -/
structure Body where
  /-- The branch that is being read. -/
  row : Row
  /-- The depth of the last part of the branch, if it can be repeated. -/
  last : Option Nat
  /-- The depth of the deepest of the branches in front. -/
  branches : Option Nat
  deriving DecidableEq, Repr

namespace Body

def empty : Body := ⟨.empty, none, none⟩

def add (b : Body) (depth : Nat) : Body := { b with row := b.row.add depth, last := some depth }

/-- Adds a part that only switches flags, which cannot be repeated. -/
def addSwitch (b : Body) : Body := { b with row := b.row.add 0, last := none }

/-- Repeats the last part. -/
def repeat? (b : Body) : Option Body :=
  b.last.map fun d =>
    { b with row := { b.row with depth := max b.row.depth (d + 1) }, last := some (d + 1) }

/-- Begins another branch. -/
def branch (b : Body) : Body := ⟨.empty, none, some (max (b.branches.getD 0) b.row.whole)⟩

def depth (b : Body) : Nat := joined b.branches b.row.whole

end Body

/-- What has been read in brackets. -/
structure Members where
  negated : Bool
  /-- Whether nothing but hyphens has been read. -/
  atStart : Bool
  row : Row
  /-- The depth of what stands in front of the last operator. -/
  front : Option Nat
  deriving DecidableEq, Repr

namespace Members

def add (m : Members) (depth : Nat) : Members := { m with atStart := false, row := m.row.add depth }

def depth (m : Members) : Nat := joined m.front m.row.whole

/-- Begins what stands behind an operator. -/
def operate (m : Members) : Members := ⟨m.negated, false, .empty, some m.depth⟩

end Members

/-- How far a pattern has been read. -/
structure State where
  flags : Flags
  /-- The names of groups, none of which may come again. -/
  names : List Text
  body : Body
  /-- The groups that are open, the innermost first: the flags to return to, and what has been read
  in front. -/
  groups : List (Flags × Body)
  /-- The brackets that are open, the innermost first. -/
  sets : List Members
  deriving DecidableEq, Repr

namespace State

def initial : State := ⟨.initial, [], .empty, [], []⟩

def add (s : State) (depth : Nat) : State := { s with body := s.body.add depth }

/-- Opens a group in which other flags may hold. -/
def openGroup (s : State) (flags : Flags) : State :=
  { s with flags := flags, body := .empty, groups := (s.flags, s.body) :: s.groups }

def closeGroup? (s : State) : Option State :=
  match s.groups with
  | [] => none
  | (flags, front) :: outer =>
    some { s with flags := flags, body := front.add (s.body.depth + 1), groups := outer }

/-- Opens a group with a name, which begins behind `<`. -/
def openNamed? (s : State) (t : Text) : Option (State × Text) :=
  let name := t.takeWhile (· != '>')
  let isFirst (c : Char) : Bool := c == '_' || Text.isAlphabetic c
  let isFurther (c : Char) : Bool :=
    isFirst c || c == '.' || c == '[' || c == ']' || Text.isNumeric c
  match t.drop name.length with
  | '>' :: rest =>
    if name.head?.any isFirst ∧ name.all isFurther ∧ !s.names.contains name then
      some ({ s.openGroup s.flags with names := name :: s.names }, rest)
    else none
  | _ => none

/-- Switches flags, to the end of the group or for a group that begins here. The text in front has
been read up to `(?`. -/
def switch? (s : State) (t : Text) : Option (State × Text) := do
  let letters := t.takeWhile fun c => c != ':' && c != ')'
  let flags ← s.flags.after? letters
  match t.drop letters.length with
  | ':' :: rest => some (s.openGroup flags, rest)
  | ')' :: rest =>
    if letters = [] then none else some ({ s with flags := flags, body := s.body.addSwitch }, rest)
  | _ => none

/-- What a parenthesis begins. -/
def parenthesis? (s : State) (t : Text) : Option (State × Text) :=
  match s.flags.skip t with
  | '?' :: 'P' :: '<' :: rest | '?' :: '<' :: rest => s.openNamed? rest
  | '?' :: rest => s.switch? rest
  | rest => some (s.openGroup s.flags, rest)

/-- Opens brackets inside of those that are open already. -/
def openSet (s : State) (t : Text) : State × Text :=
  let opened (negated : Bool) : State := { s with sets := ⟨negated, true, .empty, none⟩ :: s.sets }
  match s.flags.skip t with
  | '^' :: rest => (opened true, rest)
  | rest => (opened false, rest)

/-- The state after a character outside of brackets, and the text behind what it begins. -/
def inBody? (s : State) (c : Char) (t : Text) : Option (State × Text) :=
  match c with
  | '(' => s.parenthesis? t
  | ')' => s.closeGroup?.map (·, t)
  | '|' => some ({ s with body := s.body.branch }, t)
  | '[' => some (s.openSet t)
  | '?' | '*' | '+' =>
    s.body.repeat?.map fun b => ({ s with body := b }, if t.head? = some '?' then t.drop 1 else t)
  | '{' => none
  | '.' => if s.flags.unicode then some (s.add 0, t) else none
  | '^' | '$' => some (s.add 0, t)
  | _ => do
    let (item, rest) ← item? s.flags c t
    if s.flags.admits item then some (s.add 0, rest) else none

/-- Closes the innermost brackets `m`. -/
def closeSet? (s : State) (m : Members) (outer : List Members) : Option State :=
  let depth := m.depth + 1
  if !s.flags.admitsSet m.negated then none
  else match outer with
    | [] => some { s.add depth with sets := [] }
    | around :: outer => some { s with sets := around.add depth :: outer }

/-- The state after a character in brackets, of which `m` are the innermost, and the text behind
what it begins. At the start of brackets hyphens, and a closing bracket that comes first, stand for
themselves. -/
def inSet? (s : State) (m : Members) (outer : List Members) (c : Char) (t : Text) :
    Option (State × Text) :=
  let withMembers (m : Members) : State := { s with sets := m :: outer }
  if m.atStart ∧ (c = '-' ∨ c = ']' ∧ m.row.count = 0) then
    if s.flags.admitsMember (.literal c false) then
      some (withMembers { m.add 0 with atStart := c == '-' }, t)
    else none
  else if c = '[' then
    match named? t with
    | some (negated, rest) =>
      if s.flags.admitsNamed negated then some (withMembers (m.add 0), rest) else none
    | none => some ((withMembers { m with atStart := false }).openSet t)
  else if c = ']' then (s.closeSet? m outer).map (·, t)
  else if (c = '&' ∨ c = '-' ∨ c = '~') ∧ t.head? = some c then
    some (withMembers m.operate, t.drop 1)
  else (member? s.flags c t).map (withMembers (m.add 0), ·)

def next? (s : State) (c : Char) (t : Text) : Option (State × Text) :=
  match s.sets with
  | [] => s.inBody? c t
  | m :: outer => s.inSet? m outer c t

/-- The state at the end of a text. Every step leaves less of the text. -/
def finish? (s : State) (t : Text) : Option State :=
  match s.flags.skip t with
  | [] => some s
  | c :: behind => do
    let (s, rest) ← s.next? c behind
    if rest.length < t.length then finish? s rest else none
termination_by t.length

end State

/-- How deep the parts of a pattern may be nested. -/
def maximumDepth : Nat := 250

/-- Whether a text is a pattern that can be used. -/
def isUsable (t : Text) : Bool :=
  match State.initial.finish? t with
  | some s => s.groups.isEmpty && s.sets.isEmpty && s.body.depth ≤ maximumDepth
  | none => false

end LoxFrontEnd.Log.Pattern
