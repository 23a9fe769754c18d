import LoxFrontEnd.Text.Basic

/-!
# UTF-8

Bytes are read by a machine that holds at most one character under way. Bytes that cannot be part
of a well-formed sequence become U+FFFD, one for each longest stretch that begins like a sequence
but cannot be finished. As the machine looks at one byte at a time, reading two parts after each
other is reading their concatenation from the state in between (`decodeFrom_append`). A byte below
0x80 leaves no character under way, so input may be cut at line feeds before it is read
(`decode_append_ascii`).
-/
namespace LoxFrontEnd.Utf8

/-- The bytes that write a text. -/
def encode (t : Text) : List UInt8 := t.flatMap String.utf8EncodeChar

@[simp] theorem encode_nil : encode [] = [] := rfl

@[simp] theorem encode_append (s t : Text) : encode (s ++ t) = encode s ++ encode t :=
  List.flatMap_append

/-- Stands in for bytes that write no character. -/
def replacement : Char := '\uFFFD'

/-- A character whose bytes have not all been read: the bits so far, the number of bytes still
missing, and the range in which the next one has to lie. -/
structure UnderWay where
  bits : Nat
  missing : Nat
  low : Nat
  high : Nat
  /-- No byte below 0x80 is a later byte of a character. -/
  low_ge : 0x80 ≤ low
  deriving Repr, DecidableEq

/-- What a byte contributes: the characters finished by it, and the character it leaves under
way. -/
abbrev Reading := Text × Option UnderWay

/-- A byte where a character starts. The ranges for the second byte leave out the longer spellings
of shorter sequences, the surrogates, and what lies beyond U+10FFFF. -/
def start (b : UInt8) : Reading :=
  let n := b.toNat
  if n < 0x80 then ([Char.ofNat n], none)
  else if n < 0xC2 then ([replacement], none)
  else if n < 0xE0 then ([], some ⟨n - 0xC0, 1, 0x80, 0xBF, Nat.le_refl _⟩)
  else if n < 0xF0 then
    ([], some ⟨n - 0xE0, 2, if n = 0xE0 then 0xA0 else 0x80, if n = 0xED then 0x9F else 0xBF,
      by split <;> omega⟩)
  else if n < 0xF5 then
    ([], some ⟨n - 0xF0, 3, if n = 0xF0 then 0x90 else 0x80, if n = 0xF4 then 0x8F else 0xBF,
      by split <;> omega⟩)
  else ([replacement], none)

/-- A byte after those of the character under way. -/
def continue? (u : UnderWay) (b : UInt8) : Option Reading :=
  if u.low ≤ b.toNat ∧ b.toNat ≤ u.high then
    let bits := u.bits * 64 + (b.toNat - 0x80)
    if u.missing ≤ 1 then some ([Char.ofNat bits], none)
    else some ([], some ⟨bits, u.missing - 1, 0x80, 0xBF, Nat.le_refl _⟩)
  else none

/-- A byte that does not continue the character under way ends it, and starts another. -/
def step (state : Option UnderWay) (b : UInt8) : Reading :=
  match state with
  | none => start b
  | some u => (continue? u b).getD (replacement :: (start b).1, (start b).2)

def decodeFrom (state : Option UnderWay) : List UInt8 → Text
  | [] => match state with
    | none => []
    | some _ => [replacement]
  | b :: bs => (step state b).1 ++ decodeFrom (step state b).2 bs

/-- The text that bytes write, with U+FFFD where they write none. -/
def decode (bytes : List UInt8) : Text := decodeFrom none bytes

/-- The state after some bytes. -/
def stateAfter (state : Option UnderWay) : List UInt8 → Option UnderWay
  | [] => state
  | b :: bs => stateAfter (step state b).2 bs

/-- The characters finished within some bytes. -/
def finished (state : Option UnderWay) : List UInt8 → Text
  | [] => []
  | b :: bs => (step state b).1 ++ finished (step state b).2 bs

theorem decodeFrom_append (state : Option UnderWay) (xs ys : List UInt8) :
    decodeFrom state (xs ++ ys) = finished state xs ++ decodeFrom (stateAfter state xs) ys := by
  induction xs generalizing state with
  | nil => rfl
  | cons x xs ih => simp [decodeFrom, finished, stateAfter, ih]

theorem continue?_ascii (u : UnderWay) {b : UInt8} (hb : b.toNat < 0x80) :
    continue? u b = none := by
  have hlow := u.low_ge
  exact if_neg (by omega)

theorem start_ascii {b : UInt8} (hb : b.toNat < 0x80) : start b = ([Char.ofNat b.toNat], none) :=
  if_pos hb

/-- A byte below 0x80 ends whatever is under way and is a character by itself. -/
theorem decodeFrom_ascii (state : Option UnderWay) {b : UInt8} (hb : b.toNat < 0x80)
    (bs : List UInt8) :
    decodeFrom state (b :: bs) = decodeFrom state [] ++ Char.ofNat b.toNat :: decode bs := by
  cases state with
  | none => simp [decodeFrom, step, start_ascii hb, decode]
  | some u => simp [decodeFrom, step, continue?_ascii u hb, start_ascii hb, decode]

/-- Bytes may be cut in front of a byte below 0x80, and behind it, before they are read. -/
theorem decode_append_ascii (xs : List UInt8) {b : UInt8} (hb : b.toNat < 0x80)
    (ys : List UInt8) :
    decode (xs ++ b :: ys) = decode xs ++ Char.ofNat b.toNat :: decode ys := by
  have hxs := decodeFrom_append none xs []
  rw [List.append_nil] at hxs
  rw [decode, decodeFrom_append, decodeFrom_ascii _ hb, ← List.append_assoc, ← hxs]
  rfl

end LoxFrontEnd.Utf8
