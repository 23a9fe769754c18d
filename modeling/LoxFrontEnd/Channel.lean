import LoxFrontEnd.Failure
import LoxFrontEnd.Text.Utf8

/-!
# Channels

A channel is where output goes. It keeps what is written to it, may have room for a certain number
of bytes only, and may fail to hand on what it keeps. Writing more than there is room for keeps
as much as fits and fails.
-/
namespace LoxFrontEnd

structure Channel where
  /-- Bytes that can still be written; `none` is no limit. -/
  room : Option Nat
  /-- What a write reports that finds too little room. -/
  refusal : Failure
  /-- What handing on reports, if it fails. -/
  flushFailure : Option Failure
  /-- The bytes kept. -/
  kept : Array UInt8
  deriving Repr

namespace Channel

/-- A channel that takes everything. -/
def unlimited : Channel := ⟨none, .kind .other, none, #[]⟩

/-- A channel that takes `room` bytes and then fails. -/
def limited (room : Nat) (refusal : Failure) : Channel := ⟨some room, refusal, none, #[]⟩

/-- Writes bytes as far as there is room. -/
def writeBytes (c : Channel) (bytes : List UInt8) : Option Failure × Channel :=
  match c.room with
  | none => (none, { c with kept := c.kept ++ bytes })
  | some room =>
    (if bytes.length ≤ room then none else some c.refusal,
      { c with kept := c.kept ++ bytes.take room, room := some (room - bytes.length) })

def write (c : Channel) (t : Text) : Option Failure × Channel := c.writeBytes (Utf8.encode t)

/-- Writes a text and hands on what is kept. -/
def writeFlushed (c : Channel) (t : Text) : Option Failure × Channel :=
  let (failure, c) := c.write t
  (failure.or c.flushFailure, c)

/-- What a channel without a limit keeps. -/
theorem writeBytes_unlimited {c : Channel} (h : c.room = none) (bytes : List UInt8) :
    c.writeBytes bytes = (none, { c with kept := c.kept ++ bytes }) := by
  simp [writeBytes, h]

/-- A write fails exactly if there is too little room. -/
theorem writeBytes_failure {c : Channel} {room : Nat} (h : c.room = some room)
    (bytes : List UInt8) :
    (c.writeBytes bytes).1 = if bytes.length ≤ room then none else some c.refusal := by
  simp [writeBytes, h]

/-- A channel keeps the first bytes that are written to it. -/
theorem kept_writeBytes {c : Channel} {room : Nat} (h : c.room = some room)
    (bytes : List UInt8) :
    (c.writeBytes bytes).2.kept.toList = c.kept.toList ++ bytes.take room := by
  simp [writeBytes, h]

end Channel

end LoxFrontEnd
