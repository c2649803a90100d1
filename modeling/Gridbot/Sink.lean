import Gridbot.Output

/-!
# Sinks

An output in memory: a store of bytes that may hold only so many, and that counts how often it is
told to flush. A write that does not fit is refused, and the part that fits stays written.

* `bytes_write`, `bytes_flush`: what a write and a flush leave in the sink.
* `settled` tells the written bytes that an accepted flush has followed from those still held
  back.
-/

namespace Gridbot

/-- A store for written bytes. -/
structure Sink where
  /-- How many bytes it can hold in all, if there is a limit. -/
  capacity : Option Nat := none
  /-- Whether every flush is refused. -/
  refusesFlush : Bool := false
  /-- What was written so far. -/
  bytes : ByteArray := .empty
  /-- How often it was told to flush. -/
  flushes : Nat := 0
  /-- How many bytes were written before the latest accepted flush. -/
  settled : Nat := 0

namespace Sink

/-- How many of `count` further bytes fit behind `size` bytes. -/
def room (capacity : Option Nat) (size count : Nat) : Nat :=
  match capacity with
  | none => count
  | some most => min count (most - size)

/-- Writes what fits, and says whether that was all. -/
def write : Sink → ByteArray → Sink × Except SinkError Unit
  | ⟨capacity, refusesFlush, bytes, flushes, settled⟩, data =>
    let fitting := room capacity bytes.size data.size
    (⟨capacity, refusesFlush, bytes ++ data.extract 0 fitting, flushes, settled⟩,
      if fitting = data.size then .ok () else .error .full)

/-- Flushes, and says whether that was accepted. A refused flush counts too. -/
def flush : Sink → Sink × Except SinkError Unit
  | ⟨capacity, refusesFlush, bytes, flushes, settled⟩ =>
    if refusesFlush then
      (⟨capacity, refusesFlush, bytes, flushes + 1, settled⟩, .error .flushRefused)
    else (⟨capacity, refusesFlush, bytes, flushes + 1, bytes.size⟩, .ok ())

theorem bytes_write (s : Sink) (data : ByteArray) :
    (s.write data).1.bytes = s.bytes ++ data.extract 0 (room s.capacity s.bytes.size data.size) :=
  rfl

theorem bytes_flush (s : Sink) : s.flush.1.bytes = s.bytes := by
  unfold flush
  split
  split <;> rfl

instance : Output Sink where
  write := write
  flush := flush
  bytes := bytes
  bytes_write s data := by
    refine ⟨room s.capacity s.bytes.size data.size, bytes_write s data, fun h => ?_⟩
    cases Nat.decEq (room s.capacity s.bytes.size data.size) data.size with
    | isTrue hfits => exact Nat.le_of_eq hfits.symm
    | isFalse hunfit =>
      have hrefused : (s.write data).2 = .error .full := if_neg hunfit
      rw [hrefused] at h
      cases h
  bytes_flush := bytes_flush

@[simp] theorem output_write (s : Sink) (data : ByteArray) : Output.write s data = s.write data :=
  rfl

end Sink

end Gridbot
