/-!
# Outputs

Anything that reports can be written to. What it takes, and whether it refuses, is up to it: it may
refuse one write and take the next. It promises only that it takes a write from the front and keeps
what it took, and that a write it does not refuse was taken as a whole.
-/

namespace Gridbot

/-- Why an output refuses. -/
inductive SinkError
  /-- A byte did not fit. -/
  | full
  /-- The sink does not flush. -/
  | flushRefused
  /-- Another cause, in the words of the output. -/
  | other (message : String)
  deriving DecidableEq, Repr

/-- The text of a refusal. -/
def SinkError.message : SinkError → String
  | full => "sink is full"
  | flushRefused => "flush refused"
  | other message => message

/-- Something to write to. -/
class Output (σ : Type) where
  /-- Writes bytes, and says whether they were taken as a whole. -/
  write : σ → ByteArray → σ × Except SinkError Unit
  flush : σ → σ × Except SinkError Unit
  /-- What was taken so far. -/
  bytes : σ → ByteArray
  bytes_write : ∀ s data, ∃ count, bytes (write s data).1 = bytes s ++ data.extract 0 count ∧
    ((write s data).2 = .ok () → data.size ≤ count)
  bytes_flush : ∀ s, bytes (flush s).1 = bytes s

end Gridbot
