import Gridbot.Arrival
import Gridbot.Session
import Gridbot.Text.Blank

/-!
# Dialogues

A session that takes its lines one by one as they arrive. Every line that is carried out is
followed by a flush, so that a report is never held back while the session waits. The words `EXIT`
and `QUIT`, an interrupt and the end of the input end the session, after one more flush; a failure
ends it at once.

* `react` handles one arrival, `converse` a whole sequence of them.
-/

namespace Gridbot

/-- Whether a session goes on after an arrival, or how it ends. -/
inductive Progress
  | goesOn
  | ends (result : Except SessionError Unit)

/-- The words that end a session. -/
def isExitWord (line : String) : Bool := line = "EXIT" || line = "QUIT"

namespace Session

variable {σ : Type} [Output σ]

/-- Ends a session with a last flush. -/
def leave (s : Session σ) : Session σ × Progress :=
  match s.flush with
  | (s, result) => (s, .ends result)

/-- Carries out a line and flushes. -/
def handle (s : Session σ) (line : String) : Session σ × Progress :=
  match s.executeLine line with
  | (s, .error e) => (s, .ends (.error e))
  | (s, .ok _) =>
    match s.flush with
    | (s, .ok ()) => (s, .goesOn)
    | (s, .error e) => (s, .ends (.error e))

/-- Handles one arrival. -/
def react (s : Session σ) : Arrival → Session σ × Progress
  | .line text =>
    let line := Text.trim text
    if isExitWord line then s.leave else s.handle line
  | .interrupt => (s.note .interrupted).leave
  | .endOfInput => (s.note .endOfInput).leave
  | .unreadable => (s, .ends (.error .lineNotRead))

/-- Handles arrivals until the session ends. When there are no more, the input is at its end. -/
def converse (s : Session σ) : List Arrival → Session σ × Except SessionError Unit
  | [] => (s.note .endOfInput).flush
  | a :: rest =>
    match s.react a with
    | (s, .goesOn) => s.converse rest
    | (s, .ends result) => (s, result)

end Session

end Gridbot
