/-!
# Headings

The four directions a robot can face, in clockwise order, with the quarter turns and the
upper-case token that stands for each direction in instructions and reports.

* `index` counts them clockwise; `right`, `flip` and `left` are one, two and three quarter turns.
* `ofToken?` reads exactly the four tokens that `token` writes.
-/

namespace Gridbot

/-- North is towards larger `y`, east towards larger `x`. -/
inductive Heading
  | north | east | south | west
  deriving DecidableEq, Repr

namespace Heading

/-- Every heading, clockwise from north. -/
def all : List Heading := [north, east, south, west]

/-- The place of a heading in `all`. -/
def index : Heading → Nat
  | north => 0
  | east => 1
  | south => 2
  | west => 3

/-! ## Turning -/

/-- A quarter turn counter-clockwise. -/
def left : Heading → Heading
  | north => west
  | west => south
  | south => east
  | east => north

/-- A quarter turn clockwise. -/
def right : Heading → Heading
  | north => east
  | east => south
  | south => west
  | west => north

/-- A half turn. -/
def flip : Heading → Heading
  | north => south
  | south => north
  | east => west
  | west => east

@[simp] theorem flip_flip (h : Heading) : h.flip.flip = h := by cases h <;> rfl

/-! ## Tokens -/

/-- The word for a heading in instructions and reports. -/
def token : Heading → String
  | north => "NORTH"
  | east => "EAST"
  | south => "SOUTH"
  | west => "WEST"

/-- The heading a token stands for. Case matters and nothing is trimmed. -/
def ofToken? : String → Option Heading
  | "NORTH" => some north
  | "EAST" => some east
  | "SOUTH" => some south
  | "WEST" => some west
  | _ => none

/-- The capitalised name, as log messages show it. -/
def name : Heading → String
  | north => "North"
  | east => "East"
  | south => "South"
  | west => "West"

@[simp] theorem ofToken?_token (h : Heading) : ofToken? h.token = some h := by cases h <;> rfl

theorem ofToken?_eq_some_iff {text : String} {h : Heading} :
    ofToken? text = some h ↔ text = h.token := by
  constructor
  · intro hyp
    unfold ofToken? at hyp
    split at hyp <;> cases hyp <;> rfl
  · rintro rfl
    exact ofToken?_token h

end Heading

end Gridbot
