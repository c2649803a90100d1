import Gridbot.Proofs.Settings.NumberPair
import Gridbot.Settings.Arguments

/-!
# Settings from arguments

A board and blocked cells are given by options, each with a long and a short name. The order of the
options and the names they are given by do not matter, since a grid keeps its blocked cells as a
set.

* `read_option`: an option takes the argument behind it, whatever that looks like.
* `read_settings`: what options with well-formed values leave in a request.
* `ofCells?_congr`: a grid depends on the members of the list of its cells only.
* `ofArguments_settings`: what the arguments of a board and of cells come to, and that a single
  ill-formed value spoils them.
-/

namespace Gridbot

/-! ## Options for the grid -/

/-- A setting of the grid as it is given, by the long or by the short name of its option. -/
inductive GridSetting
  | board (long : Bool) (b : BoardSize)
  | blocked (long : Bool) (c : Cell)
  deriving DecidableEq, Repr

namespace GridSetting

/-- The argument that names the option. -/
def spelling : GridSetting → String
  | board true _ => "--board"
  | board false _ => "-b"
  | blocked true _ => "--obstacle"
  | blocked false _ => "-o"

/-- The value of the option. -/
def value : GridSetting → String
  | board _ b => b.text
  | blocked _ c => Text.decimal c.x ++ "," ++ Text.decimal c.y

def arguments (e : GridSetting) : List String := [e.spelling, e.value]

def kind : GridSetting → OptionKind
  | board _ _ => .board
  | blocked _ _ => .obstacle

def board? : GridSetting → Option BoardSize
  | board _ b => some b
  | blocked _ _ => none

def cell? : GridSetting → Option Cell
  | board _ _ => none
  | blocked _ c => some c

/-- The error of a text that is no value of the option. -/
def refusal : GridSetting → String → ConfigError
  | board _ _ => .boardSize
  | blocked _ _ => .obstacle

theorem ofSpelling?_spelling (e : GridSetting) :
    OptionKind.ofSpelling? e.spelling = some e.kind := by
  rcases e with ⟨_ | _, _⟩ | ⟨_ | _, _⟩ <;> rfl

end GridSetting

/-! ## Settings in a request -/

namespace Request

/-- The request with the settings taken in as well. -/
def taking (r : Request) (items : List GridSetting) : Request :=
  { r with
    board := r.board <|> (items.filterMap GridSetting.board?).head?
    obstacles := (items.filterMap GridSetting.cell?).reverse ++ r.obstacles }

theorem taking_nil (r : Request) : r.taking [] = r := by
  obtain ⟨_, _, _, board, _, _⟩ := r
  cases board <;> rfl

theorem taking_cons (r : Request) (e : GridSetting) (items : List GridSetting) :
    (r.taking [e]).taking items = r.taking (e :: items) := by
  obtain ⟨_, _, _, board, _, _⟩ := r
  cases e <;> cases board <;>
    simp [taking, GridSetting.board?, GridSetting.cell?, List.filterMap_cons]

/-- A setting is taken, unless it is a second board. -/
theorem setOption_value {r : Request} {e : GridSetting} (h : e.board?.isSome → r.board = .none) :
    r.setOption e.value e.kind = .ok (r.taking [e]) := by
  obtain ⟨_, _, _, board, _, _⟩ := r
  cases e with
  | board long b =>
    have hboard : board = .none := h rfl
    subst hboard
    unfold setOption GridSetting.value GridSetting.kind
    dsimp only
    rw [BoardSize.parse_text]
    rfl
  | blocked long c =>
    unfold setOption GridSetting.value GridSetting.kind
    dsimp only
    rw [parseObstacle_decimal]
    cases board <;> rfl

/-- A text that is no pair of numbers is refused. -/
theorem setOption_of_not_written {r : Request} {e : GridSetting}
    (h : e.board?.isSome → r.board = .none) {text : String} (ht : ∀ a b, ¬WrittenPair a b text) :
    r.setOption text e.kind = .error (.config (e.refusal text)) := by
  cases e with
  | board long b =>
    unfold setOption GridSetting.kind
    dsimp only
    rw [h rfl, BoardSize.parse_eq_error_iff.2 ⟨rfl, ht⟩]
    rfl
  | blocked long c =>
    unfold setOption GridSetting.kind
    dsimp only
    rw [parseObstacle_eq_error_iff.2 ⟨rfl, ht⟩]
    rfl

/-! ## Reading -/

theorem spelling_of_ofSpelling? {a : String} {kind : OptionKind}
    (h : OptionKind.ofSpelling? a = some kind) :
    ¬(a = "--help" ∨ a = "help") ∧ a ≠ "--" ∧ a.toList.head? = some '-' := by
  unfold OptionKind.ofSpelling? at h
  split at h
  case h_6 => cases h
  all_goals decide

/-- An option takes the argument behind it as its value, whatever that looks like. -/
theorem read_option {r : Request} (hopen : r.optionsEnded = false) (hhelp : r.help = false)
    {a : String} {kind : OptionKind} (ha : OptionKind.ofSpelling? a = some kind) (value : String)
    (rest : List String) :
    r.read (a :: value :: rest) =
      match r.setOption value kind with
      | .ok r => r.read rest
      | .error e => .error (.badValue a value e) := by
  obtain ⟨hnoHelp, hnoEnd, hdash⟩ := spelling_of_ofSpelling? ha
  conv_lhs => unfold read
  rw [hopen, if_neg Bool.false_ne_true, if_neg hnoHelp, if_neg hnoEnd, if_pos hdash, hhelp,
    if_neg Bool.false_ne_true]
  generalize OptionKind.ofSpelling? a = found at ha
  subst ha
  rfl

/-- Options with well-formed values, of which at most one sets the board, are all taken. -/
theorem read_settings {r : Request} (hopen : r.optionsEnded = false) (hhelp : r.help = false)
    {items : List GridSetting}
    (hboard : (r.board.toList ++ items.filterMap GridSetting.board?).length ≤ 1)
    (rest : List String) :
    r.read (items.flatMap GridSetting.arguments ++ rest) = (r.taking items).read rest := by
  induction items generalizing r with
  | nil => rw [taking_nil]; rfl
  | cons e items ih =>
    have hfirst : e.board?.isSome → r.board = .none := by
      intro he
      obtain ⟨b, hb⟩ := Option.isSome_iff_exists.1 he
      cases hr : r.board with
      | none => rfl
      | some c =>
        rw [hr, List.filterMap_cons_some hb] at hboard
        simp at hboard
    have hboards : (r.taking [e]).board.toList ++ items.filterMap GridSetting.board? =
        r.board.toList ++ (e :: items).filterMap GridSetting.board? := by
      cases e with
      | board long b =>
        have hr : r.board = .none := hfirst rfl
        simp [taking, GridSetting.board?, hr]
      | blocked long c => simp [taking, GridSetting.board?, List.filterMap_cons]
    have hargs : (e :: items).flatMap GridSetting.arguments ++ rest =
        e.spelling :: e.value :: (items.flatMap GridSetting.arguments ++ rest) := rfl
    rw [hargs, read_option hopen hhelp e.ofSpelling?_spelling, setOption_value hfirst]
    dsimp only
    rw [ih (r := r.taking [e]) hopen hhelp (by rwa [hboards]), taking_cons]

end Request

/-! ## Grids -/

/-- A grid depends on the members of the list of its cells only. -/
theorem Grid.ofCells?_congr {l w : UInt32} {cells others : List Cell}
    (h : ∀ c, c ∈ cells ↔ c ∈ others) : ofCells? l w cells = ofCells? l w others := by
  cases hg : ofCells? l w others with
  | error e => exact ofCells?_eq_error_iff.2 (ofCells?_eq_error_iff.1 hg)
  | ok g =>
    obtain ⟨hl, hw, hmem⟩ := ofCells?_eq_ok_iff.1 hg
    exact ofCells?_eq_ok_iff.2 ⟨hl, hw, fun c => (hmem c).trans (h c).symm⟩

/-! ## Arguments -/

section
variable {l w : UInt32} {cells : List Cell} {items : List GridSetting}

/-- Options for a board and for cells are read as settings with that board and these cells. -/
theorem ofArguments_of_board (hboard : items.filterMap GridSetting.board? = [⟨l, w⟩]) :
    Invocation.ofArguments (items.flatMap GridSetting.arguments) =
      .ok (.run ⟨none, ⟨l, w⟩, items.filterMap GridSetting.cell?, .off⟩) := by
  have hread : Request.none.read (items.flatMap GridSetting.arguments ++ []) =
      (Request.none.taking items).read [] :=
    Request.read_settings rfl rfl (by rw [hboard]; exact Nat.le_refl 1) []
  rw [List.append_nil, Request.read] at hread
  unfold Invocation.ofArguments
  rw [hread]
  simp [Request.taking, Request.none, Request.settings, hboard]

/-- An ill-formed value among well-formed ones is refused. -/
theorem ofArguments_of_not_written {before after : List GridSetting} {item : GridSetting}
    (hboard : ((before ++ item :: after).filterMap GridSetting.board?).length ≤ 1) {bad : String}
    (hbad : ∀ a b, ¬WrittenPair a b bad) :
    Invocation.ofArguments (before.flatMap GridSetting.arguments ++
        item.spelling :: bad :: after.flatMap GridSetting.arguments) =
      .error (.badValue item.spelling bad (.config (item.refusal bad))) := by
  rw [List.filterMap_append, List.length_append] at hboard
  let rest := item.spelling :: bad :: after.flatMap GridSetting.arguments
  have hread : Request.none.read (before.flatMap GridSetting.arguments ++ rest) =
      (Request.none.taking before).read rest :=
    Request.read_settings rfl rfl (Nat.le_trans (Nat.le_add_right _ _) hboard) rest
  have hfirst : item.board?.isSome → (Request.none.taking before).board = .none := by
    intro hitem
    obtain ⟨b, hb⟩ := Option.isSome_iff_exists.1 hitem
    rw [List.filterMap_cons_some hb, List.length_cons] at hboard
    have hnil : before.filterMap GridSetting.board? = [] := List.length_eq_zero_iff.1 (by omega)
    simp [Request.taking, Request.none, hnil]
  unfold Invocation.ofArguments
  rw [hread, Request.read_option rfl rfl item.ofSpelling?_spelling,
    Request.setOption_of_not_written hfirst hbad]

/-- **Order and spelling do not matter.** Options for one board and for cells, in any order and
under any of their names, are read as settings whose grid is the one of that board and these cells,
or its error if a dimension is zero. With a text that is no pair of numbers in the place of any one
value, nothing is read. -/
theorem ofArguments_settings (hboard : items.filterMap GridSetting.board? = [⟨l, w⟩])
    (hcells : (items.filterMap GridSetting.cell?).Perm cells) :
    (∃ s, Invocation.ofArguments (items.flatMap GridSetting.arguments) = .ok (.run s) ∧
      (l = 0 ∨ w = 0 → s.grid = .error ⟨l, w⟩) ∧
      (¬(l = 0 ∨ w = 0) → ∃ g, Grid.ofCells? l w cells = .ok g ∧ s.grid = .ok g)) ∧
    ∀ before item after bad, items = before ++ item :: after → (∀ a b, ¬WrittenPair a b bad) →
      Invocation.ofArguments (before.flatMap GridSetting.arguments ++
          item.spelling :: bad :: after.flatMap GridSetting.arguments) =
        .error (.badValue item.spelling bad (.config (item.refusal bad))) := by
  constructor
  · refine ⟨_, ofArguments_of_board hboard, ?_, ?_⟩
    · intro hzero
      exact Grid.ofCells?_eq_error_iff.2 ⟨hzero, rfl⟩
    · intro hpos
      have hgrid := Grid.ofCells?_congr (l := l) (w := w) fun c => hcells.mem_iff (a := c)
      cases hg : Grid.ofCells? l w cells with
      | error e => exact absurd (Grid.ofCells?_eq_error_iff.1 hg).1 hpos
      | ok g => exact ⟨g, rfl, hgrid.trans hg⟩
  · rintro before item after bad rfl hbad
    exact ofArguments_of_not_written (by rw [hboard]; exact Nat.le_refl 1) hbad

/-- A cell given twice and one off the board, before and behind the board. -/
theorem ofArguments_settings_mixed :
    let items : List GridSetting :=
      [.blocked false ⟨1, 0⟩, .board true ⟨3, 2⟩, .blocked true ⟨4294967295, 7⟩,
        .blocked true ⟨1, 0⟩]
    let cells : List Cell := [⟨4294967295, 7⟩, ⟨1, 0⟩, ⟨1, 0⟩]
    items.flatMap GridSetting.arguments =
      ["-o", "1,0", "--board", "3,2", "--obstacle", "4294967295,7", "--obstacle", "1,0"] ∧
    items.filterMap GridSetting.board? = [⟨3, 2⟩] ∧
    (items.filterMap GridSetting.cell?).Perm cells ∧
    (∃ s g, Invocation.ofArguments (items.flatMap GridSetting.arguments) = .ok (.run s) ∧
      Grid.ofCells? 3 2 cells = .ok g ∧ s.grid = .ok g) ∧
    numberPair? "1,0,0" = none ∧
    Invocation.ofArguments ["-o", "1,0", "--board", "1,0,0", "--obstacle", "4294967295,7",
        "--obstacle", "1,0"] =
      .error (.badValue "--board" "1,0,0" (.config (.boardSize "1,0,0"))) := by
  intro items cells
  have harguments : items.flatMap GridSetting.arguments =
      ["-o", "1,0", "--board", "3,2", "--obstacle", "4294967295,7", "--obstacle", "1,0"] := by
    decide
  have hboard : items.filterMap GridSetting.board? = [⟨3, 2⟩] := by decide
  have hcells : (items.filterMap GridSetting.cell?).Perm cells := by decide
  have hbad : numberPair? "1,0,0" = none := by decide
  obtain ⟨⟨s, hs, -, hgrid⟩, herror⟩ := ofArguments_settings hboard hcells
  obtain ⟨g, hg, hsg⟩ := hgrid (by decide)
  have herror := herror [.blocked false ⟨1, 0⟩] (.board true ⟨3, 2⟩)
    [.blocked true ⟨4294967295, 7⟩, .blocked true ⟨1, 0⟩] "1,0,0" rfl
    (numberPair?_eq_none_iff.1 hbad)
  exact ⟨harguments, hboard, hcells, ⟨s, g, hs, hg, hsg⟩, hbad, herror⟩

end

end Gridbot
