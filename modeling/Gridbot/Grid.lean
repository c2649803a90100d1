import Gridbot.Cell

/-!
# Grids

The rectangle a robot lives on: cells `x < length`, `y < width`, of which a fixed set is blocked.

* A grid keeps its blocked cells in increasing order without repeats, so two grids are equal
  exactly when their dimensions and their blocked sets are (`Grid.ext_of_mem`).
* `Grid.ofCells?` fails exactly when a dimension is zero; blocked cells off the rectangle are kept
  and have no effect on `isOpen`.
-/

namespace Gridbot

/-! ## Ordered cell lists -/

/-- Adds a cell to an increasing list at its place, unless it is there already. -/
def insertCell (c : Cell) : List Cell → List Cell
  | [] => [c]
  | d :: ds =>
    if c.before d then c :: d :: ds
    else if c = d then d :: ds
    else d :: insertCell c ds

/-- The cells of a list in increasing order, each once. -/
def sortCells (cs : List Cell) : List Cell := cs.foldr insertCell []

theorem mem_insertCell {a c : Cell} {cs : List Cell} : a ∈ insertCell c cs ↔ a = c ∨ a ∈ cs := by
  induction cs with
  | nil => simp [insertCell]
  | cons d ds ih =>
    unfold insertCell
    split
    · simp
    · split
      · rename_i h
        subst h
        simp
      · simp only [List.mem_cons, ih]
        constructor
        · rintro (h | h | h) <;> simp [h]
        · rintro (h | h | h) <;> simp [h]

theorem mem_sortCells {a : Cell} {cs : List Cell} : a ∈ sortCells cs ↔ a ∈ cs := by
  induction cs with
  | nil => simp [sortCells]
  | cons c cs ih =>
    unfold sortCells at ih ⊢
    rw [List.foldr_cons, mem_insertCell, ih, List.mem_cons]

theorem pairwise_insertCell {c : Cell} {cs : List Cell}
    (h : cs.Pairwise (fun a b => a.before b)) :
    (insertCell c cs).Pairwise (fun a b => a.before b) := by
  induction cs with
  | nil => simp [insertCell]
  | cons d ds ih =>
    obtain ⟨hd, hds⟩ := List.pairwise_cons.1 h
    unfold insertCell
    split
    · rename_i hcd
      refine List.pairwise_cons.2 ⟨?_, h⟩
      intro a ha
      rcases List.mem_cons.1 ha with rfl | ha
      · exact hcd
      · exact Cell.before_trans hcd (hd a ha)
    · split
      · exact h
      · rename_i hcd hne
        refine List.pairwise_cons.2 ⟨?_, ih hds⟩
        intro a ha
        rcases mem_insertCell.1 ha with rfl | ha
        · exact Cell.before_trichotomous hcd hne
        · exact hd a ha

theorem pairwise_sortCells (cs : List Cell) :
    (sortCells cs).Pairwise (fun a b => a.before b) := by
  induction cs with
  | nil => simp [sortCells]
  | cons c cs ih => exact pairwise_insertCell ih

/-- An increasing list is determined by its members. -/
theorem eq_of_pairwise_before {as bs : List Cell} (ha : as.Pairwise (fun a b => a.before b))
    (hb : bs.Pairwise (fun a b => a.before b)) (h : ∀ c, c ∈ as ↔ c ∈ bs) : as = bs := by
  induction as generalizing bs with
  | nil =>
    cases bs with
    | nil => rfl
    | cons b bs => simpa using h b
  | cons a as ih =>
    cases bs with
    | nil => simpa using h a
    | cons b bs =>
      obtain ⟨ha', has⟩ := List.pairwise_cons.1 ha
      obtain ⟨hb', hbs⟩ := List.pairwise_cons.1 hb
      have hab : a = b := by
        rcases List.mem_cons.1 ((h a).1 (by simp)) with hab | hab
        · exact hab
        · rcases List.mem_cons.1 ((h b).2 (by simp)) with hba | hba
          · exact hba.symm
          · exact absurd (Cell.before_trans (ha' b hba) (hb' a hab)) (Cell.before_irrefl a)
      subst hab
      congr 1
      refine ih has hbs fun c => ?_
      have hc := h c
      simp only [List.mem_cons] at hc
      constructor
      · intro hca
        rcases hc.1 (Or.inr hca) with rfl | hcb
        · exact absurd (ha' c hca) (Cell.before_irrefl c)
        · exact hcb
      · intro hcb
        rcases hc.2 (Or.inr hcb) with rfl | hca
        · exact absurd (hb' c hcb) (Cell.before_irrefl c)
        · exact hca

/-! ## Grids -/

/-- A rectangle of at least one cell with its blocked cells. -/
structure Grid where
  /-- The number of columns. -/
  length : UInt32
  /-- The number of rows. -/
  width : UInt32
  /-- The blocked cells, in increasing order. -/
  obstacles : List Cell
  length_ne_zero : length ≠ 0
  width_ne_zero : width ≠ 0
  obstacles_pairwise : obstacles.Pairwise (fun a b => a.before b)
  deriving DecidableEq

/-- Why a grid cannot be built: a dimension is zero. -/
structure GridError where
  length : UInt32
  width : UInt32
  deriving DecidableEq, Repr

/-- The text of a grid error. -/
def GridError.message (e : GridError) : String :=
  "grid dimensions must be positive, got " ++ toString e.length.toNat ++ "x"
    ++ toString e.width.toNat

namespace Grid

/-- The grid with the given dimensions and blocked cells, in any order and with repeats. -/
def ofCells? (length width : UInt32) (cells : List Cell) : Except GridError Grid :=
  if h : length = 0 ∨ width = 0 then .error ⟨length, width⟩
  else .ok ⟨length, width, sortCells cells, fun hl => h (Or.inl hl), fun hw => h (Or.inr hw),
    pairwise_sortCells cells⟩

/-- Whether a cell lies on the rectangle. -/
def contains (g : Grid) (c : Cell) : Bool := c.x < g.length && c.y < g.width

/-- Whether a cell is one of the blocked cells. -/
def hasObstacle (g : Grid) (c : Cell) : Bool := decide (c ∈ g.obstacles)

/-- On the rectangle and not blocked: a robot may stand here. -/
def isOpen (g : Grid) (c : Cell) : Bool := g.contains c && !g.hasObstacle c

theorem contains_iff {g : Grid} {c : Cell} :
    g.contains c ↔ c.x.toNat < g.length.toNat ∧ c.y.toNat < g.width.toNat := by
  simp [contains, UInt32.lt_iff_toNat_lt]

theorem hasObstacle_iff {g : Grid} {c : Cell} : g.hasObstacle c ↔ c ∈ g.obstacles := by
  simp [hasObstacle]

theorem isOpen_iff {g : Grid} {c : Cell} :
    g.isOpen c ↔ g.contains c ∧ ¬g.hasObstacle c := by
  simp [isOpen]

/-- Two grids with the same dimensions and the same blocked cells are equal. -/
theorem ext_of_mem {g k : Grid} (hl : g.length = k.length) (hw : g.width = k.width)
    (h : ∀ c, c ∈ g.obstacles ↔ c ∈ k.obstacles) : g = k := by
  have ho := eq_of_pairwise_before g.obstacles_pairwise k.obstacles_pairwise h
  cases g; cases k
  simp_all

theorem ofCells?_eq_ok_iff {l w : UInt32} {cells : List Cell} {g : Grid} :
    ofCells? l w cells = .ok g ↔
      g.length = l ∧ g.width = w ∧ ∀ c, c ∈ g.obstacles ↔ c ∈ cells := by
  unfold ofCells?
  constructor
  · intro h
    split at h
    · cases h
    · cases h
      exact ⟨rfl, rfl, fun _ => mem_sortCells⟩
  · rintro ⟨rfl, rfl, h⟩
    rw [dif_neg (not_or.2 ⟨g.length_ne_zero, g.width_ne_zero⟩)]
    exact congrArg _ (ext_of_mem rfl rfl fun c => mem_sortCells.trans (h c).symm)

theorem ofCells?_eq_error_iff {l w : UInt32} {cells : List Cell} {e : GridError} :
    ofCells? l w cells = .error e ↔ (l = 0 ∨ w = 0) ∧ e = ⟨l, w⟩ := by
  unfold ofCells?
  split <;> simp_all [eq_comm]

end Grid

end Gridbot
