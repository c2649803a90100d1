import Gridbot.Text.Cluster.Class

/-!
# Grapheme clusters and backspaces

A text falls into extended grapheme clusters, the characters as a reader counts them. A backspace
typed into a line without an editor takes back the cluster before it, as far as the size of the
cluster fits a byte.

* `flatten_clusters`: the clusters of a text, put together, are the text.
* `TypedLine`: what was typed, and what a backspace takes back of it.
* `eraseBackspaces_eq_self`: a line without backspaces stays as it is.
-/

namespace Gridbot.Text

/-! ## Boundaries -/

/-- How far the text so far has come towards a conjunct of consonants. -/
inductive Conjunct
  | none
  /-- A consonant, then only marks. -/
  | begun
  /-- A consonant, then marks of which one is a linker. -/
  | linked
  deriving DecidableEq, Repr

/-- How far the text so far has come towards a joined sequence of pictographs. -/
inductive PictographRun
  | none
  /-- A pictograph, then only combining marks. -/
  | begun
  /-- The same, then a zero width joiner. -/
  | joined
  deriving DecidableEq, Repr

/-- What the rules remember of the text before a position. -/
structure BreakContext where
  last : BreakClass
  conjunct : Conjunct
  pictographs : PictographRun
  /-- Whether the text ends in an odd number of regional indicators. -/
  oddIndicators : Bool
  deriving DecidableEq, Repr

namespace BreakContext

/-- The context after a character of the given class. -/
def next (ctx : BreakContext) (k : BreakClass) : BreakContext where
  last := k
  conjunct :=
    match k with
    | .consonant => .begun
    | .linker => if ctx.conjunct = .none then .none else .linked
    | .extend | .zeroWidthJoiner => ctx.conjunct
    | _ => .none
  pictographs :=
    match k with
    | .pictograph => .begun
    | .extend | .linker | .nonJoiner => if ctx.pictographs = .begun then .begun else .none
    | .zeroWidthJoiner => if ctx.pictographs = .begun then .joined else .none
    | _ => .none
  oddIndicators := k = .regionalIndicator && !ctx.oddIndicators

/-- The context after the first character of a text. -/
def first (k : BreakClass) : BreakContext :=
  next ⟨.other, .none, .none, false⟩ k

/-- Whether a cluster ends before a character of the given class. The rules are tried in order:
line breaks and controls stand alone, Hangul letters form syllables, marks and joiners never start
a cluster, preceding signs never end one, and conjuncts, joined pictographs and pairs of regional
indicators hold together. -/
def breaksBefore (ctx : BreakContext) (k : BreakClass) : Bool :=
  match ctx.last, k with
  | .carriageReturn, .lineFeed => false
  | .carriageReturn, _ | .lineFeed, _ | .control, _ => true
  | _, .carriageReturn | _, .lineFeed | _, .control => true
  | .hangulL, .hangulL | .hangulL, .hangulV | .hangulL, .hangulLV | .hangulL, .hangulLVT => false
  | .hangulLV, .hangulV | .hangulV, .hangulV | .hangulLV, .hangulT | .hangulV, .hangulT => false
  | .hangulLVT, .hangulT | .hangulT, .hangulT => false
  | _, .extend | _, .linker | _, .nonJoiner | _, .zeroWidthJoiner | _, .spacingMark => false
  | .preceding, _ => false
  | _, .consonant => ctx.conjunct != .linked
  | _, .pictograph => ctx.pictographs != .joined
  | _, .regionalIndicator => !ctx.oddIndicators
  | _, _ => true

end BreakContext

/-! ## Clusters -/

/-- A text read from the left: the context at its end and its clusters, the latest cluster first
and in each the latest character first. -/
structure ClusterScan where
  context : BreakContext
  clusters : List (List Char)

namespace ClusterScan

/-- Reads one more character. -/
def add : ClusterScan → Char → ClusterScan
  | ⟨_, []⟩, c => ⟨.first (breakClass c), [[c]]⟩
  | ⟨ctx, cluster :: earlier⟩, c =>
    let k := breakClass c
    if ctx.breaksBefore k then ⟨ctx.next k, [c] :: cluster :: earlier⟩
    else ⟨ctx.next k, (c :: cluster) :: earlier⟩

/-- The characters read, the latest first. -/
theorem flatten_add (s : ClusterScan) (c : Char) :
    (s.add c).clusters.flatten = c :: s.clusters.flatten := by
  obtain ⟨ctx, clusters⟩ := s
  cases clusters with
  | nil => rfl
  | cons cluster earlier =>
    simp only [add]
    split <;> rfl

theorem flatten_foldl_add (cs : List Char) (s : ClusterScan) :
    (cs.foldl add s).clusters.flatten = cs.reverse ++ s.clusters.flatten := by
  induction cs generalizing s with
  | nil => rfl
  | cons c cs ih => simp [ih, flatten_add]

end ClusterScan

/-- The extended grapheme clusters of a text, in order. -/
def clusters (cs : List Char) : List (List Char) :=
  ((cs.foldl ClusterScan.add ⟨.first .other, []⟩).clusters.map List.reverse).reverse

theorem flatten_clusters (cs : List Char) : (clusters cs).flatten = cs := by
  have h := congrArg List.reverse (ClusterScan.flatten_foldl_add cs ⟨.first .other, []⟩)
  rw [List.reverse_flatten] at h
  simpa [clusters] using h

/-! ## Backspaces -/

/-- The length of a text in bytes. -/
def byteSize (cs : List Char) : Nat := cs.foldr (fun c n => c.utf8Size + n) 0

/-- Drops characters from the front as long as they fit into the given number of bytes. -/
def dropBytes : Nat → List Char → List Char
  | _, [] => []
  | n, c :: cs => if c.utf8Size ≤ n then dropBytes (n - c.utf8Size) cs else c :: cs

/-- A line as typed so far: its characters and the sizes of the clusters that a backspace can still
take back, both with the latest first. A size is a single byte, so of a cluster of 256 bytes or more
only the remainder counts. -/
structure TypedLine where
  reversed : List Char
  sizes : List UInt8
  deriving DecidableEq, Repr

namespace TypedLine

/-- A line on which nothing was typed. -/
def empty : TypedLine := ⟨[], []⟩

/-- Types a cluster at the end of a line. -/
def insert (line : TypedLine) (cluster : List Char) : TypedLine :=
  ⟨cluster.reverse ++ line.reversed, .ofNat (byteSize cluster) :: line.sizes⟩

/-- Takes back as many bytes as the latest cluster counts. At the start of a line there is nothing
to take back. -/
def backspace : TypedLine → TypedLine
  | ⟨reversed, []⟩ => ⟨reversed, []⟩
  | ⟨reversed, size :: sizes⟩ => ⟨dropBytes size.toNat reversed, sizes⟩

/-- Types a cluster, or takes one back if it is a backspace. -/
def type (line : TypedLine) (cluster : List Char) : TypedLine :=
  if cluster = ['\x08'] then line.backspace else line.insert cluster

theorem reversed_foldl_type (typed : List (List Char)) (line : TypedLine)
    (h : ∀ cluster ∈ typed, cluster ≠ ['\x08']) :
    (typed.foldl type line).reversed = typed.flatten.reverse ++ line.reversed := by
  induction typed generalizing line with
  | nil => rfl
  | cons cluster rest ih =>
    rw [List.foldl_cons, ih _ fun k hk => h k (List.mem_cons_of_mem _ hk), type,
      if_neg (h cluster List.mem_cons_self)]
    simp [insert]

end TypedLine

/-- The text that is left of a line when it is typed cluster by cluster. -/
def eraseBackspaces (cs : List Char) : List Char :=
  ((clusters cs).foldl TypedLine.type .empty).reversed.reverse

theorem eraseBackspaces_eq_self {cs : List Char} (h : '\x08' ∉ cs) : eraseBackspaces cs = cs := by
  have hall : ∀ cluster ∈ clusters cs, cluster ≠ ['\x08'] := by
    rintro cluster hc rfl
    refine h ?_
    rw [← flatten_clusters cs]
    exact List.mem_flatten.2 ⟨_, hc, by simp⟩
  rw [eraseBackspaces, TypedLine.reversed_foldl_type _ _ hall, flatten_clusters]
  simp [TypedLine.empty]

end Gridbot.Text
