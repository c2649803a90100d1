import Gridbot.FileTree
import Gridbot.Proofs.Arrival

/-!
# The checks on a command file

A path can be wrong in several ways at once: it may lead to a file that may not be read, is too
large, has a dot in its name and holds no text. What `load` reports is the first check that fails,
in a fixed order.

`Fails fs path check e` says that a path fails one check, and with what error, whatever the other
checks say. It speaks of the answers of the system, of the last component and of the bytes, and not
of how they are examined.

* `hasDottedName_iff`: only a dot in the last component counts.
* `load_settles`: loading ends at the first failure, or no check fails and the file is read.
* `exists_text_of_load`: a file that loads is a regular file that reads as text.
* `Settles.drop`: a check that is passed by all that comes to it can be left out. So two checks can
  be where a regular file opens unless it is denied, and an open one is read to its end.
* `load_reports_first_failure`: which error there is, and when there is none.
-/

namespace Gridbot

/-- `name` is the last component of a path, behind which there are only empty ones and `.`. -/
structure Path.EndsIn (path : Path) (name : List UInt8) : Prop where
  isName : name ≠ [] ∧ name ≠ [dot] ∧ name ≠ [dot, dot]
  exists_components : ∃ parents behind, path.components = parents ++ name :: behind ∧
    ∀ c ∈ behind, c = [] ∨ c = [dot]

/-- A regular file stands at a path and reads as a text. -/
structure FileSystem.Holds (fs : FileSystem) (path : Path) (text : String) : Prop where
  regular : ∃ size, fs.metadata path = .ok (.regular size)
  opens : fs.openFile path = .ok (.ok text.toUTF8)

/-- A regular file opens unless it may not be read, and once it is open it is read to its end, where
it is as long as it was said to be. -/
structure FileSystem.Steady (fs : FileSystem) (path : Path) : Prop where
  opens : ∀ {size e}, fs.metadata path = .ok (.regular size) → fs.openFile path = .error e →
    e.kind = .permissionDenied
  reads : ∀ {size e}, fs.metadata path = .ok (.regular size) → fs.openFile path ≠ .ok (.error e)
  size_eq : ∀ {size bytes}, fs.metadata path = .ok (.regular size) →
    fs.openFile path = .ok (.ok bytes) → bytes.size = size

namespace CommandFile

/-! ## Checks -/

/-- A check on a command file. -/
inductive Check
  /-- There is a path. -/
  | given
  /-- It leads somewhere. -/
  | found
  /-- It leads to a regular file. -/
  | regular
  /-- The file may be read. -/
  | readable
  /-- It opens. -/
  | opened
  /-- Its name has no dot. -/
  | plainName
  /-- It is small enough. -/
  | size
  /-- It can be read to the end. -/
  | read
  /-- It holds text. -/
  | text
  deriving DecidableEq, Repr

namespace Check

/-- All checks, in the order in which they count. -/
def all : List Check := [given, found, regular, readable, opened, plainName, size, read, text]

/-- The checks that a file tree can fail, in the same order. -/
def ofTree : List Check := [given, found, regular, readable, plainName, size, text]

end Check

/-- A path fails a check, with this error. Several checks can fail at once. -/
inductive Fails (fs : FileSystem) (path : Path) : Check → SourceError → Prop
  | missing (h : path.bytes = []) : Fails fs path .given .missing
  | notFound {e : SystemError} (h : fs.metadata path = .error e) (hkind : e.kind = .notFound) :
    Fails fs path .found (.notFound path)
  | denied {e : SystemError} (h : fs.metadata path = .error e)
    (hkind : e.kind = .permissionDenied) : Fails fs path .found (.notReadable path)
  | refused {e : SystemError} (h : fs.metadata path = .error e) (hkind : e.kind = .other) :
    Fails fs path .found (.system e)
  | irregular (h : fs.metadata path = .ok .other) : Fails fs path .regular (.notReadable path)
  | unreadable {e : SystemError} (h : fs.openFile path = .error e)
    (hkind : e.kind = .permissionDenied) : Fails fs path .readable (.notReadable path)
  | unopened {e : SystemError} (h : fs.openFile path = .error e)
    (hkind : e.kind ≠ .permissionDenied) : Fails fs path .opened (.system e)
  | dotted {name : List UInt8} (hname : path.EndsIn name) (hdot : Path.dot ∈ name) :
    Fails fs path .plainName (.invalidName path)
  | tooLarge {size : Nat} (h : fs.metadata path = .ok (.regular size)) (hsize : 1048576 < size) :
    Fails fs path .size (.tooLarge size)
  | unread {e : SystemError} (h : fs.openFile path = .ok (.error e)) :
    Fails fs path .read (.system e)
  | notText {bytes : ByteArray} (h : fs.openFile path = .ok (.ok bytes))
    (htext : ¬bytes.IsValidUTF8) : Fails fs path .text (.notText path)

/-- The first of some checks that fails does so with this error. -/
def FirstFailure (fs : FileSystem) (path : Path) (e : SourceError) : List Check → Prop
  | [] => False
  | check :: rest =>
    Fails fs path check e ∨
      (∀ e', ¬Fails fs path check e') ∧ FirstFailure fs path e rest

/-- None of some checks fails. -/
def Passes (fs : FileSystem) (path : Path) (checks : List Check) : Prop :=
  ∀ check ∈ checks, ∀ e, ¬Fails fs path check e

/-- A command file is what was found at its path: a file of text, with the instructions of the
text. -/
structure ReadFrom (fs : FileSystem) (path : Path) (file : CommandFile) : Prop where
  path_eq : file.path = path
  exists_text : ∃ text, fs.Holds path text ∧ file.commands = instructions text

/-- What checks lead to: the error of the first that fails, or the file if none does. -/
def Settles (fs : FileSystem) (path : Path) (checks : List Check) :
    Except SourceError CommandFile → Prop
  | .error e => FirstFailure fs path e checks
  | .ok file => Passes fs path checks ∧ ReadFrom fs path file

/-- Loading reports the first failure of some checks, and succeeds if there is none. -/
structure Reports (fs : FileSystem) (path : Path) (checks : List Check) : Prop where
  error_iff : ∀ e, load fs path = .error e ↔ FirstFailure fs path e checks
  ok_iff : ∀ file, load fs path = .ok file ↔ Passes fs path checks ∧ ReadFrom fs path file
  loads_iff : (∃ file, load fs path = .ok file) ↔ Passes fs path checks

variable {fs : FileSystem} {path : Path} {checks : List Check}

/-- A check fails with one error only. -/
theorem Fails.unique {check : Check} {e e' : SourceError} (h : Fails fs path check e)
    (h' : Fails fs path check e') : e = e' := by
  cases h <;> cases h' <;> simp_all

theorem FirstFailure.unique {e e' : SourceError} (h : FirstFailure fs path e checks)
    (h' : FirstFailure fs path e' checks) : e = e' := by
  induction checks with
  | nil => exact h.elim
  | cons check rest ih =>
    rcases h with h | ⟨hnone, h⟩
    · rcases h' with h' | ⟨hnone', -⟩
      · exact h.unique h'
      · exact absurd h (hnone' e)
    · rcases h' with h' | ⟨-, h'⟩
      · exact absurd h' (hnone e')
      · exact ih h h'

theorem FirstFailure.not_passes {e : SourceError} (h : FirstFailure fs path e checks) :
    ¬Passes fs path checks := by
  induction checks with
  | nil => exact h.elim
  | cons check rest ih =>
    intro hpasses
    obtain ⟨hcheck, hrest⟩ := List.forall_mem_cons.1 hpasses
    rcases h with h | ⟨-, h⟩
    · exact hcheck e h
    · exact ih h hrest

theorem ReadFrom.unique {file file' : CommandFile} (h : ReadFrom fs path file)
    (h' : ReadFrom fs path file') : file = file' := by
  obtain ⟨p, commands⟩ := file
  obtain ⟨p', commands'⟩ := file'
  obtain ⟨rfl, text, htext, rfl⟩ := h
  obtain ⟨rfl, text', htext', rfl⟩ := h'
  have hopens := htext.opens.symm.trans htext'.opens
  rw [String.toByteArray_inj.1 (Except.ok.inj (Except.ok.inj hopens))]

namespace Settles

variable {result : Except SourceError CommandFile}

/-- A check that does not fail is passed over. -/
theorem cons {check : Check} (hcheck : ∀ e, ¬Fails fs path check e)
    (h : Settles fs path checks result) : Settles fs path (check :: checks) result := by
  cases result with
  | error e => exact Or.inr ⟨hcheck, h⟩
  | ok file => exact ⟨List.forall_mem_cons.2 ⟨hcheck, h.1⟩, h.2⟩

/-- A check that does not fail where all before it are passed decides nothing. -/
theorem drop {front back : List Check} {check : Check}
    (hcheck : Passes fs path front → ∀ e, ¬Fails fs path check e)
    (h : Settles fs path (front ++ check :: back) result) :
    Settles fs path (front ++ back) result := by
  induction front with
  | nil =>
    have hnone := hcheck (List.forall_mem_nil _)
    cases result with
    | error e => exact h.resolve_left (hnone e) |>.2
    | ok file => exact ⟨(List.forall_mem_cons.1 h.1).2, h.2⟩
  | cons first front ih =>
    have hrest (hfirst : ∀ e, ¬Fails fs path first e) :=
      ih fun hfront => hcheck (List.forall_mem_cons.2 ⟨hfirst, hfront⟩)
    cases result with
    | error e => exact h.imp_right fun ⟨hfirst, h⟩ => ⟨hfirst, hrest hfirst h⟩
    | ok file =>
      obtain ⟨hfirst, hpasses⟩ := List.forall_mem_cons.1 h.1
      exact (hrest hfirst ⟨hpasses, h.2⟩).cons hfirst

theorem unique {result' : Except SourceError CommandFile} (h : Settles fs path checks result)
    (h' : Settles fs path checks result') : result = result' := by
  cases result with
  | error e =>
    cases result' with
    | error e' => rw [FirstFailure.unique h h']
    | ok file => exact absurd h'.1 h.not_passes
  | ok file =>
    cases result' with
    | error e => exact absurd h.1 h'.not_passes
    | ok file' => rw [h.2.unique h'.2]

end Settles

/-- What loading settles is what it reports. -/
theorem reports_of_settles (h : Settles fs path checks (load fs path)) :
    Reports fs path checks := by
  have hload : ∀ result, load fs path = result ↔ Settles fs path checks result :=
    fun result => ⟨fun heq => heq ▸ h, h.unique⟩
  refine ⟨fun e => hload _, fun file => hload _, fun ⟨file, hfile⟩ => ((hload _).1 hfile).1, ?_⟩
  intro hpasses
  cases hresult : load fs path with
  | ok file => exact ⟨file, rfl⟩
  | error e => exact absurd hpasses ((hload _).1 hresult).not_passes

/-! ## Names -/

theorem fileName?_eq_some_iff {name : List UInt8} :
    path.fileName? = some name ↔ path.EndsIn name := by
  rw [Path.fileName?, Option.filter_eq_some_iff, List.find?_eq_some_iff_append]
  constructor
  · rintro ⟨⟨hname, behind, parents, hpath, hbehind⟩, hup⟩
    refine ⟨by simpa [and_assoc] using And.intro hname hup, parents.reverse, behind.reverse, ?_, ?_⟩
    · rw [← List.reverse_inj, hpath]
      simp
    · intro c hc
      simpa [Decidable.or_iff_not_imp_left] using hbehind c (List.mem_reverse.1 hc)
  · rintro ⟨⟨hne, hdot, hup⟩, parents, behind, hpath, hbehind⟩
    refine ⟨⟨by simp [hne, hdot], behind.reverse, parents.reverse, by simp [hpath], ?_⟩,
      by simpa using hup⟩
    intro c hc
    simpa [Decidable.or_iff_not_imp_left] using hbehind c (List.mem_reverse.1 hc)

/-- Only a dot in the last component counts. -/
theorem hasDottedName_iff : hasDottedName path ↔ ∃ name, path.EndsIn name ∧ Path.dot ∈ name := by
  simp only [hasDottedName, Option.any_eq_true, fileName?_eq_some_iff, List.contains_iff_mem]

/-! ## Checks that do not fail -/

theorem passes_given (h : path.bytes ≠ []) (e : SourceError) : ¬Fails fs path .given e := by
  intro hfails
  cases hfails with
  | missing hempty => exact h hempty

theorem passes_plainName (h : ¬hasDottedName path) (e : SourceError) :
    ¬Fails fs path .plainName e := by
  intro hfails
  cases hfails with
  | dotted hname hdot => exact h (hasDottedName_iff.2 ⟨_, hname, hdot⟩)

section
variable {size : Nat} (hfound : fs.metadata path = .ok (.regular size))
include hfound

theorem passes_regular (e : SourceError) : ¬Fails fs path .regular e := by
  intro hfails
  cases hfails with
  | irregular h => cases hfound.symm.trans h

theorem passes_size (hsize : ¬size > maxSize) (e : SourceError) : ¬Fails fs path .size e := by
  intro hfails
  cases hfails with
  | tooLarge h hlarge =>
    cases hfound.symm.trans h
    exact hsize hlarge

end

section
variable {contents : Except SystemError ByteArray} (hopen : fs.openFile path = .ok contents)
include hopen

theorem passes_readable (e : SourceError) : ¬Fails fs path .readable e := by
  intro hfails
  cases hfails with
  | unreadable h => cases hopen.symm.trans h

theorem passes_opened (e : SourceError) : ¬Fails fs path .opened e := by
  intro hfails
  cases hfails with
  | unopened h => cases hopen.symm.trans h

end

section
variable {bytes : ByteArray} (hread : fs.openFile path = .ok (.ok bytes))
include hread

theorem passes_read (e : SourceError) : ¬Fails fs path .read e := by
  intro hfails
  cases hfails with
  | unread h => cases hread.symm.trans h

theorem passes_text (htext : bytes.IsValidUTF8) (e : SourceError) : ¬Fails fs path .text e := by
  intro hfails
  cases hfails with
  | notText h hnone =>
    cases hread.symm.trans h
    exact hnone htext

end

theorem passes_found {info : Metadata} (h : fs.metadata path = .ok info) (e : SourceError) :
    ¬Fails fs path .found e := by
  intro hfails
  cases hfails with
  | notFound hfound => cases h.symm.trans hfound
  | denied hfound => cases h.symm.trans hfound
  | refused hfound => cases h.symm.trans hfound

/-! ## Loading -/

/-- The checks on an open file. -/
theorem ofOpen_settles {size : Nat} {contents : Except SystemError ByteArray}
    (hfound : fs.metadata path = .ok (.regular size)) (hopen : fs.openFile path = .ok contents) :
    Settles fs path [.plainName, .size, .read, .text] (ofOpen path size contents) := by
  unfold ofOpen
  split
  · rename_i hdotted
    obtain ⟨name, hname, hdot⟩ := hasDottedName_iff.1 hdotted
    exact Or.inl (.dotted hname hdot)
  rename_i hplain
  refine .cons (passes_plainName hplain) ?_
  split
  · rename_i hlarge
    exact Or.inl (.tooLarge hfound hlarge)
  rename_i hsize
  refine .cons (passes_size hfound hsize) ?_
  cases contents with
  | error e => exact Or.inl (.unread hopen)
  | ok bytes =>
    refine .cons (passes_read hopen) ?_
    dsimp only
    split
    · rename_i hnone
      exact Or.inl (.notText hopen fun htext => by simp [String.fromUTF8?, htext] at hnone)
    · rename_i text htext
      obtain rfl := toUTF8_of_fromUTF8? htext
      exact .cons (passes_text hopen text.isValidUTF8)
        ⟨List.forall_mem_nil _, rfl, text, ⟨⟨size, hfound⟩, hopen⟩, rfl⟩

theorem load_settles (fs : FileSystem) (path : Path) :
    Settles fs path Check.all (load fs path) := by
  unfold load
  split
  · rename_i hempty
    exact Or.inl (.missing hempty)
  rename_i hpath
  refine .cons (passes_given hpath) ?_
  cases hfound : fs.metadata path with
  | error e =>
    refine Or.inl ?_
    unfold SourceError.ofMetadata
    split
    · exact .notFound hfound ‹_›
    · exact .denied hfound ‹_›
    · exact .refused hfound ‹_›
  | ok info =>
    refine .cons (passes_found hfound) ?_
    cases info with
    | other => exact Or.inl (.irregular hfound)
    | regular size =>
      refine .cons (passes_regular hfound) ?_
      cases hopen : fs.openFile path with
      | ok contents =>
        exact .cons (passes_readable hopen) (.cons (passes_opened hopen)
          (ofOpen_settles hfound hopen))
      | error e =>
        dsimp only
        unfold SourceError.ofOpening
        split
        · exact Or.inl (.unreadable hopen ‹_›)
        · rename_i hkind
          refine .cons (fun e' hfails => ?_) (Or.inl (.unopened hopen hkind))
          cases hfails with
          | unreadable h hdenied =>
            cases hopen.symm.trans h
            exact hkind hdenied

/-- A command file that loads holds a text, and its instructions are those of the text. -/
theorem exists_text_of_load {file : CommandFile} (h : load fs path = .ok file) :
    ∃ text, fs.Holds path text ∧ file = ⟨path, instructions text⟩ := by
  obtain ⟨p, commands⟩ := file
  obtain ⟨-, rfl, text, htext, rfl⟩ := ((reports_of_settles (load_settles fs path)).ok_iff _).1 h
  exact ⟨text, htext, rfl⟩

/-- Where something is found that is a regular file, its size is known. -/
theorem exists_size_of_passes {front : List Check} (h : Passes fs path front)
    (hfound : .found ∈ front) (hregular : .regular ∈ front) :
    ∃ size, fs.metadata path = .ok (.regular size) := by
  cases hmetadata : fs.metadata path with
  | error e =>
    cases hkind : e.kind with
    | notFound => exact absurd (.notFound hmetadata hkind) (h _ hfound _)
    | permissionDenied => exact absurd (.denied hmetadata hkind) (h _ hfound _)
    | other => exact absurd (.refused hmetadata hkind) (h _ hfound _)
  | ok info =>
    cases info with
    | other => exact absurd (.irregular hmetadata) (h _ hregular _)
    | regular size => exact ⟨size, rfl⟩

/-- In a steady system a regular file opens if it may be read, and it is read to its end. -/
theorem reports_of_steady (h : fs.Steady path) : Reports fs path Check.ofTree := by
  have hopened (hpasses : Passes fs path [.given, .found, .regular, .readable]) (e : SourceError) :
      ¬Fails fs path .opened e := by
    obtain ⟨size, hfound⟩ := exists_size_of_passes hpasses (by decide) (by decide)
    intro hfails
    cases hfails with
    | unopened hopen hkind => exact hkind (h.opens hfound hopen)
  have hread (hpasses : Passes fs path [.given, .found, .regular, .readable, .plainName, .size])
      (e : SourceError) : ¬Fails fs path .read e := by
    obtain ⟨size, hfound⟩ := exists_size_of_passes hpasses (by decide) (by decide)
    intro hfails
    cases hfails with
    | unread hopen => exact h.reads hfound hopen
  exact reports_of_settles (((load_settles fs path).drop hopened).drop hread)

end CommandFile

namespace Place

variable {here : Place} {path : Path}

/-- Where a tree has a regular file, opening it is a matter of its permission. -/
theorem opened_of_regular {size : Nat}
    (h : here.fileSystem.metadata path = .ok (.regular size)) :
    (∃ content : ByteArray, content.size = size ∧
      here.fileSystem.openFile path = .ok (.ok content)) ∨
    here.fileSystem.openFile path = .error .denied := by
  simp only [fileSystem] at h ⊢
  cases hlookup : here.lookup path with
  | error e =>
    rw [hlookup] at h
    cases h
  | ok node =>
    rw [hlookup] at h
    cases node with
    | file content readable =>
      have hsize : content.size = size := Metadata.regular.inj (Except.ok.inj h)
      cases readable with
      | true => exact Or.inl ⟨content, hsize, rfl⟩
      | false => exact Or.inr rfl
    | directory entries searchable => cases h
    | link target => cases h
    | special opened => cases h

/-- So the system of a file tree is steady, wherever one works in it. -/
theorem steady_fileSystem (here : Place) (path : Path) : here.fileSystem.Steady path := by
  constructor
  case opens =>
    intro size e hfound hopen
    rcases opened_of_regular hfound with ⟨content, -, hopened⟩ | hdenied
    · cases hopened.symm.trans hopen
    · cases hdenied.symm.trans hopen
      rfl
  case reads =>
    intro size e hfound hopen
    rcases opened_of_regular hfound with ⟨content, -, hopened⟩ | hdenied
    · cases hopened.symm.trans hopen
    · cases hdenied.symm.trans hopen
  case size_eq =>
    intro size bytes hfound hopen
    rcases opened_of_regular hfound with ⟨content, hsize, hopened⟩ | hdenied
    · cases hopened.symm.trans hopen
      exact hsize
    · cases hdenied.symm.trans hopen

end Place

namespace CommandFile

/-- **Loading.** Whatever the system answers, a path is refused with the error of the first check
that fails: there is a path; it leads somewhere, to a regular file, which may be read and opens; its
last component has no dot; the file has at most 1048576 bytes, can be read, and holds text. If none
of them fails, and only then, the file is read: it has the path as it was given and the instructions
of the text.

In a file tree, from wherever in it the path is taken, a regular file opens if it may be read, and
what is read has the size that was told. There the list does without these two checks. -/
theorem load_reports_first_failure :
    (∀ (fs : FileSystem) (path : Path), Reports fs path Check.all) ∧
    ∀ (here : Place) (path : Path),
      here.fileSystem.Steady path ∧ Reports here.fileSystem path Check.ofTree :=
  ⟨fun fs path => reports_of_settles (load_settles fs path),
    fun here path => ⟨here.steady_fileSystem path, reports_of_steady (here.steady_fileSystem path)⟩⟩

/-- A file that may not be read is refused for that, whatever its name and its bytes. -/
example (content : ByteArray) :
    let name : Path := .ofText "moves.txt"
    let here : Place := { node := .directory [(name.bytes, .file content false)] true }
    load here.fileSystem name = .error (.notReadable name) := by
  rfl

end CommandFile

end Gridbot
