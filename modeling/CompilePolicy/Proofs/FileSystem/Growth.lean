import CompilePolicy.FileSystem.Basic

/-!
# Files that grow

Writing a file and making a directory leave what stands at other places as it was,
and a directory is never put in the place of a file or the other way round. So files
only grow: directories stay, files stay files, and a path that leads somewhere leads
there afterwards.

Main statement: `isDirectory_makeDirectories`, a directory that is made is there.
-/

namespace CompilePolicy.FileSystem

namespace Files

/-! ## Single places -/

/-- A place that stands for the root, the current directory or one above it. -/
def IsFixed (place : Place) : Prop :=
  place = rootPlace ∨ isAbove place = true

theorem at?_of_fixed (files : Files) {place : Place} (fixed : IsFixed place) :
    files.at? place = some .directory := by
  unfold at?
  exact if_pos fixed

theorem at?_of_free (files : Files) {place : Place} (free : ¬IsFixed place) :
    files.at? place = (files.entries.find? (·.1 = place)).map (·.2) := by
  unfold at?
  exact if_neg free

theorem find?_replaced (entries : List (Place × Entry)) {place : Place} (entry : Entry)
    (listed : entries.any (·.1 = place) = true) :
    (entries.map fun old => if old.1 = place then (place, entry) else old).find? (·.1 = place) =
      some (place, entry) := by
  induction entries with
  | nil => simp at listed
  | cons old rest ih =>
      by_cases same : old.1 = place
      · simp [same]
      · have later : rest.any (·.1 = place) = true := by
          simpa [same] using listed
        simpa [same] using ih later

theorem find?_replaced_of_ne (entries : List (Place × Entry)) {place other : Place}
    (entry : Entry) (different : other ≠ place) :
    (entries.map fun old => if old.1 = place then (place, entry) else old).find? (·.1 = other) =
      entries.find? (·.1 = other) := by
  induction entries with
  | nil => rfl
  | cons old rest ih =>
      by_cases same : old.1 = place
      · have unasked : old.1 ≠ other := by
          rw [same]
          exact different.symm
        simpa [same, different.symm, unasked] using ih
      · by_cases asked : old.1 = other
        · simp [asked, different]
        · simpa [same, asked] using ih

/-- What is put at a place stands there. -/
theorem at?_put_self (files : Files) {place : Place} (entry : Entry) (free : ¬IsFixed place) :
    (files.put place entry).at? place = some entry := by
  rw [at?_of_free _ free]
  unfold put
  split
  · rename_i listed
    simp only [find?_replaced files.entries entry listed]
    rfl
  · rename_i missing
    have absent : files.entries.find? (·.1 = place) = none := by
      rw [List.find?_eq_none]
      intro old listed same
      exact missing (List.any_eq_true.mpr ⟨old, listed, same⟩)
    simp [List.find?_append, absent]

/-- What stands at other places is left alone. -/
theorem at?_put_of_ne (files : Files) {place other : Place} (entry : Entry)
    (different : other ≠ place) : (files.put place entry).at? other = files.at? other := by
  by_cases fixed : IsFixed other
  · rw [at?_of_fixed _ fixed, at?_of_fixed _ fixed]
  · rw [at?_of_free _ fixed, at?_of_free _ fixed]
    unfold put
    split
    · simp only [find?_replaced_of_ne files.entries entry different]
    · simp [List.find?_append, different.symm]

/-- Where a file was taken away nothing stands. -/
theorem at?_removeAt_self (files : Files) {place : Place}
    (other : files.at? place ≠ some .directory) : (files.removeAt place).at? place = none := by
  have free : ¬IsFixed place := fun fixed => other (files.at?_of_fixed fixed)
  rw [at?_of_free _ free, Option.map_eq_none_iff, List.find?_eq_none]
  intro old listed
  simpa using (List.mem_filter.mp listed).2

/-- What stands at other places is left alone when something is taken away. -/
theorem at?_removeAt_of_ne (files : Files) {place other : Place} (different : other ≠ place) :
    (files.removeAt place).at? other = files.at? other := by
  have sought : (files.entries.filter (·.1 ≠ place)).find? (·.1 = other) =
      files.entries.find? (·.1 = other) := by
    rw [List.find?_filter]
    congr 1
    funext old
    by_cases asked : old.1 = other
    · simp [asked, different]
    · simp [asked]
  unfold at? removeAt
  rw [sought]

/-! ## Where names lead -/

section

variable {files next : Files}
variable (kept : ∀ {place}, files.at? place = some .directory → next.at? place = some .directory)
include kept

/-- Names lead through directories alone, so they lead the same way where these stay. -/
theorem follow_of_directories {start place : Place} {names : List String}
    (found : files.follow start names = .ok place) : next.follow start names = .ok place := by
  induction names generalizing start with
  | nil => exact found
  | cons name rest ih =>
      unfold Files.follow at found ⊢
      split at found
      · cases found
      · cases found
      · rename_i isDirectory
        rw [kept isDirectory]
        split at found
        · cases found
        · rename_i short
          simp only [if_neg short]
          exact ih found

theorem locate_of_directories {path : Path} {place : Place}
    (found : files.locate path = .ok place) : next.locate path = .ok place := by
  unfold Files.locate at found ⊢
  split at found
  · cases found
  · rename_i possible
    split at found
    · cases found
    · rename_i short
      rw [if_neg possible, if_neg short]
      exact follow_of_directories kept found

end

/-! ## Growth -/

/-- Directories stay, and files stay files. -/
structure Grows (files next : Files) : Prop where
  directories : ∀ {place}, files.at? place = some .directory → next.at? place = some .directory
  contents : ∀ {place bytes}, files.at? place = some (.file bytes) →
    ∃ held, next.at? place = some (.file held)

namespace Grows

variable {files next last : Files}

theorem refl (files : Files) : Grows files files :=
  ⟨id, fun found => ⟨_, found⟩⟩

theorem trans (first : Grows files next) (second : Grows next last) : Grows files last := by
  constructor
  · intro place found
    exact second.directories (first.directories found)
  · intro place bytes found
    rcases first.contents found with ⟨held, found⟩
    exact second.contents found

/-- A file is put where no directory is. -/
theorem put_file {place : Place} (other : files.at? place ≠ some .directory) (bytes : ByteArray) :
    Grows files (files.put place (.file bytes)) := by
  have free : ¬IsFixed place := fun fixed => other (files.at?_of_fixed fixed)
  constructor
  · intro asked found
    by_cases same : asked = place
    · rw [same] at found
      exact absurd found other
    · rw [at?_put_of_ne files _ same]
      exact found
  · intro asked held found
    by_cases same : asked = place
    · rw [same]
      exact ⟨bytes, at?_put_self files _ free⟩
    · rw [at?_put_of_ne files _ same]
      exact ⟨held, found⟩

/-- A directory is put where nothing is. -/
theorem put_directory {place : Place} (empty : files.at? place = none) :
    Grows files (files.put place .directory) := by
  have unlike : ∀ {asked entry}, files.at? asked = some entry → asked ≠ place := by
    rintro asked entry found rfl
    rw [empty] at found
    cases found
  constructor
  · intro asked found
    rw [at?_put_of_ne files _ (unlike found)]
    exact found
  · intro asked held found
    rw [at?_put_of_ne files _ (unlike found)]
    exact ⟨held, found⟩

/-- What leads through directories still does. -/
theorem follow (grows : Grows files next) {start place : Place} {names : List String}
    (found : files.follow start names = .ok place) : next.follow start names = .ok place :=
  follow_of_directories grows.directories found

theorem locate (grows : Grows files next) {path : Path} {place : Place}
    (found : files.locate path = .ok place) : next.locate path = .ok place :=
  locate_of_directories grows.directories found

end Grows

/-! ## What paths lead to -/

theorem entry_eq_ok_iff {files : Files} {path : Path} {found : Entry} :
    files.entry path = .ok found ↔
      ∃ place, files.locate path = .ok place ∧ files.at? place = some found := by
  unfold entry
  cases files.locate path with
  | error cause => simp
  | ok place => cases held : files.at? place <;> simp [held]

theorem content_eq_ok_iff {files : Files} {path : Path} {bytes : ByteArray} :
    files.content path = .ok bytes ↔
      ∃ place, files.locate path = .ok place ∧ files.at? place = some (.file bytes) := by
  rw [← entry_eq_ok_iff]
  unfold content
  cases files.entry path with
  | error cause => simp
  | ok found => cases found <;> simp

theorem isDirectory_iff {files : Files} {path : Path} :
    files.isDirectory path = true ↔
      ∃ place, files.locate path = .ok place ∧ files.at? place = some .directory := by
  rw [← entry_eq_ok_iff]
  unfold isDirectory
  cases files.entry path with
  | error cause => simp
  | ok found => cases found <;> simp

namespace Grows

variable {files next : Files}

theorem isDirectory (grows : Grows files next) {path : Path}
    (found : files.isDirectory path = true) : next.isDirectory path = true := by
  rcases isDirectory_iff.mp found with ⟨place, located, held⟩
  exact isDirectory_iff.mpr ⟨place, grows.locate located, grows.directories held⟩

theorem entry_file (grows : Grows files next) {path : Path} {bytes : ByteArray}
    (found : files.entry path = .ok (.file bytes)) :
    ∃ held, next.entry path = .ok (.file held) := by
  rcases entry_eq_ok_iff.mp found with ⟨place, located, at_⟩
  rcases grows.contents at_ with ⟨held, at_⟩
  exact ⟨held, entry_eq_ok_iff.mpr ⟨place, grows.locate located, at_⟩⟩

end Grows

/-! ## What lies in a directory -/

theorem follow_append {files : Files} {start place : Place} {names : List String}
    (found : files.follow start names = .ok place) (more : List String) :
    files.follow start (names ++ more) = files.follow place more := by
  induction names generalizing start with
  | nil =>
      cases found
      rfl
  | cons name rest ih =>
      simp only [List.cons_append, follow] at found ⊢
      split at found
      · cases found
      · cases found
      · split at found
        · cases found
        · rename_i short
          simp only [if_neg short]
          exact ih found

theorem follow_of_locate {files : Files} {path : Path} {place : Place}
    (located : files.locate path = .ok place) :
    files.follow (if path.root = "" then [] else rootPlace) path.parts = .ok place := by
  unfold locate at located
  split at located
  · cases located
  · split at located
    · cases located
    · exact located

/-- The path one name further than a directory's leads one name further, unless it is no
path or too long. -/
theorem locate_child {files : Files} {path : Path} {place : Place}
    (located : files.locate path = .ok place) (isDirectory : files.at? place = some .directory)
    (name : String) :
    files.locate (path.child name) =
      if !isPossible (path.child name).text then .error .zeroCharacter
      else if maxPathBytes < (path.child name).text.utf8ByteSize then .error .nameTooLong
      else if 255 < name.utf8ByteSize then .error .nameTooLong
      else .ok (stepFrom place name) := by
  have onward : files.follow (if (path.child name).root = "" then [] else rootPlace)
      (path.child name).parts = files.follow place [name] :=
    follow_append (follow_of_locate located) [name]
  rw [locate, onward]
  simp only [follow, isDirectory]

/-- A path and a name behind it are a path, and not too long. -/
def CanName (path : Path) (name : String) : Prop :=
  isPossible (path.child name).text = true ∧
    (path.child name).text.utf8ByteSize ≤ maxPathBytes ∧ name.utf8ByteSize ≤ 255

/-- Where a path one name further than a directory's leads is up to the path. -/
theorem locate_child_eq_ok_iff {files : Files} {path : Path} {place asked : Place}
    {name : String} (plain : name ≠ "..") (located : files.locate path = .ok place)
    (isDirectory : files.at? place = some .directory) :
    files.locate (path.child name) = .ok asked ↔
      CanName path name ∧ asked = place ++ [name] := by
  have further : stepFrom place name = place ++ [name] := if_neg plain
  rw [locate_child located isDirectory, further]
  split
  · rename_i impossible
    have none : isPossible (path.child name).text = false := by
      simpa using impossible
    simp [CanName, none]
  · rename_i possible
    have some : isPossible (path.child name).text = true := by
      simpa using possible
    split
    · rename_i long
      simp [CanName, Nat.not_le.mpr long]
    · rename_i short
      split
      · rename_i long
        simp [CanName, Nat.not_le.mpr long]
      · rename_i fits
        simp [CanName, some, Nat.not_lt.mp short, Nat.not_lt.mp fits, eq_comm]

/-! ## Making directories -/

variable {files next : Files} {path : Path}

/-- A directory that is made is there, and nothing else changes. -/
theorem makeDirectory_spec (made : files.makeDirectory path = .ok next) :
    Grows files next ∧ next.isDirectory path = true := by
  unfold makeDirectory at made
  split at made
  · cases made
  · rename_i place located
    split at made
    · cases made
    · rename_i empty
      cases made
      have grows := Grows.put_directory empty
      have free : ¬IsFixed place := by
        intro fixed
        rw [files.at?_of_fixed fixed] at empty
        cases empty
      refine ⟨grows, isDirectory_iff.mpr ⟨place, grows.locate located, ?_⟩⟩
      exact at?_put_self files _ free

theorem makeDirectoriesFrom_spec {root : String} {names : List String}
    (made : files.makeDirectoriesFrom root names = .ok next) :
    Grows files next ∧ next.isDirectory ⟨root, names.reverse⟩ = true := by
  induction names generalizing next with
  | nil =>
      simp only [makeDirectoriesFrom] at made
      split at made
      · rename_i isThere
        cases made
        exact ⟨.refl files, isThere⟩
      · cases made
  | cons name above ih =>
      simp only [makeDirectoriesFrom] at made
      split at made
      · rename_i direct
        cases made
        exact makeDirectory_spec direct
      · split at made
        · cases made
        · rename_i inside prepared
          have grown := (ih prepared).1
          split at made
          · rename_i direct
            cases made
            rcases makeDirectory_spec direct with ⟨grows, isThere⟩
            exact ⟨grown.trans grows, isThere⟩
          · split at made
            · rename_i isThere
              cases made
              exact ⟨grown, isThere⟩
            · cases made
      · split at made
        · rename_i isThere
          cases made
          exact ⟨.refl files, isThere⟩
        · cases made

/-- Making directories leaves everything else, and the directory is there then. -/
theorem isDirectory_makeDirectories (made : files.makeDirectories path = .ok next) :
    Grows files next ∧ next.isDirectory path = true := by
  have spec := makeDirectoriesFrom_spec made
  rw [List.reverse_reverse] at spec
  exact spec

/-- What stands somewhere is left alone when a directory is made. -/
theorem at?_makeDirectory {place : Place} {entry : Entry} (found : files.at? place = some entry)
    (made : files.makeDirectory path = .ok next) : next.at? place = some entry := by
  unfold makeDirectory at made
  split at made
  · cases made
  · rename_i fresh located
    split at made
    · cases made
    · rename_i empty
      cases made
      have different : place ≠ fresh := by
        rintro rfl
        rw [empty] at found
        cases found
      rw [at?_put_of_ne files _ different, found]

/-- Only directories come from a directory that is made. -/
theorem at?_file_makeDirectory {place : Place} {bytes : ByteArray}
    (made : files.makeDirectory path = .ok next) (found : next.at? place = some (.file bytes)) :
    files.at? place = some (.file bytes) := by
  unfold makeDirectory at made
  split at made
  · cases made
  · rename_i fresh located
    split at made
    · cases made
    · rename_i empty
      cases made
      have free : ¬IsFixed fresh := by
        intro fixed
        rw [files.at?_of_fixed fixed] at empty
        cases empty
      by_cases same : place = fresh
      · rw [same, at?_put_self files _ free] at found
        cases found
      · rwa [at?_put_of_ne files _ same] at found

/-- What is kept whenever one directory is made is kept when all are made that lead to
one. -/
theorem makeDirectoriesFrom_keeps (Kept : Files → Prop)
    (keeps : ∀ {files next : Files} {path : Path}, Kept files →
      files.makeDirectory path = .ok next → Kept next)
    (kept : Kept files) {root : String} {names : List String}
    (made : files.makeDirectoriesFrom root names = .ok next) : Kept next := by
  induction names generalizing next with
  | nil =>
      simp only [makeDirectoriesFrom] at made
      split at made
      · cases made
        exact kept
      · cases made
  | cons name above ih =>
      simp only [makeDirectoriesFrom] at made
      split at made
      · rename_i direct
        cases made
        exact keeps kept direct
      · split at made
        · cases made
        · rename_i inside prepared
          have still := ih prepared
          split at made
          · rename_i direct
            cases made
            exact keeps still direct
          · split at made
            · cases made
              exact still
            · cases made
      · split at made
        · cases made
          exact kept
        · cases made

/-- What stands somewhere is as it was when directories have been made. -/
theorem at?_makeDirectories {place : Place} {entry : Entry} (found : files.at? place = some entry)
    (made : files.makeDirectories path = .ok next) : next.at? place = some entry :=
  makeDirectoriesFrom_keeps (·.at? place = some entry) at?_makeDirectory found made

/-- The files are the same when directories have been made. -/
theorem at?_file_makeDirectories_iff {place : Place} {bytes : ByteArray}
    (made : files.makeDirectories path = .ok next) :
    next.at? place = some (.file bytes) ↔ files.at? place = some (.file bytes) := by
  refine ⟨?_, fun found => at?_makeDirectories found made⟩
  exact makeDirectoriesFrom_keeps
    (fun later => later.at? place = some (.file bytes) → files.at? place = some (.file bytes))
    (fun earlier made found => earlier (at?_file_makeDirectory made found)) id made

/-- A directory that is there is left alone. -/
theorem makeDirectories_of_isDirectory (isThere : files.isDirectory path = true) :
    files.makeDirectories path = .ok files := by
  unfold makeDirectories
  rcases path with ⟨root, parts⟩
  rcases split : parts.reverse with _ | ⟨name, above⟩
  · have none : parts = [] := List.reverse_eq_nil_iff.mp split
    subst none
    simp [makeDirectoriesFrom, isThere]
  · have whole : (name :: above).reverse = parts := by
      rw [← split, List.reverse_reverse]
    rcases isDirectory_iff.mp isThere with ⟨place, located, held⟩
    have taken : files.makeDirectory ⟨root, parts⟩ = .error .exists := by
      unfold makeDirectory
      rw [located]
      simp only
      rw [held]
    simp only [makeDirectoriesFrom, whole, taken, isThere, if_true]

/-! ## Writing files -/

theorem writable_eq_ok_iff {place : Place} :
    files.writable path = .ok place ↔
      files.locate path = .ok place ∧ files.at? place ≠ some .directory := by
  unfold writable
  cases files.locate path with
  | error cause => simp
  | ok found =>
      simp only
      split
      · rename_i isDirectory
        constructor
        · intro wrong
          cases wrong
        · rintro ⟨same, other⟩
          cases same
          exact absurd isDirectory other
      · rename_i other
        constructor
        · intro same
          cases same
          exact ⟨rfl, fun isDirectory => other isDirectory⟩
        · rintro ⟨same, _⟩
          cases same
          rfl

/-- A file that can be written is written: it holds the bytes then. -/
theorem write_of_writable {place : Place} (able : files.writable path = .ok place)
    (bytes : ByteArray) :
    files.write path bytes = .ok (files.put place (.file bytes)) ∧
      Grows files (files.put place (.file bytes)) ∧
      (files.put place (.file bytes)).content path = .ok bytes := by
  rcases writable_eq_ok_iff.mp able with ⟨located, other⟩
  have free : ¬IsFixed place := fun fixed => other (files.at?_of_fixed fixed)
  have grows := Grows.put_file other bytes
  refine ⟨?_, grows, ?_⟩
  · unfold write
    rw [able]
    rfl
  · exact content_eq_ok_iff.mpr
      ⟨place, grows.locate located, at?_put_self files (.file bytes) free⟩

theorem write_eq_ok_iff {bytes : ByteArray} {next : Files} :
    files.write path bytes = .ok next ↔
      ∃ place, files.writable path = .ok place ∧ next = files.put place (.file bytes) := by
  unfold write
  cases files.writable path with
  | error fault => simp [Except.map]
  | ok place => simp [Except.map, eq_comm]

/-- Adding to a file leaves everything else. -/
theorem grows_appendAt {place : Place} (other : files.at? place ≠ some .directory)
    (bytes : ByteArray) : Grows files (files.appendAt place bytes) := by
  unfold appendAt
  split
  · exact Grows.put_file other _
  · exact Grows.put_file other _

/-- Adding to a file leaves what stands at other places. -/
theorem at?_appendAt_of_ne {place other : Place} (different : other ≠ place) (bytes : ByteArray) :
    (files.appendAt place bytes).at? other = files.at? other := by
  unfold appendAt
  split
  · exact at?_put_of_ne files _ different
  · exact at?_put_of_ne files _ different

/-- What is added to is a file. -/
theorem at?_appendAt_self {place : Place} (other : files.at? place ≠ some .directory)
    (bytes : ByteArray) : ∃ held, (files.appendAt place bytes).at? place = some (.file held) := by
  have free : ¬IsFixed place := fun fixed => other (files.at?_of_fixed fixed)
  unfold appendAt
  split
  · exact ⟨_, at?_put_self files _ free⟩
  · exact ⟨_, at?_put_self files _ free⟩

/-! ## Files that differ in one place -/

/-- Files that are the same but for the content of one of them. -/
structure SameBut (place : Place) (first second : Files) : Prop where
  others : ∀ other, other ≠ place → second.at? other = first.at? other
  held : ∃ bytes, first.at? place = some (.file bytes)
  stays : ∃ bytes, second.at? place = some (.file bytes)

namespace SameBut

variable {place : Place} {first second : Files}

theorem refl {bytes : ByteArray} (held : first.at? place = some (.file bytes)) :
    SameBut place first first :=
  ⟨fun _ _ => rfl, ⟨bytes, held⟩, ⟨bytes, held⟩⟩

/-- More can be added to the file. -/
theorem appendAt (same : SameBut place first second) (bytes : ByteArray) :
    SameBut place first (second.appendAt place bytes) where
  others other different := by
    rw [at?_appendAt_of_ne different, same.others other different]
  held := same.held
  stays := by
    obtain ⟨held, found⟩ := same.stays
    exact at?_appendAt_self (by rw [found]; simp) bytes

/-- Names lead the same way, since a file is no directory whatever it holds. -/
theorem follow_eq (same : SameBut place first second) (start : Place) (names : List String) :
    second.follow start names = first.follow start names := by
  induction names generalizing start with
  | nil => rfl
  | cons name rest ih =>
      obtain ⟨held, found⟩ := same.held
      obtain ⟨later, stays⟩ := same.stays
      by_cases here : start = place
      · simp only [follow, here, found, stays]
      · simp only [follow, same.others start here, ih]

theorem locate_eq (same : SameBut place first second) (path : Path) :
    second.locate path = first.locate path := by
  unfold locate
  rw [same.follow_eq]

/-- A path that does not lead to the file leads to the same. -/
theorem entry_eq (same : SameBut place first second) {path : Path}
    (other : first.locate path ≠ .ok place) : second.entry path = first.entry path := by
  unfold entry
  rw [same.locate_eq]
  cases located : first.locate path with
  | error cause => rfl
  | ok reached =>
      have different : reached ≠ place := by
        rintro rfl
        exact other located
      simp only [same.others reached different]

end SameBut

end Files

end CompilePolicy.FileSystem
