import CompilePolicy.Proofs.FileSystem.Growth
import CompilePolicy.Proofs.Report.Encoding

/-!
# Exporting all reports

A report is written if it has bytes and its file can be written. The reports have
files of their own in one directory, so writing one of them is no matter for the
others, and in the end all of them stand there or the export has failed.
-/

namespace CompilePolicy.Report

open CompilePolicy.FileSystem CompilePolicy.Text

/-! ## Single reports -/

/-- A report can be written into a directory. -/
def Content.Fits (content : Content) (files : Files) (directory : Path) (format : Format) : Prop :=
  (∃ place, files.writable (directory.child format.fileName) = .ok place) ∧
    ∃ bytes, content.HasBytes format bytes

/-- A report stands in a directory. -/
def Content.StandsIn (content : Content) (files : Files) (directory : Path) (format : Format) :
    Prop :=
  ∃ bytes, content.HasBytes format bytes ∧
    files.content (directory.child format.fileName) = .ok bytes

theorem fileName_injective {first second : Format} (same : first.fileName = second.fileName) :
    first = second := by
  cases first <;> cases second <;> first | rfl | exact absurd same (by decide)

theorem fileName_ne_above (format : Format) : format.fileName ≠ ".." := by
  cases format <;> decide

theorem parent_child (path : Path) (name : String) : (path.child name).parent = path := by
  simp [Path.child, Path.parent]

variable {files : Files} {content : Content} {directory : Path} {place : Place}

/-- A directory is there, at a place. -/
structure IsAt (files : Files) (directory : Path) (place : Place) : Prop where
  located : files.locate directory = .ok place
  isDirectory : files.at? place = some .directory

/-- Where a report is written to. -/
theorem writable_report_iff (isAt : IsAt files directory place) {format : Format}
    {asked : Place} :
    files.writable (directory.child format.fileName) = .ok asked ↔
      (Files.CanName directory format.fileName ∧ asked = place ++ [format.fileName]) ∧
        files.at? asked ≠ some .directory := by
  rw [Files.writable_eq_ok_iff,
    Files.locate_child_eq_ok_iff (fileName_ne_above format) isAt.located isAt.isDirectory]

/-- Writing one report is no matter for where the others can be written. -/
theorem writable_put_iff (isAt : IsAt files directory place) {format other : Format}
    (different : other ≠ format) {asked : Place}
    (able : files.writable (directory.child format.fileName) = .ok asked) (bytes : ByteArray)
    {later : Place} :
    (files.put asked (.file bytes)).writable (directory.child other.fileName) = .ok later ↔
      files.writable (directory.child other.fileName) = .ok later := by
  have grows := (Files.write_of_writable able bytes).2.1
  have stays : IsAt (files.put asked (.file bytes)) directory place :=
    ⟨grows.locate isAt.located, grows.directories isAt.isDirectory⟩
  rw [writable_report_iff stays, writable_report_iff isAt]
  rcases (writable_report_iff isAt).mp able with ⟨⟨_, rfl⟩, _⟩
  apply and_congr_right
  rintro ⟨_, rfl⟩
  have apart : place ++ [other.fileName] ≠ place ++ [format.fileName] := by
    intro same
    exact different (fileName_injective (by simpa using same))
  rw [Files.at?_put_of_ne files _ apart]

theorem bind_eq_ok_iff {ε α β : Type} {first : Except ε α} {next : α → Except ε β} {value : β} :
    first >>= next = .ok value ↔ ∃ between, first = .ok between ∧ next between = .ok value := by
  cases first with
  | error fault =>
      constructor
      · intro wrong
        cases wrong
      · rintro ⟨_, wrong, _⟩
        cases wrong
  | ok between =>
      constructor
      · intro ran
        exact ⟨between, rfl, ran⟩
      · rintro ⟨_, same, ran⟩
        cases same
        exact ran

theorem mapError_eq_ok_iff {ε φ α : Type} {result : Except ε α} {cause : ε → φ} {value : α} :
    result.mapError cause = .ok value ↔ result = .ok value := by
  cases result <;> simp [Except.mapError]

/-- A report is written if it has bytes and its file can be written. -/
theorem exportOne_eq_ok_iff (isThere : files.isDirectory directory = true) {format : Format}
    {next : Files} :
    exportOne files content format (directory.child format.fileName) = .ok next ↔
      ∃ asked bytes, files.writable (directory.child format.fileName) = .ok asked ∧
        content.HasBytes format bytes ∧ next = files.put asked (.file bytes) := by
  have made : files.makeDirectories (directory.child format.fileName).parent = .ok files := by
    rw [parent_child]
    exact Files.makeDirectories_of_isDirectory isThere
  simp only [exportOne, bind_eq_ok_iff, mapError_eq_ok_iff, made, Files.write_eq_ok_iff]
  constructor
  · rintro ⟨_, same, text, worded, bytes, coded, asked, able, rfl⟩
    cases same
    exact ⟨asked, bytes, able, ⟨text, worded, coded⟩, rfl⟩
  · rintro ⟨asked, bytes, able, ⟨text, worded, coded⟩, rfl⟩
    exact ⟨files, rfl, text, worded, bytes, coded, asked, able, rfl⟩

/-! ## Several reports -/

/-- The first report fits and is written, or it does not fit and nothing is written. -/
theorem exportEach_cons (isAt : IsAt files directory place) (format : Format)
    (rest : List Format) :
    (¬content.Fits files directory format ∧
      ∃ fault, exportEach content directory (format :: rest) files = ⟨files, some fault⟩) ∨
    ∃ bytes, content.HasBytes format bytes ∧
      files.writable (directory.child format.fileName) = .ok (place ++ [format.fileName]) ∧
      exportEach content directory (format :: rest) files =
        exportEach content directory rest
          (files.put (place ++ [format.fileName]) (.file bytes)) := by
  have isThere := Files.isDirectory_iff.mpr ⟨place, isAt.located, isAt.isDirectory⟩
  rw [exportEach]
  cases ran : exportOne files content format (directory.child format.fileName) with
  | error fault =>
      refine .inl ⟨?_, fault, rfl⟩
      rintro ⟨⟨asked, able⟩, bytes, has⟩
      rw [(exportOne_eq_ok_iff isThere).mpr ⟨asked, bytes, able, has, rfl⟩] at ran
      cases ran
  | ok written =>
      rcases (exportOne_eq_ok_iff isThere).mp ran with ⟨asked, bytes, able, has, rfl⟩
      rcases (writable_report_iff isAt).mp able with ⟨⟨_, rfl⟩, _⟩
      exact .inr ⟨bytes, has, able, rfl⟩

theorem IsAt.put (isAt : IsAt files directory place) {format : Format} {asked : Place}
    (able : files.writable (directory.child format.fileName) = .ok asked) (bytes : ByteArray) :
    IsAt (files.put asked (.file bytes)) directory place := by
  have grows := (Files.write_of_writable able bytes).2.1
  exact ⟨grows.locate isAt.located, grows.directories isAt.isDirectory⟩

/-- Reports are written to their own files only. -/
theorem exportEach_leaves {formats : List Format} (isAt : IsAt files directory place) :
    files.Grows (exportEach content directory formats files).files ∧
      ∀ other, (∀ format ∈ formats, other ≠ place ++ [format.fileName]) →
        (exportEach content directory formats files).files.at? other = files.at? other := by
  induction formats generalizing files with
  | nil => exact ⟨.refl files, fun _ _ => rfl⟩
  | cons format rest ih =>
      rcases exportEach_cons isAt format rest with ⟨_, fault, stopped⟩ | ⟨bytes, _, able, onward⟩
      · rw [stopped]
        exact ⟨.refl files, fun _ _ => rfl⟩
      · rcases ih (isAt.put able bytes) with ⟨grows, spared⟩
        rw [onward]
        refine ⟨(Files.write_of_writable able bytes).2.1.trans grows, ?_⟩
        intro other unlike
        rcases List.forall_mem_cons.mp unlike with ⟨first, others⟩
        rw [spared other others, Files.at?_put_of_ne files _ first]

/-- Reports are all written exactly if they all fit. -/
theorem exportEach_fault_iff {formats : List Format} (distinct : formats.Nodup)
    (isAt : IsAt files directory place) :
    (exportEach content directory formats files).fault = none ↔
      ∀ format ∈ formats, content.Fits files directory format := by
  induction formats generalizing files with
  | nil => simp [exportEach]
  | cons format rest ih =>
      rcases List.nodup_cons.mp distinct with ⟨new, distinct⟩
      rw [List.forall_mem_cons]
      rcases exportEach_cons isAt format rest with
        ⟨unfit, fault, stopped⟩ | ⟨bytes, has, able, onward⟩
      · rw [stopped]
        simp [unfit]
      · rw [onward, ih distinct (isAt.put able bytes)]
        have same : ∀ other ∈ rest,
            content.Fits (files.put (place ++ [format.fileName]) (.file bytes)) directory other ↔
              content.Fits files directory other := by
          intro other listed
          have different : other ≠ format := fun same => new (same ▸ listed)
          simp only [Content.Fits, writable_put_iff isAt different able]
        constructor
        · intro all
          refine ⟨⟨⟨_, able⟩, bytes, has⟩, fun other listed => ?_⟩
          exact (same other listed).mp (all other listed)
        · rintro ⟨_, all⟩ other listed
          exact (same other listed).mpr (all other listed)

/-- Reports that are all written stand in the directory. -/
theorem standsIn_of_exportEach {formats : List Format} (distinct : formats.Nodup)
    (isAt : IsAt files directory place)
    (written : (exportEach content directory formats files).fault = none) :
    ∀ format ∈ formats,
      content.StandsIn (exportEach content directory formats files).files directory format := by
  induction formats generalizing files with
  | nil => exact List.forall_mem_nil _
  | cons format rest ih =>
      rcases List.nodup_cons.mp distinct with ⟨new, distinct⟩
      rcases exportEach_cons isAt format rest with
        ⟨_, fault, stopped⟩ | ⟨bytes, has, able, onward⟩
      · rw [stopped] at written
        cases written
      · have stays := isAt.put able bytes
        rw [onward] at written ⊢
        refine List.forall_mem_cons.mpr ⟨⟨bytes, has, ?_⟩, ih distinct stays written⟩
        rcases @exportEach_leaves _ content _ _ rest stays with ⟨grows, spared⟩
        rcases Files.writable_eq_ok_iff.mp able with ⟨located, other⟩
        have free : ¬Files.IsFixed (place ++ [format.fileName]) :=
          fun fixed => other (files.at?_of_fixed fixed)
        have apart : ∀ other ∈ rest, place ++ [format.fileName] ≠ place ++ [other.fileName] := by
          intro other listed same
          have names : format.fileName = other.fileName := by
            simpa using same
          exact new (fileName_injective names ▸ listed)
        refine Files.content_eq_ok_iff.mpr ⟨place ++ [format.fileName], ?_, ?_⟩
        · exact grows.locate ((Files.write_of_writable able bytes).2.1.locate located)
        · rw [spared _ apart]
          exact Files.at?_put_self files _ free

/-! ## All reports -/

/-- A directory can be written: it is there or can be made, and so can the files of all
reports in it. -/
def CanHold (files : Files) (directory : Path) : Prop :=
  ∃ prepared, files.makeDirectories directory = .ok prepared ∧
    ∀ format : Format, ∃ asked, prepared.writable (directory.child format.fileName) = .ok asked

theorem mem_all (format : Format) : format ∈ Format.all := by
  cases format <;> decide

theorem canHold_iff {files : Files} {directory : Path} :
    CanHold files directory ↔
      ∃ prepared ∈ (files.makeDirectories directory).toOption, ∀ format ∈ Format.all,
        (prepared.writable (directory.child format.fileName)).toOption.isSome := by
  have isOk {error value : Type} {result : Except error value} :
      result.toOption.isSome ↔ ∃ found, result = .ok found := by
    cases result <;> simp [Except.toOption]
  simp only [isOk, mem_all, forall_true_left]
  cases made : files.makeDirectories directory <;> simp [CanHold, made, Except.toOption]

/-- The directory is made and the reports are asked for. -/
instance (files : Files) (directory : Path) : Decidable (CanHold files directory) :=
  decidable_of_iff _ canHold_iff.symm

/-- An export succeeds exactly if the directory can be written and all reports have bytes.
They all stand in the directory then. -/
theorem exportAll_spec (files : Files) (content : Content) (directory : Path) :
    ((exportAll files content directory).fault = none ↔
      CanHold files directory ∧ ∀ format, ∃ bytes, content.HasBytes format bytes) ∧
    ((exportAll files content directory).fault = none →
      ∀ format, content.StandsIn (exportAll files content directory).files directory format) := by
  have distinct : Format.all.Nodup := by
    decide
  unfold exportAll CanHold
  cases made : files.makeDirectories directory with
  | error fault => simp
  | ok prepared =>
      rcases Files.isDirectory_iff.mp (Files.isDirectory_makeDirectories made).2 with
        ⟨place, located, isDirectory⟩
      have isAt : IsAt prepared directory place := ⟨located, isDirectory⟩
      constructor
      · rw [exportEach_fault_iff distinct isAt]
        constructor
        · intro fit
          exact ⟨⟨prepared, rfl, fun format => (fit format (mem_all format)).1⟩,
            fun format => (fit format (mem_all format)).2⟩
        · rintro ⟨⟨_, same, able⟩, coded⟩ format _
          cases same
          exact ⟨able format, coded format⟩
      · intro written format
        exact standsIn_of_exportEach distinct isAt written format (mem_all format)

end CompilePolicy.Report
