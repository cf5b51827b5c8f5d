import CompilePolicy.Proofs.Policy.Resolution

/-!
# The file behind a source

The resolution reads at most one file, the one that its source of conventions names. What
the files hold elsewhere has no part in it.
-/

namespace CompilePolicy

open Conventions FileSystem

namespace FileSystem

/-- A path leads to the same file in two trees of files, if it leads to a file at all. -/
def HoldsSame (path : Path) (first second : Files) : Prop :=
  ∀ bytes, second.entry path = .ok (.file bytes) ↔ first.entry path = .ok (.file bytes)

theorem isFile_iff {files : Files} {path : Path} :
    files.isFile path = true ↔ ∃ bytes, files.entry path = .ok (.file bytes) := by
  unfold Files.isFile
  cases files.entry path with
  | error cause => simp
  | ok found => cases found <;> simp

theorem content_of_entry {files : Files} {path : Path} {bytes : ByteArray}
    (found : files.entry path = .ok (.file bytes)) : files.content path = .ok bytes := by
  unfold Files.content
  rw [found]

end FileSystem

variable {first second : Files}

theorem Conventions.sourceText_congr {source : String}
    (same : HoldsSame (.ofText source) first second) :
    sourceText second source = sourceText first source := by
  unfold sourceText
  cases held : first.isFile (.ofText source) with
  | true =>
      obtain ⟨bytes, found⟩ := isFile_iff.mp held
      have foundLater := (same bytes).mpr found
      have heldLater := isFile_iff.mpr ⟨bytes, foundLater⟩
      simp only [held, heldLater, content_of_entry found, content_of_entry foundLater]
  | false =>
      have freeLater : second.isFile (.ofText source) = false := by
        rw [Bool.eq_false_iff, ne_eq, isFile_iff]
        rintro ⟨bytes, found⟩
        rw [isFile_iff.mpr ⟨bytes, (same bytes).mp found⟩] at held
        cases held
      simp [held, freeLater]

theorem Conventions.parseSource_congr {source : String}
    (same : HoldsSame (.ofText source) first second) :
    parseSource second source = parseSource first source := by
  unfold parseSource load
  rw [sourceText_congr same]

/-- The resolution reads the source of conventions and no other file. -/
theorem resolveConfiguration_congr_files {properties : Properties}
    (same : ∀ source, properties.source? = some source →
      HoldsSame (.ofText source) first second) :
    resolveConfiguration second properties = resolveConfiguration first properties := by
  cases led : properties.source? with
  | none =>
      unfold Properties.source? at led
      unfold resolveConfiguration
      split at led
      · rename_i session
        rw [if_pos session, if_pos session]
      · rename_i outside
        rw [if_neg outside, if_neg outside, led]
  | some source =>
      rw [resolveConfiguration_of_source led, resolveConfiguration_of_source led]
      unfold resolveSource
      rw [parseSource_congr (same source led)]

end CompilePolicy
