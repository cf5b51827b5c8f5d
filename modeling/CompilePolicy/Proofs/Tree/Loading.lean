import CompilePolicy.Proofs.Tree.Reading
import CompilePolicy.Tree.Loading

/-!
# When loading fails

Loading a file gives units or says that the file is no descriptor, with three
exceptions: a number of a JSON document has too many digits to be read, a scalar of
a YAML document has no value, or a whole number of the document has too many digits to
be shown where its text is asked for.
-/

namespace CompilePolicy.Descriptor

open CompilePolicy.Document CompilePolicy.FileSystem

/-- What YAML gives for the content of a file: the file is read up to where it is no
text. -/
def yamlOf (content : ByteArray) : Except Yaml.Fault Value :=
  match textOf? content with
  | some text => Yaml.readPieces text true
  | none => Yaml.readPieces (soundTextOf content) false

/-- The content of a file that ends the loading with neither units nor a word on the
format. -/
inductive EndsLoading (path : Path) (content : ByteArray) : Prop
  | digits {text : String} {count : Nat} (isJson : isJson path = true)
      (held : textOf? content = some text)
      (unread : Json.read text = .error (.tooManyDigits count)) : EndsLoading path content
  | scalar {fault : Yaml.Fault} (isYaml : isJson path = false)
      (unread : yamlOf content = .error fault) (isScalar : fault ≠ .malformed) :
      EndsLoading path content
  | number {document : Value} {fault : Fault} (read : documentOf path content = .ok document)
      (long : HoldsLong document) (ended : readUnits document = .error fault)
      (wanting : fault.problem = .tooManyDigits) : EndsLoading path content

theorem isFormat_descriptor_eq_false_iff {fault : Fault} :
    (LoadFault.descriptor fault).isFormat = false ↔ fault.problem = .tooManyDigits := by
  simp only [LoadFault.isFormat]
  cases fault.problem <;> simp

/-- A fault of the format says where and what is wrong. -/
theorem message?_of_isFormat {fault : LoadFault} (isFormat : fault.isFormat = true) :
    fault.message?.isSome = true := by
  cases fault with
  | notParsed path => rfl
  | descriptor inner => rfl
  | _ => cases isFormat

theorem documentOf_json {path : Path} (isJson : isJson path = true) (content : ByteArray) :
    documentOf path content = jsonDocument path (textOf? content) := by
  unfold documentOf
  rw [if_pos isJson]

/-- The document of a YAML text, by what YAML gives for it. -/
theorem yamlDocument_eq (path : Path) (text : String) (isWhole : Bool) :
    yamlDocument path text isWhole =
      match Yaml.readPieces text isWhole with
      | .ok value => .ok value
      | .error .malformed => .error (.notParsed path.text)
      | .error fault => .error (.scalar fault) := by
  unfold yamlDocument
  generalize Yaml.readPieces text isWhole = result
  rfl

/-- The document of a YAML file, by what YAML gives for it. -/
theorem documentOf_yaml {path : Path} (isYaml : isJson path = false) (content : ByteArray) :
    documentOf path content =
      match yamlOf content with
      | .ok value => .ok value
      | .error .malformed => .error (.notParsed path.text)
      | .error fault => .error (.scalar fault) := by
  unfold documentOf yamlOf
  rw [if_neg (by simp [isYaml])]
  cases textOf? content with
  | none => exact yamlDocument_eq path (soundTextOf content) false
  | some text => exact yamlDocument_eq path text true

/-- A document that is not read for another reason than its format ends the loading. -/
theorem endsLoading_of_unread {path : Path} {content : ByteArray} {fault : LoadFault}
    (failed : documentOf path content = .error fault) (other : fault.isFormat = false) :
    EndsLoading path content := by
  cases json : isJson path with
  | true =>
      rw [documentOf_json json] at failed
      cases held : textOf? content with
      | none =>
          rw [held] at failed
          cases failed
          cases other
      | some text =>
          rw [held] at failed
          cases read : Json.read text with
          | ok value =>
              simp [jsonDocument, read] at failed
          | error unread =>
              cases unread with
              | malformed =>
                  simp only [jsonDocument, Option.map_some, read] at failed
                  cases failed
                  cases other
              | tooManyDigits count => exact .digits json held read
  | false =>
      rw [documentOf_yaml json] at failed
      cases read : yamlOf content with
      | ok value =>
          rw [read] at failed
          cases failed
      | error unread =>
          refine .scalar json read fun malformed => ?_
          rw [read, malformed] at failed
          cases failed
          cases other

/-- A document whose units are not read for another reason than the format ends the
loading. -/
theorem endsLoading_of_unfinished {path : Path} {content : ByteArray} {document : Value}
    {fault : Fault} (read : documentOf path content = .ok document)
    (ended : readUnits document = .error fault) (wanting : fault.problem = .tooManyDigits) :
    EndsLoading path content :=
  .number read (failsOnly_readUnits document fault ended wanting) ended wanting

/-- The units of a regular file are those of its document. -/
theorem loadUnits_of_regular {files : Files} {path : Path} {content : ByteArray}
    (regular : files.entry path = .ok (.file content)) :
    loadUnits files path =
      match documentOf path content with
      | .error fault => .error fault
      | .ok document => (readUnits document).mapError .descriptor := by
  have isThere : files.isThere path = .ok true := by
    unfold Files.isThere
    rw [regular]
  have held : files.content path = .ok content := by
    unfold Files.content
    rw [regular]
  have read : readDocument files path = documentOf path content := by
    unfold readDocument
    rewrite [isThere, held]
    rfl
  unfold loadUnits
  rewrite [read]
  generalize documentOf path content = document
  rfl

/-- Loading a regular file fails for another reason than its format exactly if its
content ends the loading. -/
theorem loadUnits_unformatted_iff {files : Files} {path : Path} {content : ByteArray}
    (regular : files.entry path = .ok (.file content)) :
    (∃ fault, loadUnits files path = .error fault ∧ fault.isFormat = false) ↔
      EndsLoading path content := by
  rw [loadUnits_of_regular regular]
  constructor
  · rintro ⟨fault, failed, other⟩
    cases read : documentOf path content with
    | error unread =>
        rw [read] at failed
        cases failed
        exact endsLoading_of_unread read other
    | ok document =>
        cases ended : readUnits document with
        | ok units =>
            simp only [read, ended] at failed
            cases failed
        | error inner =>
            simp only [read, ended] at failed
            cases failed
            exact endsLoading_of_unfinished read ended
              (isFormat_descriptor_eq_false_iff.mp other)
  · rintro (⟨json, held, unread⟩ | ⟨yaml, unread, isScalar⟩ | ⟨read, _, ended, wanting⟩)
    · rename_i text count
      refine ⟨.tooManyDigits count, ?_, rfl⟩
      rw [documentOf_json json, held]
      simp [jsonDocument, unread]
    · rename_i fault
      refine ⟨.scalar fault, ?_, rfl⟩
      rw [documentOf_yaml yaml, unread]
      cases fault with
      | malformed => exact absurd rfl isScalar
      | _ => rfl
    · rename_i document fault _
      refine ⟨.descriptor fault, ?_, isFormat_descriptor_eq_false_iff.mpr wanting⟩
      rw [read]
      simp only
      rw [ended]
      rfl

end CompilePolicy.Descriptor
