import OnnxCorpus.CommandLine.Run
import OnnxCorpus.Proofs.Format.Crash

/-!
# Inspecting a file

Whatever bytes a readable file has, they are read as a model or refused, and the command that
summarizes the file ends with code zero or one, unless the dims of a tensor overflow.
-/

namespace OnnxCorpus

open CommandLine

theorem CommandLine.inspectFile_code {t : Tree} {file : String} {bytes : List UInt8}
    (found : t.read file = .ok bytes) :
    (inspectFile t file).toReport.code =
      match Model.decode bytes with
      | .ok _ => 0
      | .error (.error _) => 1
      | .error (.crash _) => 101 := by
  have loaded : Model.load t file = (Model.decode bytes).mapError (Fault.map .decode) := by
    rw [Model.load, found]
  rw [inspectFile, loaded]
  rcases Model.decode bytes with (_ | _) | _ <;> rfl

namespace Model

/-- Bytes are read as a model or refused exactly if they do not overflow. If they do, reading them
crashes, and inspecting a file that has them ends with neither zero nor one. -/
theorem decode_returns_iff (bytes : List UInt8) :
    (((∃ m, decode bytes = .ok m) ∨ ∃ cause, decode bytes = .error (.error cause)) ↔
      ¬Overflows bytes) ∧
    (Overflows bytes → decode bytes = .error (.crash Fault.overflow)) ∧
    ∀ t file, t.read file = .ok bytes →
      ((inspectFile t file).toReport.code ∈ [0, 1] ↔ ¬Overflows bytes) := by
  by_cases leaves : Overflows bytes
  · have crashed : decode bytes = .error (.crash Fault.overflow) :=
      decode_eq_crash_iff.2 ⟨rfl, leaves⟩
    refine ⟨by simp [crashed, leaves], fun _ => crashed, fun t file found => ?_⟩
    simp [inspectFile_code found, crashed, leaves]
  · have returned : (∃ m, decode bytes = .ok m) ∨
        ∃ cause, decode bytes = .error (.error cause) := by
      rcases outcome : decode bytes with (cause | text) | m
      · exact .inr ⟨cause, rfl⟩
      · exact absurd (decode_eq_crash_iff.1 outcome).2 leaves
      · exact .inl ⟨m, rfl⟩
    refine ⟨iff_of_true returned leaves, fun overflows => absurd overflows leaves,
      fun t file found => ?_⟩
    rw [inspectFile_code found]
    obtain ⟨m, read⟩ | ⟨cause, refused⟩ := returned
    · simp [read, leaves]
    · simp [refused, leaves]

/-- A file of one initializer without elements, whose dims are `2 ^ 62`, `4` and `0`. -/
def overflowing : List UInt8 :=
  [0x3a, 0x12, 0x2a, 0x10, 0x08, 0x80, 0x80, 0x80, 0x80, 0x80, 0x80, 0x80, 0x80, 0x40, 0x08, 0x04,
    0x08, 0x00, 0x10, 0x01]

/-- A tree with that file alone. -/
def overflowingTree : Tree := { entries := [(["a.onnx"], .file overflowing)] }

theorem decode_overflowing : decode overflowing = .error (.crash Fault.overflow) := rfl

theorem read_overflowing : overflowingTree.read "a.onnx" = .ok overflowing := by
  decide +kernel

theorem inspectFile_overflowing :
    (inspectFile overflowingTree "a.onnx").toReport.code ∉ [0, 1] := by
  intro fine
  have leaves : Overflows overflowing := (decode_eq_crash_iff.1 decode_overflowing).2
  have code := (decode_returns_iff overflowing).2.2 overflowingTree "a.onnx" read_overflowing
  exact code.1 fine leaves

/-- There are bytes that are neither read as a model nor refused. -/
theorem exists_decode_crash :
    ∃ bytes, ¬((∃ m, decode bytes = .ok m) ∨ ∃ cause, decode bytes = .error (.error cause)) :=
  ⟨overflowing, by simp [decode_overflowing]⟩

end Model

end OnnxCorpus
