import EngineClient.Disk.Change
import EngineClient.Disk.Lookup
import EngineClient.Disk.Resolve

/-!
# The root directory

On every disk the root is a directory, which cannot be read or made again, and it resolves to
itself.
-/

namespace EngineClient
namespace Disk

theorem text_root : (⟨.single, []⟩ : Path).text = "/" :=
  rfl

theorem ofText_root : Path.ofText "/" = ⟨.single, []⟩ :=
  rfl

theorem resolvePieces_blank (d : Disk) (depth : Nat) (met : Met) (p : Path) :
    d.resolvePieces depth met p [[], []] = .ok (met, .path p) := by
  simp [resolvePieces, Path.isPart]

theorem stat_root (d : Disk) : d.stat ⟨.single, []⟩ = .ok .directory := by
  have hsize : ¬ maxPathSize ≤ Text.Utf8.size (⟨.single, []⟩ : Path).text.toList := by
    decide
  unfold stat locate
  rw [if_neg hsize]
  simp only [walk]
  rfl

theorem makeDirectory_root (d : Disk) : d.makeDirectory ⟨.single, []⟩ = .ok d := by
  have hsize : ¬ maxPathSize ≤ Text.Utf8.size (⟨.single, []⟩ : Path).text.toList := by
    decide
  have hlocate : d.locate .entry ⟨.single, []⟩ = .ok [] := by
    rw [locate, if_neg hsize]
    change d.walk .entry maxLinks [] [] = _
    rw [walk]
  have hmake : d.makeOne ⟨.single, []⟩ = .error .exists := by
    rw [makeOne, hlocate]
    rfl
  have hstanding : d.orStanding ⟨.single, []⟩ .exists = .ok d := by
    rw [orStanding, isDirectory, stat_root]
    rfl
  change d.makeUpward .single [] = _
  rw [makeUpward, hmake]
  exact hstanding

theorem realPath_root (d : Disk) : d.realPath "/" = .ok ⟨.single, []⟩ := by
  have hpieces : Path.pieces "/".toList = [[], []] :=
    rfl
  have hrooted : isRooted "/" = true :=
    rfl
  unfold realPath
  rw [hrooted, hpieces]
  simp only [resolvePieces_blank]
  show Except.ok (d.absolutePath _) = _
  simp only [Reached.text, if_true, text_root]
  rfl

theorem canonical_root (d : Disk) : d.canonical (Path.ofText "/") = .ok ⟨.single, []⟩ := by
  have hnul : hasNul "/" = false :=
    rfl
  rw [ofText_root]
  show d.resolve ⟨.single, []⟩ = _
  unfold resolve
  rw [text_root, realPath_root]
  simp only [text_root, hnul, stat_root]
  rfl

theorem readText_root (d : Disk) :
    d.readText ⟨.single, []⟩ = .error (.os (DiskProblem.isDirectory.error "/")) := by
  have hnul : hasNul "/" = false :=
    rfl
  show Except.bind (readOctets d ⟨.single, []⟩) decodeFile = _
  rw [readOctets, text_root, hnul, stat_root]
  rfl

end Disk
end EngineClient
