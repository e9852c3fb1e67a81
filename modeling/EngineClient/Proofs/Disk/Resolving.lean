import EngineClient.Disk.Resolve

/-!
# The steps of resolving a path

Resolving a path as a relation: one rule for each thing that a piece can be, and one for each way
in which following a link can end. Main statements: `resolves_resolvePieces`, `Resolves.eq`.
-/

namespace EngineClient
namespace Disk

open EngineClient.Path

structure IsStep (piece : List Char) : Prop where
  part : isPart piece = true
  down : piece ≠ ['.', '.']
  nulless : piece.contains (Char.ofNat 0) = false

/-- The pieces of a text are resolved one after the other behind a path, with so many links left
to be followed inside each other. -/
inductive Resolves (d : Disk) :
    Nat → Met → Path → List (List Char) → Except Fault (Met × Reached) → Prop where
  | done {depth : Nat} {met : Met} {p : Path} : Resolves d depth met p [] (.ok (met, .path p))
  | blank {depth : Nat} {met : Met} {p : Path} {piece : List Char} {rest : List (List Char)}
      {r : Except Fault (Met × Reached)} (hblank : isPart piece = false)
      (h : Resolves d depth met p rest r) : Resolves d depth met p (piece :: rest) r
  | up {depth : Nat} {met : Met} {p : Path} {rest : List (List Char)}
      {r : Except Fault (Met × Reached)} (h : Resolves d depth met (above p) rest r) :
      Resolves d depth met p (['.', '.'] :: rest) r
  | nul {depth : Nat} {met : Met} {p : Path} {piece : List Char} {rest : List (List Char)}
      (hpart : isPart piece = true) (hdown : piece ≠ ['.', '.'])
      (hnul : piece.contains (Char.ofNat 0) = true) :
      Resolves d depth met p (piece :: rest) (.error .embeddedNul)
  | down {depth : Nat} {met : Met} {p : Path} {piece : List Char} {rest : List (List Char)}
      {r : Except Fault (Met × Reached)} (hstep : IsStep piece)
      (hlink : d.linkAt? (below p (String.ofList piece)) = none)
      (h : Resolves d depth met (below p (String.ofList piece)) rest r) :
      Resolves d depth met p (piece :: rest) r
  | known {depth : Nat} {met : Met} {p known : Path} {piece : List Char}
      {rest : List (List Char)} {target : String} {r : Except Fault (Met × Reached)}
      (hstep : IsStep piece) (hlink : d.linkAt? (below p (String.ofList piece)) = some target)
      (hmet : met.lookup (below p (String.ofList piece)) = some (some known))
      (h : Resolves d depth met known rest r) : Resolves d depth met p (piece :: rest) r
  | back {depth : Nat} {met : Met} {p : Path} {piece : List Char} {rest : List (List Char)}
      {target : String} (hstep : IsStep piece)
      (hlink : d.linkAt? (below p (String.ofList piece)) = some target)
      (hmet : met.lookup (below p (String.ofList piece)) = some none) :
      Resolves d depth met p (piece :: rest)
        (.ok (met, .loop
          (joinText (below p (String.ofList piece)).text.toList (joinPieces rest))))
  | deep {met : Met} {p : Path} {piece : List Char} {rest : List (List Char)} {target : String}
      (hstep : IsStep piece) (hlink : d.linkAt? (below p (String.ofList piece)) = some target)
      (hnew : met.lookup (below p (String.ofList piece)) = none) :
      Resolves d 0 met p (piece :: rest) (.error .tooDeep)
  | failed {depth : Nat} {met : Met} {p : Path} {piece : List Char} {rest : List (List Char)}
      {target : String} {f : Fault} (hstep : IsStep piece)
      (hlink : d.linkAt? (below p (String.ofList piece)) = some target)
      (hnew : met.lookup (below p (String.ofList piece)) = none)
      (h : Resolves d depth ((below p (String.ofList piece), none) :: met)
        (if isRooted target then ⟨.single, []⟩ else p) (pieces target.toList) (.error f)) :
      Resolves d (depth + 1) met p (piece :: rest) (.error f)
  | cut {depth : Nat} {met met' : Met} {p : Path} {piece text : List Char}
      {rest : List (List Char)} {target : String} (hstep : IsStep piece)
      (hlink : d.linkAt? (below p (String.ofList piece)) = some target)
      (hnew : met.lookup (below p (String.ofList piece)) = none)
      (h : Resolves d depth ((below p (String.ofList piece), none) :: met)
        (if isRooted target then ⟨.single, []⟩ else p) (pieces target.toList)
        (.ok (met', .loop text))) :
      Resolves d (depth + 1) met p (piece :: rest)
        (.ok (met', .loop (joinText text (joinPieces rest))))
  | through {depth : Nat} {met met' : Met} {p known : Path} {piece : List Char}
      {rest : List (List Char)} {target : String} {r : Except Fault (Met × Reached)}
      (hstep : IsStep piece) (hlink : d.linkAt? (below p (String.ofList piece)) = some target)
      (hnew : met.lookup (below p (String.ofList piece)) = none)
      (h : Resolves d depth ((below p (String.ofList piece), none) :: met)
        (if isRooted target then ⟨.single, []⟩ else p) (pieces target.toList)
        (.ok (met', .path known)))
      (hrest : Resolves d (depth + 1) ((below p (String.ofList piece), some known) :: met') known
        rest r) :
      Resolves d (depth + 1) met p (piece :: rest) r

variable {d : Disk} {depth : Nat} {met : Met} {p : Path}

theorem IsStep.kept {piece : List Char} (h : IsStep piece) : ¬ (!isPart piece) = true := by
  simp [h.part]

theorem IsStep.whole {piece : List Char} (h : IsStep piece) :
    ¬ piece.contains (Char.ofNat 0) = true := by
  rw [h.nulless]
  simp

theorem resolves_cons {piece : List Char} {rest : List (List Char)}
    (hrest : forall met p, Resolves d depth met p rest (d.resolvePieces depth met p rest))
    (hinner : forall n, n + 1 = depth -> forall met p ps,
      Resolves d n met p ps (d.resolvePieces n met p ps)) (met : Met) (p : Path) :
    Resolves d depth met p (piece :: rest) (d.resolvePieces depth met p (piece :: rest)) := by
  rw [resolvePieces]
  split
  · rename_i hblank
    exact .blank (by simpa using hblank) (hrest met p)
  · rename_i hpart
    have hpart : isPart piece = true := by simpa using hpart
    split
    · rename_i hup
      rw [hup]
      exact .up (hrest met (above p))
    · rename_i hdown
      split
      · rename_i hnul
        exact .nul hpart hdown hnul
      · rename_i hnul
        have hstep : IsStep piece := ⟨hpart, hdown, by simpa using hnul⟩
        dsimp only
        cases hlink : d.linkAt? (below p (String.ofList piece)) with
        | none => exact .down hstep hlink (hrest met _)
        | some target =>
            cases hmet : met.lookup (below p (String.ofList piece)) with
            | some known? =>
                cases known? with
                | none => exact .back hstep hlink hmet
                | some known => exact .known hstep hlink hmet (hrest met known)
            | none =>
                cases depth with
                | zero => exact .deep hstep hlink hmet
                | succ depth =>
                    have h := hinner depth rfl ((below p (String.ofList piece), none) :: met)
                      (if isRooted target then ⟨.single, []⟩ else p) (pieces target.toList)
                    dsimp only
                    split
                    · rename_i f hrun
                      rw [hrun] at h
                      exact .failed hstep hlink hmet h
                    · rename_i met' text hrun
                      rw [hrun] at h
                      exact .cut hstep hlink hmet h
                    · rename_i met' known hrun
                      rw [hrun] at h
                      exact .through hstep hlink hmet h (hrest _ known)

theorem resolves_resolvePieces (d : Disk) (depth : Nat) (met : Met) (p : Path)
    (ps : List (List Char)) : Resolves d depth met p ps (d.resolvePieces depth met p ps) := by
  induction depth using Nat.strongRecOn generalizing met p ps with
  | ind depth hinner =>
      induction ps generalizing met p with
      | nil =>
          rw [resolvePieces]
          exact .done
      | cons piece rest hrest =>
          refine resolves_cons hrest ?_ met p
          intro n hn
          exact hinner n (by omega)

theorem Resolves.eq {ps : List (List Char)} {r : Except Fault (Met × Reached)}
    (h : Resolves d depth met p ps r) : d.resolvePieces depth met p ps = r := by
  induction h with
  | done => rw [resolvePieces]
  | blank hblank _ ih =>
      rw [resolvePieces, if_pos (by simp [hblank])]
      exact ih
  | up _ ih =>
      rw [resolvePieces, if_neg (by decide), if_pos rfl]
      exact ih
  | nul hpart hdown hnul => rw [resolvePieces, if_neg (by simp [hpart]), if_neg hdown, if_pos hnul]
  | down hstep hlink _ ih =>
      rw [resolvePieces, if_neg hstep.kept, if_neg hstep.down, if_neg hstep.whole]
      dsimp only
      rw [hlink]
      exact ih
  | known hstep hlink hmet _ ih =>
      rw [resolvePieces, if_neg hstep.kept, if_neg hstep.down, if_neg hstep.whole]
      dsimp only
      rw [hlink, hmet]
      exact ih
  | back hstep hlink hmet =>
      rw [resolvePieces, if_neg hstep.kept, if_neg hstep.down, if_neg hstep.whole]
      dsimp only
      rw [hlink, hmet]
  | deep hstep hlink hnew =>
      rw [resolvePieces, if_neg hstep.kept, if_neg hstep.down, if_neg hstep.whole]
      dsimp only
      rw [hlink, hnew]
  | failed hstep hlink hnew _ ih =>
      rw [resolvePieces, if_neg hstep.kept, if_neg hstep.down, if_neg hstep.whole]
      dsimp only
      rw [hlink, hnew]
      dsimp only
      rw [ih]
  | cut hstep hlink hnew _ ih =>
      rw [resolvePieces, if_neg hstep.kept, if_neg hstep.down, if_neg hstep.whole]
      dsimp only
      rw [hlink, hnew]
      dsimp only
      rw [ih]
  | through hstep hlink hnew _ _ ih ihrest =>
      rw [resolvePieces, if_neg hstep.kept, if_neg hstep.down, if_neg hstep.whole]
      dsimp only
      rw [hlink, hnew]
      dsimp only
      rw [ih]
      exact ihrest

end Disk
end EngineClient
