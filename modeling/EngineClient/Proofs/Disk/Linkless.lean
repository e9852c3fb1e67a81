import EngineClient.Buffers
import EngineClient.Proofs.Disk.Links

/-!
# Disks without links

On a disk without links a path resolves to the names that it spells, and what it resolves to
resolves to itself.
-/

namespace EngineClient
namespace Disk

open EngineClient.Path

/-!
## Resolving
-/

/-- There are no links, and the working directory has plain names. -/
structure IsLinkless (d : Disk) : Prop where
  links : forall loc, d.linkTarget? loc = none
  cwd : forall name, name ∈ d.cwd -> IsPlain name

theorem isLinkless_bare : bare.IsLinkless where
  links loc := by
    cases loc with
    | nil => rfl
    | cons name rest => rfl
  cwd _ hname := absurd hname List.not_mem_nil

theorem IsLinkless.linkFree {d : Disk} (h : d.IsLinkless) (loc : Location) : d.LinkFree loc :=
  fun way _ => h.links way

theorem linkAt?_of_linkless {d : Disk} (h : d.IsLinkless) (p : Path) : d.linkAt? p = none := by
  unfold linkAt?
  split
  · rfl
  · exact h.links _

theorem path_of_resolvePieces {d : Disk} (h : d.IsLinkless) {depth : Nat} {met met' : Met}
    {p : Path} {ps : List (List Char)} {r : Reached}
    (hrun : d.resolvePieces depth met p ps = .ok (met', r)) : exists q, r = .path q := by
  induction ps generalizing p with
  | nil =>
      rw [resolvePieces] at hrun
      cases hrun
      exact ⟨p, rfl⟩
  | cons piece rest ih =>
      rw [resolvePieces] at hrun
      split at hrun
      · exact ih hrun
      · split at hrun
        · exact ih hrun
        · split at hrun
          · cases hrun
          · dsimp only at hrun
            rw [linkAt?_of_linkless h] at hrun
            exact ih hrun

theorem isPlain_of_realPath {d : Disk} (h : d.IsLinkless) {s : String} {real : Path}
    (hreal : d.realPath s = .ok real) :
    real.root = .single ∧ forall name, name ∈ real.parts -> IsPlain name := by
  rw [realPath_eq] at hreal
  cases hreach : d.reach s with
  | error f =>
      rw [hreach] at hreal
      cases hreal
  | ok r =>
      rcases path_of_resolvePieces h hreach with ⟨p, hp⟩
      rcases r with ⟨met, reached⟩
      cases hp
      have hstraight := straight_of_reach hreach
      rw [hreach, Except.map, hstraight.absolutePath] at hreal
      cases hreal
      exact ⟨rfl, hstraight.place_plain h.cwd⟩

theorem canonical_of_plain {d : Disk} (h : d.IsLinkless) {names : List String}
    (hplain : forall name, name ∈ names -> IsPlain name)
    (hnul : hasNul (⟨.single, names⟩ : Path).text = false) :
    d.canonical (Path.ofText (⟨.single, names⟩ : Path).text) = .ok ⟨.single, names⟩ :=
  canonical_of_linkFree hplain (h.linkFree names) hnul

theorem canonical_idempotent {d : Disk} (h : d.IsLinkless) {p real : Path}
    (hreal : d.canonical p = .ok real) : d.canonical (Path.ofText real.text) = .ok real := by
  rcases canonical_eq_ok hreal with ⟨q, _, hrun, hnul, _⟩
  rcases isPlain_of_realPath h hrun with ⟨hroot, hplain⟩
  rcases real with ⟨root, names⟩
  cases hroot
  exact canonical_of_plain h hplain hnul

end Disk

namespace Buffers

/-- A path of plain names that leads through no link is its own key. -/
theorem key_of_linkFree {d : Disk} {names : List String}
    (hplain : forall name, name ∈ names -> Path.IsPlain name) (hfree : d.LinkFree names)
    (hnul : Disk.hasNul (⟨.single, names⟩ : Path).text = false) :
    key d (⟨.single, names⟩ : Path).text = .ok (⟨.single, names⟩ : Path).text := by
  rw [key, Disk.canonical_of_linkFree hplain hfree hnul]
  rfl

theorem key_of_plain {d : Disk} (h : d.IsLinkless) {names : List String}
    (hplain : forall name, name ∈ names -> Path.IsPlain name)
    (hnul : Disk.hasNul (⟨.single, names⟩ : Path).text = false) :
    key d (⟨.single, names⟩ : Path).text = .ok (⟨.single, names⟩ : Path).text :=
  key_of_linkFree hplain (h.linkFree names) hnul

/-- On a disk without links, keys are their own keys. -/
theorem key_idempotent {d : Disk} (h : d.IsLinkless) {path k : String}
    (hkey : key d path = .ok k) : key d k = .ok k := by
  unfold key at hkey ⊢
  cases hreal : d.canonical (Path.ofText path) with
  | error f =>
      rw [hreal] at hkey
      cases hkey
  | ok real =>
      rw [hreal] at hkey
      cases hkey
      rw [Disk.canonical_idempotent h hreal]
      rfl

end Buffers
end EngineClient
