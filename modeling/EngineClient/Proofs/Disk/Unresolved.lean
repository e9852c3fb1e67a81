import EngineClient.Proofs.Disk.Linkless

/-!
# Paths that cannot be resolved

Resolving a path fails for four causes, none of which is an error of the operating system or of
an encoding. Reading the file of a resolved path fails for nothing else than those. Main
statements: `isUnresolved_of_key`, `foreseen_of_readText_key`.
-/

namespace EngineClient

inductive Fault.IsUnresolved : Fault → Prop where
  | nul : IsUnresolved .embeddedNul
  | home : IsUnresolved .noHome
  | deep : IsUnresolved .tooDeep
  | loop (path : String) : IsUnresolved (.linkLoop path)

namespace Disk

/-!
## Resolving
-/

theorem isUnresolved_of_expandUser {d : Disk} {p : Path} {f : Fault}
    (h : d.expandUser p = .error f) : f.IsUnresolved := by
  unfold expandUser at h
  split at h
  · split at h
    · split at h
      · cases h
        exact .nul
      · split at h
        · cases h
          exact .home
        · split at h
          · cases h
            exact .home
          · cases h
    · cases h
  · cases h

theorem Resolves.isUnresolved {d : Disk} {depth : Nat} {met : Met} {p : Path}
    {ps : List (List Char)} {f : Fault} (h : Resolves d depth met p ps (.error f)) :
    f.IsUnresolved := by
  generalize hend : Except.error f = s at h
  induction h with
  | done => cases hend
  | blank _ _ ih => exact ih hend
  | up _ ih => exact ih hend
  | nul =>
      cases hend
      exact .nul
  | down _ _ _ ih => exact ih hend
  | known _ _ _ _ ih => exact ih hend
  | back => cases hend
  | deep =>
      cases hend
      exact .deep
  | failed _ _ _ _ ih => exact ih hend
  | cut => cases hend
  | through _ _ _ _ _ _ ihrest => exact ihrest hend

theorem isUnresolved_of_canonical {d : Disk} {p : Path} {f : Fault}
    (h : d.canonical p = .error f) : f.IsUnresolved := by
  unfold canonical at h
  cases hexpand : d.expandUser p with
  | error g =>
      rw [hexpand] at h
      cases h
      exact isUnresolved_of_expandUser hexpand
  | ok q =>
      rw [hexpand] at h
      change d.resolve q = .error f at h
      unfold resolve at h
      cases hreal : d.realPath q.text with
      | error g =>
          rw [hreal] at h
          cases h
          rw [realPath_eq] at hreal
          cases hreach : d.reach q.text with
          | error e =>
              rw [hreach] at hreal
              cases hreal
              exact (hreach ▸ resolves_reach d q.text).isUnresolved
          | ok r =>
              rw [hreach] at hreal
              cases hreal
      | ok real =>
          rw [hreal] at h
          dsimp only at h
          split at h
          · cases h
            exact .nul
          · split at h
            · cases h
              exact .loop _
            · cases h

/-!
## Reading
-/

theorem foreseen_of_readText {d : Disk} {p : Path} {f : Fault} (hnul : hasNul p.text = false)
    (h : d.readText p = .error f) : (f.isOs || f.isUndecodable) = true := by
  unfold readText readOctets at h
  rw [hnul] at h
  cases hstat : d.stat p with
  | error problem =>
      rw [hstat] at h
      cases h
      rfl
  | ok node =>
      rw [hstat] at h
      cases node with
      | file content =>
          change decodeFile content = .error f at h
          unfold decodeFile at h
          split at h
          · cases h
          · cases h
            rfl
      | sealed content =>
          cases h
          rfl
      | directory =>
          cases h
          rfl
      | link target =>
          cases h
          rfl

end Disk

namespace Path

theorem of_mem_joinPieces {c : Char} {ps : List (List Char)} (h : c ∈ joinPieces ps) :
    c = '/' ∨ exists p, p ∈ ps ∧ c ∈ p := by
  induction ps with
  | nil => cases h
  | cons p ps ih =>
      cases ps with
      | nil => exact Or.inr ⟨p, List.mem_cons_self, h⟩
      | cons q qs =>
          rcases List.mem_append.mp h with h | h
          · exact Or.inr ⟨p, List.mem_cons_self, h⟩
          · rcases List.mem_cons.mp h with h | h
            · exact Or.inl h
            · rcases ih h with h | ⟨r, hr, hc⟩
              · exact Or.inl h
              · exact Or.inr ⟨r, List.mem_cons_of_mem p hr, hc⟩

/-- A path has the characters of the text that it was read from, and slashes and dots. -/
theorem of_mem_text_ofText {c : Char} {s : String} (h : c ∈ (Path.ofText s).text.toList) :
    c ∈ s.toList ∨ c = '/' ∨ c = '.' := by
  have hparts : forall name, name ∈ (Path.ofText s).parts -> c ∈ name.toList -> c ∈ s.toList := by
    intro name hname hc
    rcases List.mem_map.mp hname with ⟨piece, hpiece, rfl⟩
    rw [String.toList_ofList] at hc
    rw [← joinPieces_pieces s.toList]
    exact mem_joinPieces (List.mem_filter.mp hpiece).1 hc
  unfold text at h
  dsimp only at h
  split at h
  · right
    right
    exact List.mem_singleton.mp h
  · rw [String.toList_append] at h
    rcases List.mem_append.mp h with h | h
    · right
      left
      cases hroot : (Path.ofText s).root with
      | relative =>
          rw [hroot] at h
          cases h
      | single =>
          rw [hroot] at h
          exact List.mem_singleton.mp h
      | double =>
          rw [hroot] at h
          simpa [PathRoot.text] using h
    · have hjoin : (String.intercalate "/" (Path.ofText s).parts).toList =
          joinPieces ((Path.ofText s).parts.map String.toList) := by
        simp [joinPieces_eq_intercalate]
      rw [hjoin] at h
      rcases of_mem_joinPieces h with h | ⟨p, hp, hc⟩
      · exact Or.inr (Or.inl h)
      · rcases List.mem_map.mp hp with ⟨name, hname, rfl⟩
        exact Or.inl (hparts name hname hc)

theorem hasNul_ofText {s : String} (h : Disk.hasNul s = false) :
    Disk.hasNul (Path.ofText s).text = false := by
  have hnone : Char.ofNat 0 ∉ (Path.ofText s).text.toList := by
    intro hmem
    rcases of_mem_text_ofText hmem with hmem | hmem | hmem
    · rw [Disk.hasNul, List.contains_iff_mem.mpr hmem] at h
      cases h
    · exact absurd hmem (by decide)
    · exact absurd hmem (by decide)
  simpa [Disk.hasNul] using hnone

end Path

namespace Buffers

variable {d : Disk} {k : String} {f : Fault}

/-!
## Keys
-/

theorem isUnresolved_of_key {path : String} (h : key d path = .error f) : f.IsUnresolved := by
  unfold key at h
  cases hreal : d.canonical (Path.ofText path) with
  | error g =>
      rw [hreal] at h
      cases h
      exact Disk.isUnresolved_of_canonical hreal
  | ok real =>
      rw [hreal] at h
      cases h

theorem key_eq_ok {path : String} (h : key d path = .ok k) :
    exists p real, d.expandUser (Path.ofText path) = .ok p ∧ d.realPath p.text = .ok real ∧
      Disk.hasNul k = false ∧ real.text = k := by
  unfold key at h
  cases hreal : d.canonical (Path.ofText path) with
  | error f =>
      rw [hreal] at h
      cases h
  | ok real =>
      rw [hreal] at h
      cases h
      rcases Disk.canonical_eq_ok hreal with ⟨p, hexpand, hrun, hnul, _⟩
      exact ⟨p, real, hexpand, hrun, hnul, rfl⟩

theorem key_of_realPath {p real : Path} (habsolute : p.root ≠ .relative)
    (hspelled : Path.ofText p.text = p) (hreal : d.realPath p.text = .ok real)
    (hnul : Disk.hasNul real.text = false) (hstat : d.stat real ≠ .error .tooManyLinks) :
    key d p.text = .ok real.text := by
  have hexpand : d.expandUser p = .ok p := by
    rcases p with ⟨root, parts⟩
    cases root with
    | relative => exact absurd rfl habsolute
    | single => rfl
    | double => rfl
  have hresolve := (Disk.resolve_eq_ok_iff d p real).mpr ⟨hreal, hnul, hstat⟩
  rw [key, hspelled, Disk.canonical, hexpand]
  exact congrArg (Except.map Path.text) hresolve

theorem foreseen_of_readText_key {path : String} (hkey : key d path = .ok k)
    (h : d.readText (Path.ofText k) = .error f) : (f.isOs || f.isUndecodable) = true := by
  rcases key_eq_ok hkey with ⟨_, _, _, _, hnul, _⟩
  exact Disk.foreseen_of_readText (Path.hasNul_ofText hnul) h

end Buffers
/-!
## A link that leads to itself
-/

def Disk.looped : Disk :=
  { Disk.bare with
    nodes := [(["loop"], .link "loop"), (["a"], .link "b"), (["b"], .file [116])] }

namespace Disk

open EngineClient.Path

theorem isStep_loop : IsStep "loop".toList where
  part := rfl
  down := by decide
  nulless := rfl

theorem resolves_loop {d : Disk} {depth : Nat} {met : Met} {rest : List (List Char)}
    (hloop : d.linkTarget? ["loop"] = some "loop")
    (hnew : met.lookup ⟨.single, ["loop"]⟩ = none) :
    Resolves d (depth + 1) met ⟨.single, []⟩ ("loop".toList :: rest)
      (.ok ((⟨.single, ["loop"]⟩, none) :: met,
        .loop (joinText (joinText "/loop".toList []) (joinPieces rest)))) := by
  have hbelow : below ⟨.single, []⟩ (String.ofList "loop".toList) = ⟨.single, ["loop"]⟩ := by
    rw [String.ofList_toList]
    rfl
  have hlink : d.linkAt? (below ⟨.single, []⟩ (String.ofList "loop".toList)) = some "loop" := by
    have hsize : ¬ maxPathSize ≤ Text.Utf8.size (⟨.single, ["loop"]⟩ : Path).text.toList := by
      decide
    rw [hbelow, linkAt?_eq, if_neg hsize]
    exact hloop
  have htarget : pieces "loop".toList = ["loop".toList] := rfl
  have hmet : List.lookup (below ⟨.single, []⟩ (String.ofList "loop".toList))
      ((⟨.single, ["loop"]⟩, none) :: met) = some none := by
    rw [hbelow]
    simp
  have hagain : Resolves d depth ((⟨.single, ["loop"]⟩, none) :: met) ⟨.single, []⟩
      ["loop".toList] (.ok ((⟨.single, ["loop"]⟩, none) :: met,
        .loop (joinText "/loop".toList []))) :=
    .back isStep_loop hlink hmet
  rw [← htarget] at hagain
  exact .cut isStep_loop hlink hnew hagain

theorem reach_loop {text : String} {rest : List (List Char)} (hrooted : isRooted text = true)
    (hpieces : pieces text.toList = [] :: "loop".toList :: rest) :
    looped.reach text = .ok ([(⟨.single, ["loop"]⟩, none)],
      .loop (joinText (joinText "/loop".toList []) (joinPieces rest))) := by
  have hresolves : Resolves looped maxDepth [] ⟨.single, []⟩ ([] :: "loop".toList :: rest) _ :=
    .blank rfl (resolves_loop rfl rfl)
  rw [reach, hrooted, hpieces]
  exact hresolves.eq

theorem walk_loop (budget : Nat) :
    looped.walk .target budget [] ["loop"] = .error .tooManyLinks := by
  have hnode : looped.node? [] = some .directory := rfl
  have hlink : looped.linkTarget? ["loop"] = some "loop" := rfl
  have hsize : Text.Utf8.size ['l', 'o', 'o', 'p'] = 4 := by
    decide
  have hsteps : stepsOf ['l', 'o', 'o', 'p'] = ["loop"] := rfl
  have hrooted : isRooted "loop" = false := rfl
  induction budget with
  | zero => simp [walk, maxNameSize, hnode, hsize, hlink]
  | succ budget ih => simp [walk, maxNameSize, hnode, hsize, hlink, hsteps, hrooted, ih]

end Disk

theorem Buffers.key_loop : key Disk.looped "/loop" = .error (.linkLoop "/loop") := by
  have hpath : Path.ofText "/loop" = ⟨.single, ["loop"]⟩ ∧
      (⟨.single, ["loop"]⟩ : Path).text = "/loop" :=
    ⟨rfl, rfl⟩
  have hreach := @Disk.reach_loop "/loop" [] rfl rfl
  have habsolute : Disk.looped.absolutePath
      (Disk.joinText (Disk.joinText "/loop".toList []) (Path.joinPieces [])) =
        ⟨.single, ["loop"]⟩ := rfl
  have hreal : Disk.looped.realPath "/loop" = .ok ⟨.single, ["loop"]⟩ := by
    rw [Disk.realPath_eq, hreach]
    exact congrArg Except.ok habsolute
  have hsize : ¬ Disk.maxPathSize ≤
      Text.Utf8.size (⟨.single, ["loop"]⟩ : Path).text.toList := by
    decide
  have hnul : Disk.hasNul "/loop" = false := rfl
  have hstat : Disk.looped.stat ⟨.single, ["loop"]⟩ = .error .tooManyLinks := by
    unfold Disk.stat Disk.locate
    rw [if_neg hsize]
    change (Disk.looped.walk .target Disk.maxLinks [] ["loop"] >>= _) = _
    rw [Disk.walk_loop]
    rfl
  rw [key, hpath.1]
  change (Disk.looped.resolve ⟨.single, ["loop"]⟩).map Path.text = _
  rw [Disk.resolve, hpath.2, hreal]
  dsimp only
  rw [hpath.2, hnul, hstat]
  rfl

end EngineClient
