import EngineClient.Proofs.Disk.Root
import EngineClient.Proofs.Disk.Unresolved

/-!
# Entries of the root directory

A name can spell an entry of the root directory. On every disk the entry stands where it is
spelled, or it is a link to another entry and is found where that stands. Main statements:
`stat_name`, `stat_link`, `Buffers.key_name`, `Buffers.key_link`.
-/

namespace EngineClient
namespace Disk

open EngineClient.Path

variable {d : Disk} {name target : String}

/-!
## Spelling an entry
-/

/-- The name can stand for an entry, and it is not too long for one. -/
structure IsEntry (name : String) : Prop where
  plain : IsPlain name
  short : Text.Utf8.size name.toList ≤ maxNameSize
  nulless : hasNul (⟨.single, [name]⟩ : Path).text = false

theorem IsEntry.seen (h : IsEntry name) :
    ¬ maxPathSize ≤ Text.Utf8.size (⟨.single, [name]⟩ : Path).text.toList := by
  have htext : Text.Utf8.size (⟨.single, [name]⟩ : Path).text.toList =
      Text.Utf8.size name.toList + 1 := by
    have hslash : (String.utf8EncodeChar '/').length = 1 := rfl
    rw [toList_text_single, List.map_singleton, joinPieces]
    simp only [Text.Utf8.size, Text.Utf8.encode, List.flatMap_cons, List.length_append, hslash]
    omega
  have hshort := h.short
  rw [maxNameSize] at hshort
  rw [htext, maxPathSize]
  omega

theorem IsEntry.plains (h : IsEntry name) : forall n, n ∈ [name] -> IsPlain n := by
  intro n hn
  rw [List.mem_singleton.mp hn]
  exact h.plain

theorem IsEntry.isStep (h : IsEntry name) : IsStep name.toList where
  part := h.plain.part
  down heq := h.plain.down (String.toList_inj.mp heq)
  nulless := by
    by_contra hmem
    rw [Bool.not_eq_false, List.contains_iff_mem] at hmem
    have hnul := hasNul_of_mem (List.mem_singleton_self name) hmem
    rw [h.nulless] at hnul
    cases hnul

theorem IsEntry.isRooted (h : IsEntry name) : isRooted name = false := by
  cases hname : name.toList with
  | nil =>
      rw [Disk.isRooted, hname]
      rfl
  | cons c cs =>
      have hc : c ≠ '/' := by
        rintro rfl
        exact h.plain.slashless (hname ▸ List.mem_cons_self)
      rw [Disk.isRooted, hname]
      simp [hc]

theorem IsEntry.stepsOf (h : IsEntry name) : stepsOf name.toList = [name] := by
  have hne : name.toList ≠ [] := fun hnil =>
    h.plain.named (Or.inl (String.toList_eq_nil_iff.mp hnil))
  rw [Disk.stepsOf, pieces_of_slashless h.plain.slashless]
  simp [hne]

theorem IsEntry.pieces (h : IsEntry name) :
    pieces (⟨.single, [name]⟩ : Path).text.toList = [[], name.toList] := by
  rw [toList_text_single, List.map_singleton, joinPieces, Path.pieces, if_pos rfl,
    pieces_of_slashless h.plain.slashless]

/-!
## Finding an entry
-/

theorem walk_name (hname : IsEntry name) (budget : Nat) (h : d.linkTarget? [name] = none) :
    d.walk .target budget [] [name] = .ok [name] := by
  have hroot : d.node? [] = some .directory := rfl
  simp [walk, hroot, hname.plain.named, hname.plain.down, Nat.not_lt.mpr hname.short, h]

theorem walk_link (hname : IsEntry name) (htarget : IsEntry target) (budget : Nat)
    (h : d.linkTarget? [name] = some target) (hend : d.linkTarget? [target] = none) :
    d.walk .target (budget + 1) [] [name] = .ok [target] := by
  have hroot : d.node? [] = some .directory := rfl
  have hrest := walk_name htarget budget hend
  simpa [walk, hroot, hname.plain.named, hname.plain.down, Nat.not_lt.mpr hname.short, h,
    htarget.isRooted, htarget.stepsOf] using hrest

theorem stat_name (hname : IsEntry name) (h : d.linkTarget? [name] = none) :
    d.stat ⟨.single, [name]⟩ =
      match d.node? [name] with
      | some n => .ok n
      | none => .error .missing := by
  unfold stat locate
  rw [if_neg hname.seen]
  change (d.walk .target maxLinks [] [name] >>= _) = _
  rw [walk_name hname maxLinks h]
  rfl

theorem readText_name (hname : IsEntry name) (h : d.linkTarget? [name] = none) :
    d.readText ⟨.single, [name]⟩ =
      match d.node? [name] with
      | some (.file content) => decodeFile content
      | some (.sealed _) =>
          .error (.os (DiskProblem.forbidden.error (⟨.single, [name]⟩ : Path).text))
      | some _ => .error (.os (DiskProblem.isDirectory.error (⟨.single, [name]⟩ : Path).text))
      | none => .error (.os (DiskProblem.missing.error (⟨.single, [name]⟩ : Path).text)) := by
  rw [readText, readOctets, hname.nulless, stat_name hname h]
  cases d.node? [name] with
  | none => rfl
  | some n =>
      cases n with
      | directory => rfl
      | file content => rfl
      | sealed content => rfl
      | link target => rfl

theorem stat_link (hname : IsEntry name) (htarget : IsEntry target)
    (h : d.linkTarget? [name] = some target) (hend : d.linkTarget? [target] = none) :
    d.stat ⟨.single, [name]⟩ = d.stat ⟨.single, [target]⟩ := by
  rw [stat_name htarget hend]
  unfold stat locate
  rw [if_neg hname.seen]
  change (d.walk .target maxLinks [] [name] >>= _) = _
  rw [maxLinks, walk_link hname htarget _ h hend]
  rfl

/-- An entry stands where it is spelled, even if it is a link. -/
theorem locate_name (hname : IsEntry name) :
    d.locate .entry ⟨.single, [name]⟩ = .ok [name] := by
  have hroot : d.node? [] = some .directory := rfl
  have hlong := Nat.not_lt.mpr hname.short
  rw [locate, if_neg hname.seen]
  change d.walk .entry maxLinks [] [name] = _
  cases hlink : d.linkTarget? [name] with
  | none => simp [walk, hroot, hname.plain.named, hname.plain.down, hlong, hlink]
  | some target => simp [walk, hroot, hname.plain.named, hname.plain.down, hlong, hlink]

theorem change_link (hname : IsEntry name) (hnode : d.node? [name] ≠ some .directory)
    (target : String) :
    d.change (.link (⟨.single, [name]⟩ : Path).text target) =
      .ok (d.put [name] (.link target)) := by
  have hpath := ofText_text_of_plain hname.plains
  have hlocate : d.locate .entry (Path.ofText (⟨.single, [name]⟩ : Path).text) = .ok [name] := by
    rw [hpath]
    exact locate_name hname
  have hparent :
      d.makeDirectory (Path.ofText (⟨.single, [name]⟩ : Path).text).parent = .ok d := by
    rw [hpath]
    exact makeDirectory_root d
  exact change_link_of_located hname.nulless hparent hlocate hnode target

/-!
## Resolving an entry
-/

theorem linkFree_name (h : d.linkTarget? [name] = none) : d.LinkFree [name] :=
  @LinkFree.concat d [] (linkFree_root d) name h

theorem linkAt?_name (hname : IsEntry name) :
    d.linkAt? (below ⟨.single, []⟩ (String.ofList name.toList)) = d.linkTarget? [name] := by
  rw [String.ofList_toList]
  change d.linkAt? ⟨.single, [name]⟩ = _
  rw [linkAt?_eq, if_neg hname.seen, place_single hname.plains]

theorem realPath_link (hname : IsEntry name) (htarget : IsEntry target)
    (h : d.linkTarget? [name] = some target) (hend : d.linkTarget? [target] = none) :
    d.realPath (⟨.single, [name]⟩ : Path).text = .ok ⟨.single, [target]⟩ := by
  have hrooted : isRooted (⟨.single, [name]⟩ : Path).text = true := by
    rw [isRooted, toList_text_single]
    rfl
  have hbelow : below ⟨.single, []⟩ (String.ofList target.toList) = ⟨.single, [target]⟩ := by
    rw [String.ofList_toList]
    rfl
  have hinner : Resolves d 979 [(below ⟨.single, []⟩ (String.ofList name.toList), none)]
      (if isRooted target then ⟨.single, []⟩ else ⟨.single, []⟩) (pieces target.toList)
      (.ok ([(below ⟨.single, []⟩ (String.ofList name.toList), none)],
        .path (below ⟨.single, []⟩ (String.ofList target.toList)))) := by
    rw [htarget.isRooted, pieces_of_slashless htarget.plain.slashless]
    exact .down htarget.isStep ((linkAt?_name htarget).trans hend) .done
  have hresolves : Resolves d maxDepth [] ⟨.single, []⟩ [[], name.toList] _ :=
    .blank rfl (.through hname.isStep ((linkAt?_name hname).trans h) rfl hinner .done)
  rw [← hname.pieces] at hresolves
  have hreach : exists met, d.reach (⟨.single, [name]⟩ : Path).text =
      .ok (met, .path (below ⟨.single, []⟩ (String.ofList target.toList))) := by
    rw [reach, hrooted]
    exact ⟨_, hresolves.eq⟩
  rcases hreach with ⟨met, hreach⟩
  rw [realPath_eq, hreach, Except.map, (straight_of_reach hreach).absolutePath, hbelow,
    place_single htarget.plains]

end Disk

namespace Buffers

open Disk (IsEntry)

variable {d : Disk} {name target : String}

theorem key_name (hname : IsEntry name) (h : d.linkTarget? [name] = none) :
    key d (⟨.single, [name]⟩ : Path).text = .ok (⟨.single, [name]⟩ : Path).text :=
  key_of_linkFree hname.plains (Disk.linkFree_name h) hname.nulless

theorem key_link (hname : IsEntry name) (htarget : IsEntry target)
    (h : d.linkTarget? [name] = some target) (hend : d.linkTarget? [target] = none) :
    key d (⟨.single, [name]⟩ : Path).text = .ok (⟨.single, [target]⟩ : Path).text := by
  have hreal := Disk.realPath_link hname htarget h hend
  have hstat : d.stat ⟨.single, [target]⟩ ≠ .error .tooManyLinks := by
    rw [Disk.stat_name htarget hend]
    cases d.node? [target] with
    | none => simp
    | some n => simp
  exact key_of_realPath (by simp) (Disk.ofText_text_of_plain hname.plains) hreal
    htarget.nulless hstat

theorem readText_name (hname : IsEntry name) (h : d.linkTarget? [name] = none) :
    d.readText (Path.ofText (⟨.single, [name]⟩ : Path).text) =
      match d.node? [name] with
      | some (.file content) => Disk.decodeFile content
      | some (.sealed _) =>
          .error (.os (DiskProblem.forbidden.error (⟨.single, [name]⟩ : Path).text))
      | some _ => .error (.os (DiskProblem.isDirectory.error (⟨.single, [name]⟩ : Path).text))
      | none => .error (.os (DiskProblem.missing.error (⟨.single, [name]⟩ : Path).text)) := by
  rw [Disk.ofText_text_of_plain hname.plains, Disk.readText_name hname h]

end Buffers
end EngineClient
