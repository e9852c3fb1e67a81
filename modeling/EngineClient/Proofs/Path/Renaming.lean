import EngineClient.Path
import EngineClient.Proofs.Disk.Names
import Mathlib.Data.List.TakeWhile

/-!
# Renaming there and back

A module that is named anew stays in its directory and keeps its suffix, so that its old stem
leads back to it. A package is named anew with its directory, and the old name of the directory
leads back. Main statement: `renamed_and_back`.
-/

namespace EngineClient
namespace Path

open Disk (below)

variable {p q : Path} {name newName : String}

/-!
## The last name
-/

theorem name_below (p : Path) (name : String) : (below p name).name = name := by
  simp [below, Path.name]

theorem parent_below (p : Path) (name : String) : (below p name).parent = p := by
  simp [below, parent]

theorem below_parent_name (hne : p.parts ≠ []) : below p.parent p.name = p := by
  rcases p with ⟨root, parts⟩
  have hlast : parts.getLast? = some (parts.getLast hne) := List.getLast?_eq_some_getLast hne
  simp only [below, parent, Path.name, List.getLastD_eq_getLast?, hlast, Option.getD_some,
    List.dropLast_append_getLast]

theorem stem_append_suffix (p : Path) : p.stem ++ p.suffix = p.name := by
  rw [stem, suffix, ← String.ofList_append, splitSuffix_append, String.ofList_toList]

/-!
## Spelled paths

A path is what some text is read as iff its parts can stand between the slashes of a text.
-/

def IsSpelled (p : Path) : Prop :=
  exists s, ofText s = p

theorem isSpelled_iff : p.IsSpelled ↔
    forall name, name ∈ p.parts -> isPart name.toList = true ∧ '/' ∉ name.toList := by
  constructor
  · rintro ⟨s, rfl⟩ name hname
    rcases List.mem_map.mp hname with ⟨piece, hpiece, rfl⟩
    rcases List.mem_filter.mp hpiece with ⟨hmem, hpart⟩
    rw [String.toList_ofList]
    constructor
    · exact hpart
    · exact slashless_of_mem_pieces hmem
  · intro h
    exact ⟨p.text, ofText_text h⟩

theorem isSpelled_below : (below p name).IsSpelled ↔
    p.IsSpelled ∧ isPart name.toList = true ∧ '/' ∉ name.toList := by
  simp only [isSpelled_iff, below, List.forall_mem_append, List.forall_mem_singleton]

theorem IsSpelled.parent_name (hp : p.IsSpelled) (hne : p.parts ≠ []) :
    p.parent.IsSpelled ∧ isPart p.name.toList = true ∧ '/' ∉ p.name.toList := by
  rw [← below_parent_name hne, isSpelled_below] at hp
  exact hp

theorem ne_empty_of_isPart (hpart : isPart name.toList = true) : name ≠ "" := by
  rintro rfl
  cases hpart

theorem ofText_of_isPart (hpart : isPart name.toList = true) (hslashless : '/' ∉ name.toList) :
    ofText name = ⟨.relative, [name]⟩ := by
  have htext : (⟨.relative, [name]⟩ : Path).text = name := by
    simp [text, PathRoot.text, ne_empty_of_isPart hpart]
  have hspelled : forall n, n ∈ [name] -> isPart n.toList = true ∧ '/' ∉ n.toList := by
    intro n hn
    rw [List.mem_singleton.mp hn]
    exact ⟨hpart, hslashless⟩
  have hread : ofText (⟨.relative, [name]⟩ : Path).text = ⟨.relative, [name]⟩ :=
    ofText_text hspelled
  rwa [htext] at hread

theorem isName_of_isPart (hpart : isPart name.toList = true) (hslashless : '/' ∉ name.toList) :
    isName name = true := by
  have hlast : name.toList.getLast? ≠ some '/' := fun h => hslashless (List.mem_of_getLast? h)
  simp [isName, ofText_of_isPart hpart hslashless, hlast]

/-!
## Stems and suffixes

A name is divided at its last dot, as long as something stands on both sides of that dot.
-/

inductive Divides : List Char → List Char → List Char → Prop where
  | dotless {cs : List Char} (h : '.' ∉ cs) : Divides cs cs []
  | leading {ending : List Char} (h : '.' ∉ ending) : Divides ('.' :: ending) ('.' :: ending) []
  | trailing (front : List Char) : Divides (front ++ ['.']) (front ++ ['.']) []
  | dotted {front ending : List Char} (hfront : front ≠ []) (hending : ending ≠ [])
      (h : '.' ∉ ending) : Divides (front ++ '.' :: ending) front ('.' :: ending)

theorem undotted_of_dotless {cs : List Char} (h : '.' ∉ cs) :
    forall c, c ∈ cs.reverse -> (c != '.') = true := by
  intro c hc
  rw [bne_iff_ne]
  rintro rfl
  exact h (List.mem_reverse.mp hc)

theorem splitSuffix_of_dotless {cs : List Char} (h : '.' ∉ cs) : splitSuffix cs = (cs, []) := by
  have hnone : cs.reverse.dropWhile (· != '.') = [] :=
    List.dropWhile_eq_nil_iff.mpr (undotted_of_dotless h)
  simp only [splitSuffix, hnone]

theorem splitSuffix_last_dot (front : List Char) {ending : List Char} (h : '.' ∉ ending) :
    splitSuffix (front ++ '.' :: ending) =
      if ending = [] ∨ front = [] then (front ++ '.' :: ending, [])
      else (front, '.' :: ending) := by
  have hundotted := undotted_of_dotless h
  have hreverse : (front ++ '.' :: ending).reverse = ending.reverse ++ '.' :: front.reverse := by
    simp
  have hstop : ('.' :: front.reverse).takeWhile (· != '.') = [] := rfl
  have hrest : ('.' :: front.reverse).dropWhile (· != '.') = '.' :: front.reverse := rfl
  simp only [splitSuffix, hreverse, List.takeWhile_append_of_pos hundotted,
    List.dropWhile_append_of_pos hundotted, hstop, hrest, List.append_nil, List.reverse_reverse,
    Bool.or_eq_true, List.isEmpty_iff, List.reverse_eq_nil_iff]

theorem splitSuffix_of_divides {cs front ending : List Char} (h : Divides cs front ending) :
    splitSuffix cs = (front, ending) := by
  cases h with
  | dotless h => exact splitSuffix_of_dotless h
  | leading h => exact (splitSuffix_last_dot [] h).trans (if_pos (Or.inr rfl))
  | trailing front =>
      exact (splitSuffix_last_dot front List.not_mem_nil).trans (if_pos (Or.inl rfl))
  | dotted hfront hending h =>
      rw [splitSuffix_last_dot _ h, if_neg (not_or.mpr ⟨hending, hfront⟩)]

theorem exists_last_dot {cs : List Char} (h : '.' ∈ cs) :
    exists front ending, cs = front ++ '.' :: ending ∧ '.' ∉ ending := by
  -- The last dot of a word is the first one of the word read backwards.
  rcases List.eq_append_cons_of_mem (List.mem_reverse.mpr h) with ⟨back, rest, hreverse, hback⟩
  exists rest.reverse, back.reverse
  constructor
  · rw [← List.reverse_reverse cs, hreverse]
    simp
  · rwa [List.mem_reverse]

theorem exists_divides (cs : List Char) : exists front ending, Divides cs front ending := by
  by_cases hdot : '.' ∈ cs
  · rcases exists_last_dot hdot with ⟨front, ending, rfl, hending⟩
    by_cases hnone : ending = []
    · rw [hnone]
      exact ⟨_, _, .trailing front⟩
    · by_cases hfirst : front = []
      · rw [hfirst]
        exact ⟨_, _, .leading hending⟩
      · exact ⟨_, _, .dotted hfirst hnone hending⟩
  · exact ⟨_, _, .dotless hdot⟩

theorem divides_splitSuffix (cs : List Char) :
    Divides cs (splitSuffix cs).1 (splitSuffix cs).2 := by
  rcases exists_divides cs with ⟨front, ending, h⟩
  rw [splitSuffix_of_divides h]
  exact h

theorem Divides.replace {cs front ending new : List Char} (h : Divides cs front ending)
    (hnew : new ≠ []) (hdotless : '.' ∉ new) : Divides (new ++ ending) new ending := by
  cases h with
  | dotted hfront hending h => exact .dotted hnew hending h
  | dotless _ | leading _ | trailing _ =>
      rw [List.append_nil]
      exact .dotless hdotless

/-!
## New names
-/

/-- The name can be given to a module: it is not empty and has neither slashes nor dots. -/
structure IsModuleName (name : String) : Prop where
  nonempty : name ≠ ""
  slashless : '/' ∉ name.toList
  dotless : '.' ∉ name.toList

namespace IsModuleName

theorem toList_ne_nil (h : IsModuleName name) : name.toList ≠ [] := by
  simpa using h.nonempty

theorem part_append (h : IsModuleName name) (rest : List Char) :
    isPart (name.toList ++ rest) = true := by
  cases hname : name.toList with
  | nil => exact absurd hname h.toList_ne_nil
  | cons c cs =>
      have hc : c ≠ '.' := by
        rintro rfl
        exact h.dotless (hname ▸ List.mem_cons_self)
      simp [isPart, hc]

theorem part (h : IsModuleName name) : isPart name.toList = true := by
  have hpart := h.part_append []
  rwa [List.append_nil] at hpart

theorem part_suffix (h : IsModuleName newName) (hslashless : '/' ∉ p.name.toList) :
    isPart (newName ++ p.suffix).toList = true ∧ '/' ∉ (newName ++ p.suffix).toList := by
  have hsuffix : '/' ∉ p.suffix.toList := by
    intro hmem
    apply hslashless
    rw [← stem_append_suffix, String.toList_append]
    exact List.mem_append_right _ hmem
  rw [String.toList_append]
  constructor
  · exact h.part_append _
  · intro hmem
    rcases List.mem_append.mp hmem with hmem | hmem
    · exact h.slashless hmem
    · exact hsuffix hmem

theorem split_suffix (h : IsModuleName newName) (p : Path) :
    splitSuffix (newName ++ p.suffix).toList = (newName.toList, p.suffix.toList) := by
  have hdivides := divides_splitSuffix p.name.toList
  rw [String.toList_append, suffix, String.toList_ofList]
  exact splitSuffix_of_divides (hdivides.replace h.toList_ne_nil h.dotless)

theorem stem_below (h : IsModuleName newName) (p q : Path) :
    (below q (newName ++ p.suffix)).stem = newName := by
  rw [stem, name_below, h.split_suffix, String.ofList_toList]

theorem suffix_below (h : IsModuleName newName) (p q : Path) :
    (below q (newName ++ p.suffix)).suffix = p.suffix := by
  rw [suffix, name_below, h.split_suffix, String.ofList_toList]

end IsModuleName

/-!
## Modules and packages
-/

theorem renamed_module (hne : p.name ≠ "") (hmodule : p.name ≠ packageFile)
    (hname : isName (newName ++ p.suffix) = true) :
    p.renamed newName = .ok (below p.parent (newName ++ p.suffix)) := by
  have hnonempty : ¬ p.name.isEmpty = true := by
    simpa using hne
  rw [renamed, if_neg hmodule, withName, if_neg hnonempty, hname]
  rfl

theorem renamed_packageFile (h : p.name = packageFile) (newName : String) :
    p.renamed newName = .ok (below (p.parent.parent / ofText newName) packageFile) := by
  have hfile : ofText packageFile = ⟨.relative, [packageFile]⟩ := by decide
  rw [renamed, if_pos h, h, hfile]
  rfl

theorem renamed_package (p : Path) (package : String) (hpart : isPart newName.toList = true)
    (hslashless : '/' ∉ newName.toList) :
    (below (below p package) packageFile).renamed newName =
      .ok (below (below p newName) packageFile) := by
  rw [renamed_packageFile (name_below _ _), parent_below, parent_below,
    ofText_of_isPart hpart hslashless]
  rfl

/-- From a module beside `p` with the suffix of `p` the stem of `p` leads to `p`. From the file of
a package it does not: that would move the whole directory. -/
theorem renamed_stem_iff (hp : p.IsSpelled) (hne : p.parts ≠ []) (hmodule : p.name ≠ packageFile)
    (hq : q.name ≠ "") (hparent : q.parent = p.parent) (hsuffix : q.suffix = p.suffix) :
    q.renamed p.stem = .ok p ↔ q.name ≠ packageFile := by
  constructor
  · -- From the file of a package every name leads to such a file, which `p` is not.
    intro hback hfile
    rw [renamed_packageFile hfile] at hback
    apply hmodule
    rw [← Except.ok.inj hback, name_below]
  · intro hfile
    have hname : p.stem ++ q.suffix = p.name := by
      rw [hsuffix, stem_append_suffix]
    have hpart := (hp.parent_name hne).2
    have hisName : isName (p.stem ++ q.suffix) = true := by
      rw [hname]
      exact isName_of_isPart hpart.1 hpart.2
    rw [renamed_module hq hfile hisName, hparent, hname, below_parent_name hne]

/-- `q` is the module `p` under a new name. The stem of `p` leads back from it, unless the new name
has made it the file of a package. -/
structure IsRenaming (p : Path) (newName : String) (q : Path) : Prop where
  spelled : q.IsSpelled
  parent : q.parent = p.parent
  suffix : q.suffix = p.suffix
  stem : q.stem = newName
  back : q.renamed p.stem = .ok p ↔ q.name ≠ packageFile

theorem isRenaming_below (hp : p.IsSpelled) (hne : p.parts ≠ []) (hmodule : p.name ≠ packageFile)
    (hnew : IsModuleName newName) :
    IsRenaming p newName (below p.parent (newName ++ p.suffix)) := by
  rcases hp.parent_name hne with ⟨habove, _, hslashless⟩
  have hpart := hnew.part_suffix hslashless
  have hparent := parent_below p.parent (newName ++ p.suffix)
  have hsuffix := hnew.suffix_below p p.parent
  have hq : (below p.parent (newName ++ p.suffix)).name ≠ "" := by
    rw [name_below]
    exact ne_empty_of_isPart hpart.1
  constructor
  · exact isSpelled_below.mpr ⟨habove, hpart⟩
  · exact hparent
  · exact hsuffix
  · exact hnew.stem_below p p.parent
  · exact renamed_stem_iff hp hne hmodule hq hparent hsuffix

/-- A new name without slashes and dots can be given to every module and to every package that a
text spells. A module stays in its directory with its suffix, and its old stem leads back; the file
of a package goes with its directory, and the old name of the directory leads back. -/
theorem renamed_and_back (hp : p.IsSpelled) (hnew : IsModuleName newName) :
    (p.parts ≠ [] -> p.name ≠ packageFile ->
      exists q, p.renamed newName = .ok q ∧ IsRenaming p newName q) ∧
    (forall (outer : Path) (package : String), p = below (below outer package) packageFile ->
      p.renamed newName = .ok (below (below outer newName) packageFile) ∧
        (below (below outer newName) packageFile).renamed package = .ok p) := by
  constructor
  · intro hne hmodule
    rcases hp.parent_name hne with ⟨_, hpart, hslashless⟩
    have hnewPart := hnew.part_suffix hslashless
    have hname := isName_of_isPart hnewPart.1 hnewPart.2
    exists below p.parent (newName ++ p.suffix)
    constructor
    · exact renamed_module (ne_empty_of_isPart hpart) hmodule hname
    · exact isRenaming_below hp hne hmodule hnew
  · rintro outer package rfl
    have hpackage := (isSpelled_below.mp (isSpelled_below.mp hp).1).2
    constructor
    · exact renamed_package outer package hnew.part hnew.slashless
    · exact renamed_package outer newName hpackage.1 hpackage.2

/-- A hidden module whose stem ends in a dot, and a package whose directory is spelled `..`. -/
theorem renamed_and_back_dotted :
    (ofText "//lib/.old..py").renamed "new" = .ok ⟨.double, ["lib", "new.py"]⟩ ∧
      (⟨.double, ["lib", "new.py"]⟩ : Path).renamed ".old." = .ok (ofText "//lib/.old..py") ∧
      (ofText "/lib/../__init__.py").renamed "new" =
        .ok ⟨.single, ["lib", "new", "__init__.py"]⟩ ∧
      (⟨.single, ["lib", "new", "__init__.py"]⟩ : Path).renamed ".." =
        .ok (ofText "/lib/../__init__.py") := by
  have hnew : IsModuleName "new" := ⟨by decide, by decide, by decide⟩
  have hmodule := (renamed_and_back ⟨"//lib/.old..py", rfl⟩ hnew).1 (by decide) (by decide)
  have hpackage :=
    (renamed_and_back ⟨"/lib/../__init__.py", rfl⟩ hnew).2 ⟨.single, ["lib"]⟩ ".." (by decide)
  rcases hmodule with ⟨q, hq, hrenaming⟩
  have hplace : q = ⟨.double, ["lib", "new.py"]⟩ := (Except.ok.inj hq).symm
  have hstem : (ofText "//lib/.old..py").stem = ".old." := by decide
  rw [hplace] at hq hrenaming
  have hback := hrenaming.back.mpr (by decide)
  rw [hstem] at hback
  exact ⟨hq, hback, hpackage⟩

-- A module that becomes the file of a package does not go back: its directory would move.
example : (ofText "/src/lib/old.py").renamed "__init__" =
      .ok ⟨.single, ["src", "lib", "__init__.py"]⟩ ∧
    (⟨.single, ["src", "lib", "__init__.py"]⟩ : Path).renamed "old" =
      .ok ⟨.single, ["src", "old", "__init__.py"]⟩ :=
  ⟨rfl, rfl⟩

end Path
end EngineClient
