import EngineClient.Proofs.Answer.Reading
import Mathlib.Data.List.Basic

/-!
# The spellings of a resource

An engine writes a resource as a table with a kind, as a table with a flag for
directories, or as a plain path in which a slash at the end marks a directory. All
spellings of one resource are read as that resource, up to one exception: a single slash is
read as a file, though it spells the root directory. A resource placed below a root keeps
its kind and is placed for good.
-/

namespace EngineClient

/-!
## Rooted paths

A text is a rooted path iff it starts with a slash, and the text of a rooted path does.
-/

namespace Path

theorem rootOf_eq_relative_iff (cs : List Char) :
    rootOf cs = .relative ↔ cs.head? ≠ some '/' := by
  cases cs with
  | nil => simp [rootOf]
  | cons c cs =>
      by_cases hc : c = '/'
      · have hlength : ((c :: cs).takeWhile (· = '/')).length =
            (cs.takeWhile (· = '/')).length + 1 := by
          simp [hc]
        have hroot : rootOf (c :: cs) ≠ .relative := by
          rw [rootOf, hlength]
          split <;> simp_all
        rw [hc] at hroot ⊢
        simp [hroot]
      · have hnone : (c :: cs).takeWhile (· = '/') = [] := by
          simp [hc]
        simp [rootOf, hnone, hc]

theorem isAbsolute_ofText_iff (s : String) :
    (ofText s).isAbsolute = true ↔ s.toList.head? = some '/' := by
  have h := rootOf_eq_relative_iff s.toList
  simp only [isAbsolute, ofText, bne_iff_ne, ne_eq, h, not_not]

theorem head_toList_text {p : Path} (hp : p.isAbsolute = true) :
    p.text.toList.head? = some '/' := by
  cases p with
  | mk root parts =>
      cases root with
      | relative => cases hp
      | single => simp [text, PathRoot.text]
      | double => simp [text, PathRoot.text]

theorem isAbsolute_ofText_text {p : Path} (hp : p.isAbsolute = true) :
    (ofText p.text).isAbsolute = true :=
  (isAbsolute_ofText_iff p.text).mpr (head_toList_text hp)

theorem isAbsolute_join {root p : Path} (h : root.isAbsolute = true) :
    (root / p).isAbsolute = true := by
  by_cases hp : p.isAbsolute = true
  · rw [join_of_isAbsolute hp]
    exact hp
  · have hjoin : (root / p).root = root.root := by
      simp [HDiv.hDiv, join, hp]
    rw [isAbsolute, hjoin]
    exact h

end Path

namespace Resource

/-!
## Placing

Where a resource stands below a rooted directory.
-/

variable {r : Resource} {root : Path}

theorem kind_resolved (r : Resource) (root : Path) : (r.resolved root).kind = r.kind := by
  by_cases hp : (Path.ofText r.path).isAbsolute = true
  · simp [resolved, hp]
  · simp [resolved, hp]

theorem resolved_of_isAbsolute (hp : (Path.ofText r.path).isAbsolute = true) (root : Path) :
    r.resolved root = r := by
  simp [resolved, hp]

theorem isAbsolute_resolved (r : Resource) (hroot : root.isAbsolute = true) :
    (Path.ofText (r.resolved root).path).isAbsolute = true := by
  by_cases hp : (Path.ofText r.path).isAbsolute = true
  · rw [resolved_of_isAbsolute hp]
    exact hp
  · have hpath : (r.resolved root).path = (root / Path.ofText r.path).text := by
      simp [resolved, hp]
    rw [hpath]
    exact Path.isAbsolute_ofText_text (Path.isAbsolute_join hroot)

/-- The resource stands as `r` does below a root: it has the same kind and a rooted path, and
no other root moves it. -/
structure IsPlaced (r placed : Resource) : Prop where
  kind : placed.kind = r.kind
  absolute : (Path.ofText placed.path).isAbsolute = true
  fixed : forall later : Path, placed.resolved later = placed

theorem isPlaced_resolved (r : Resource) (hroot : root.isAbsolute = true) :
    IsPlaced r (r.resolved root) := by
  have habsolute := isAbsolute_resolved r hroot
  constructor
  · exact kind_resolved r root
  · exact habsolute
  · exact resolved_of_isAbsolute habsolute

/-!
## Plain paths

A plain path is taken apart into the slashes at its end and what stands before them. The
slashes are the mark of a directory as long as something stands before them.
-/

theorem reverse_dropWhile_slashes {front : List Char} (hfront : front.getLast? ≠ some '/')
    (count : Nat) :
    ((front ++ List.replicate count '/').reverse.dropWhile (· = '/')).reverse = front := by
  have hstop : front.reverse.dropWhile (· = '/') = front.reverse := by
    cases hrev : front.reverse with
    | nil => rfl
    | cons c cs =>
        have hlast : front.getLast? = some c := by
          rw [← List.head?_reverse, hrev, List.head?_cons]
        have hc : c ≠ '/' := fun h => hfront (h ▸ hlast)
        simp [hc]
  have hmark : forall rest : List Char,
      (List.replicate count '/' ++ rest).dropWhile (· = '/') = rest.dropWhile (· = '/') := by
    intro rest
    induction count with
    | zero => rfl
    | succ count ih => simp
  rw [List.reverse_append, List.reverse_replicate, hmark, hstop, List.reverse_reverse]

theorem ofPathText_marked {path : String} (hne : path ≠ "")
    (hlast : path.toList.getLast? ≠ some '/') (count : Nat) :
    ofPathText (path ++ String.ofList (List.replicate (count + 1) '/')) = ⟨path, .directory⟩ := by
  have htext : (path ++ String.ofList (List.replicate (count + 1) '/')).toList =
      path.toList ++ List.replicate (count + 1) '/' := by
    simp
  have hfront := reverse_dropWhile_slashes hlast (count + 1)
  have hmark : (path.toList ++ List.replicate (count + 1) '/').getLast? = some '/' := by
    simp [List.getLast?_append, List.getLast?_replicate]
  have hlist : path.toList ≠ [] := by
    simpa using hne
  simp only [ofPathText]
  rw [htext, hfront, hmark, if_pos ⟨rfl, hlist⟩, String.ofList_toList]

/-- A path without a slash at its end is a file. -/
theorem ofPathText_unmarked {path : String} (hlast : path.toList.getLast? ≠ some '/') :
    ofPathText path = ⟨path, .file⟩ := by
  simp [ofPathText, hlast]

theorem ofPathText_slashes (count : Nat) :
    ofPathText (String.ofList (List.replicate count '/')) =
      ⟨String.ofList (List.replicate count '/'), .file⟩ := by
  simp [ofPathText]

/-!
## The spellings

A resource can be written when the mark of a directory can be told from its path: the
path is neither empty nor does it end in a slash, unless it is the root directory.
-/

def IsWritable (r : Resource) : Prop :=
  (r.path = "/" ∧ r.kind = .directory) ∨ (r.path ≠ "" ∧ r.path.toList.getLast? ≠ some '/')

def plainPath (r : Resource) : String :=
  match r.kind with
  | .file => r.path
  | .directory => if r.path = "/" then "/" else r.path ++ "/"

/-- The values that say what a resource is. Other entries of a table do not matter. -/
inductive Spells (r : Resource) : Value -> Prop where
  | kind {entries : Table} (path : entries.get? "path" = some (.text r.path))
      (kind : entries.get? "kind" = some (.text r.kind.name)) : Spells r (.table entries)
  | flag {entries : Table} {flag : Value} (path : entries.get? "path" = some (.text r.path))
      (kindless : entries.get? "kind" = none) (flagged : entries.get? "is_folder" = some flag)
      (directory : flag.isTrue = r.isDirectory) : Spells r (.table entries)
  | plain : Spells r (.text r.plainPath)

/-!
## Reading the spellings

Every spelling describes the resource, but for the plain path of the root directory.
-/

theorem ofFlag_isDirectory (r : Resource) : ResourceKind.ofFlag r.isDirectory = r.kind := by
  cases r with
  | mk path kind => cases kind <;> rfl

theorem ne_slash_of_unmarked {path : String} (hlast : path.toList.getLast? ≠ some '/') :
    path ≠ "/" := by
  rintro rfl
  exact hlast (by decide)

theorem ofPathText_plainPath (hr : r.IsWritable) (hmarked : r.plainPath ≠ "/") :
    ofPathText r.plainPath = r := by
  cases r with
  | mk path kind =>
      rcases hr with ⟨rfl, rfl⟩ | ⟨hne, hlast⟩
      · exact absurd rfl hmarked
      · have hroot : path ≠ "/" := ne_slash_of_unmarked hlast
        cases kind with
        | file => exact ofPathText_unmarked hlast
        | directory =>
            have hplain : plainPath ⟨path, .directory⟩ = path ++ "/" := if_neg hroot
            rw [hplain]
            exact ofPathText_marked hne hlast 0

theorem eq_root_of_plainPath (hr : r.IsWritable) (hplain : r.plainPath = "/") :
    r = ⟨"/", .directory⟩ := by
  cases r with
  | mk path kind =>
      rcases hr with ⟨rfl, rfl⟩ | ⟨hne, hlast⟩
      · rfl
      · have hroot : path ≠ "/" := ne_slash_of_unmarked hlast
        cases kind with
        | file => exact absurd hplain hroot
        | directory =>
            have hmarked : path ++ "/" = "/" := by
              simpa [plainPath, hroot] using hplain
            have hempty : path = "" := by
              simpa using congrArg String.toList hmarked
            exact absurd hempty hne

theorem describes_of_spells {v : Value} (hr : r.IsWritable) (hv : r.Spells v)
    (hslash : v ≠ .text "/") : Describes v r := by
  cases hv with
  | kind hpath hkind => exact .table hpath (.text _) (.named hkind (.text _))
  | flag hpath hkind hflag hdirectory =>
      have hflagged := HasKind.flagged hkind hflag
      rw [hdirectory, ofFlag_isDirectory] at hflagged
      exact .table hpath (.text _) hflagged
  | plain =>
      have hmarked : r.plainPath ≠ "/" := fun h => hslash (congrArg Value.text h)
      have hplain := Describes.path r.plainPath
      rwa [ofPathText_plainPath hr hmarked] at hplain

/-- All spellings of a resource are read as that resource, except the single slash: it is read
as a file, while the resource that it spells is the root directory. The resource that was read
is placed by any rooted directory, for good and without a change of its kind. -/
theorem read_spelling {v : Value} (hr : r.IsWritable) (hv : r.Spells v) :
    (v ≠ .text "/" -> read v = .ok r) ∧
      (v = .text "/" -> r = ⟨"/", .directory⟩ ∧ read v = .ok ⟨"/", .file⟩) ∧
      forall root : Path, root.isAbsolute = true -> IsPlaced r (r.resolved root) := by
  constructor
  · intro hslash
    exact read_eq_ok_iff.mpr (describes_of_spells hr hv hslash)
  · constructor
    · intro hslash
      cases hv with
      | kind hpath hkind => cases hslash
      | flag hpath hkind hflag hdirectory => cases hslash
      | plain =>
          have hplain : r.plainPath = "/" := by simpa using hslash
          constructor
          · exact eq_root_of_plainPath hr hplain
          · rw [hplain]
            exact congrArg Except.ok (ofPathText_slashes 1)
    · intro root hroot
      exact isPlaced_resolved r hroot

/-- The spellings of the root directory disagree. -/
theorem read_root_spellings :
    read (.table [("size", .int 4096), ("is_folder", .int 1), ("path", .text "/")]) =
        .ok ⟨"/", .directory⟩ ∧
      read (.text "/") = .ok ⟨"/", .file⟩ := by
  have hroot : IsWritable ⟨"/", .directory⟩ := Or.inl ⟨rfl, rfl⟩
  have hflag : Spells ⟨"/", .directory⟩
      (.table [("size", .int 4096), ("is_folder", .int 1), ("path", .text "/")]) := by
    exact .flag rfl rfl rfl rfl
  constructor
  · exact (read_spelling hroot hflag).1 (by simp)
  · exact ((read_spelling hroot Spells.plain).2.1 rfl).2

end Resource
end EngineClient
