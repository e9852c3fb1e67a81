import EngineClient.Proofs.Disk.Names
import EngineClient.Proofs.Disk.Resolving

/-!
# Links on the way

A path is resolved name by name, and no name on the way is a link when it is done. What it leads
to then resolves to itself, on every disk with the same links. Two things keep a path from being
resolved to its end: links that lead back to themselves, which cut it off, and a spelling from
above the working directory that is too long to be looked at. Main statements:
`linkFree_of_realPath`, `canonical_of_linkFree`.
-/

namespace EngineClient
namespace Disk

open EngineClient.Path

/-!
## Places
-/

def place (d : Disk) (p : Path) : Location :=
  cancelDots (if p.isAbsolute then [] else d.cwd) p.parts

theorem linkAt?_eq (d : Disk) (p : Path) :
    d.linkAt? p =
      if maxPathSize ≤ Text.Utf8.size p.text.toList then none else d.linkTarget? (d.place p) :=
  rfl

theorem cancelDots_of_plain {loc names : List String}
    (h : forall name, name ∈ names -> name ≠ "..") : cancelDots loc names = loc ++ names := by
  induction names generalizing loc with
  | nil => simp [cancelDots]
  | cons name names ih =>
      rw [cancelDots, if_neg (h name List.mem_cons_self),
        ih fun n hn => h n (List.mem_cons_of_mem name hn), List.append_assoc]
      rfl

theorem cancelDots_replicate (loc : Location) (n : Nat) :
    cancelDots loc (List.replicate n "..") <+: loc := by
  induction n generalizing loc with
  | zero => exact List.prefix_rfl
  | succ n ih => exact (ih loc.dropLast).trans (List.dropLast_prefix loc)

theorem place_single {names : List String} (h : forall name, name ∈ names -> IsPlain name)
    (d : Disk) : d.place ⟨.single, names⟩ = names :=
  cancelDots_of_plain fun name hname => (h name hname).down

theorem place_below (d : Disk) (p : Path) {name : String} (h : IsPlain name) :
    d.place (below p name) = d.place p ++ [name] := by
  show cancelDots _ (p.parts ++ [name]) = cancelDots _ p.parts ++ [name]
  rw [cancelDots_append, cancelDots, if_neg h.down]
  rfl

def LinkFree (d : Disk) (loc : Location) : Prop :=
  forall way, way <+: loc -> d.linkTarget? way = none

theorem LinkFree.mono {d : Disk} {loc way : Location} (h : d.LinkFree loc) (hway : way <+: loc) :
    d.LinkFree way :=
  fun shorter hshorter => h shorter (hshorter.trans hway)

theorem linkFree_root (d : Disk) : d.LinkFree [] := by
  intro way hway
  rw [List.prefix_nil.mp hway]
  rfl

theorem LinkFree.concat {d : Disk} {loc : Location} (h : d.LinkFree loc) {name : String}
    (hname : d.linkTarget? (loc ++ [name]) = none) : d.LinkFree (loc ++ [name]) := by
  intro way hway
  rcases List.prefix_concat_iff.mp hway with rfl | hway
  · exact hname
  · exact h way hway

/-- The working directory has plain names, and no link leads to it. -/
structure IsSeated (d : Disk) : Prop where
  plain : forall name, name ∈ d.cwd -> IsPlain name
  linkFree : d.LinkFree d.cwd

/-!
## Straight paths
-/

/-- A path that was resolved so far: it leads up, then down by names that are no links. -/
inductive Straight (d : Disk) : Path → Prop where
  | root : Straight d ⟨.single, []⟩
  | up (n : Nat) : Straight d ⟨.relative, List.replicate n ".."⟩
  | down {p : Path} {name : String} (h : Straight d p) (hname : IsPlain name)
      (hlink : d.linkAt? (below p name) = none) : Straight d (below p name)

namespace Straight

variable {d : Disk} {p : Path}

theorem above (h : Straight d p) : Straight d (above p) := by
  cases h with
  | root => exact .root
  | up n =>
      have hlast : (List.replicate n "..").getLast?.all (· == "..") = true := by
        cases n with
        | zero => rfl
        | succ n => simp [List.replicate_succ']
      have habove : Disk.above ⟨.relative, List.replicate n ".."⟩ =
          ⟨.relative, List.replicate (n + 1) ".."⟩ := by
        unfold Disk.above
        rw [if_neg (by simp [Path.isAbsolute]), if_pos hlast, List.replicate_succ']
        rfl
      rw [habove]
      exact .up (n + 1)
  | @down q name h hname hlink =>
      have hparent : (Disk.below q name).parent = q := by
        simp [Disk.below, Path.parent]
      have hlast : ¬ (Disk.below q name).parts.getLast?.all (· == "..") = true := by
        simp [Disk.below, hname.down]
      unfold Disk.above
      split
      · rwa [hparent]
      · rwa [hparent]

theorem root_ne_double (h : Straight d p) : p.root ≠ .double := by
  induction h with
  | root => simp
  | up n => simp
  | down _ _ _ ih => exact ih

theorem parts (h : Straight d p) :
    forall name, name ∈ p.parts -> isPart name.toList = true ∧ '/' ∉ name.toList := by
  induction h with
  | root =>
      intro name hname
      cases hname
  | up n =>
      intro name hname
      rw [List.eq_of_mem_replicate hname]
      decide
  | down _ hplain _ ih =>
      intro name hname
      rcases List.mem_append.mp hname with hname | hname
      · exact ih name hname
      · rw [List.mem_singleton.mp hname]
        exact ⟨hplain.part, hplain.slashless⟩

theorem plain (h : Straight d p) (hdown : p.isAbsolute = true ∨ p.parts.head? ≠ some "..") :
    forall name, name ∈ p.parts -> IsPlain name := by
  induction h with
  | root =>
      intro name hname
      cases hname
  | up n =>
      cases n with
      | zero =>
          intro name hname
          cases hname
      | succ n => simp [Path.isAbsolute, List.replicate_succ] at hdown
  | @down q last h hplain hlink ih =>
      have hq : q.isAbsolute = true ∨ q.parts.head? ≠ some ".." := by
        rcases hdown with habs | hhead
        · exact Or.inl habs
        · right
          intro hup
          refine hhead ?_
          simp [Disk.below, List.head?_append, hup]
      intro name hname
      rcases List.mem_append.mp hname with hname | hname
      · exact ih hq name hname
      · rw [List.mem_singleton.mp hname]
        exact hplain

theorem place_plain (h : Straight d p) (hcwd : forall name, name ∈ d.cwd -> IsPlain name) :
    forall name, name ∈ d.place p -> IsPlain name := by
  induction h with
  | root =>
      intro name hname
      cases hname
  | up n =>
      intro name hname
      exact hcwd name ((cancelDots_replicate d.cwd n).subset hname)
  | @down q last h hplain hlink ih =>
      intro name hname
      rw [place_below d q hplain] at hname
      rcases List.mem_append.mp hname with hname | hname
      · exact ih name hname
      · rw [List.mem_singleton.mp hname]
        exact hplain

theorem size_le (h : Straight d p) (hne : p.parts ≠ [])
    (hdown : p.isAbsolute = true ∨ p.parts.head? ≠ some "..") :
    Text.Utf8.size p.text.toList ≤
      Text.Utf8.size (⟨.single, d.place p⟩ : Path).text.toList := by
  have hplace : d.place p = (if p.isAbsolute then [] else d.cwd) ++ p.parts :=
    cancelDots_of_plain fun name hname => (h.plain hdown name hname).down
  rw [hplace]
  rcases p with ⟨root, names⟩
  cases root with
  | double => exact absurd rfl h.root_ne_double
  | single => exact Nat.le_refl _
  | relative => exact size_text_relative_le hne (fun name hname => (h.parts name hname).1) d.cwd

theorem size_below_le (h : Straight d p) (name : String) :
    Text.Utf8.size p.text.toList ≤ Text.Utf8.size (Disk.below p name).text.toList ∨
      p.parts = [] := by
  by_cases hne : p.parts = []
  · exact Or.inr hne
  · left
    rcases p with ⟨root, names⟩
    cases root with
    | double => exact absurd rfl h.root_ne_double
    | single => exact size_text_single_le names [name]
    | relative =>
        cases names with
        | nil => exact absurd rfl hne
        | cons first names =>
            have hfirst := (h.parts first List.mem_cons_self).1
            have hbelow : Disk.below ⟨.relative, first :: names⟩ name =
                ⟨.relative, first :: (names ++ [name])⟩ := rfl
            refine size_le_of_infix (List.IsPrefix.isInfix ?_)
            rw [hbelow, toList_text_relative hfirst, toList_text_relative hfirst,
              ← List.cons_append, List.map_append]
            exact prefix_joinPieces _ _

theorem linkFree (h : Straight d p) (hseated : d.IsSeated)
    (hsize : Text.Utf8.size (⟨.single, d.place p⟩ : Path).text.toList < maxPathSize)
    (hup : p.isAbsolute = false -> p.parts.head? = some ".." ->
      Text.Utf8.size p.text.toList < maxPathSize) : d.LinkFree (d.place p) := by
  induction h with
  | root => exact d.linkFree_root
  | up n => exact hseated.linkFree.mono (cancelDots_replicate d.cwd n)
  | @down q name h hname hlink ih =>
      have hbelow := Straight.down h hname hlink
      have hlooked : Text.Utf8.size (Disk.below q name).text.toList < maxPathSize := by
        by_cases hdown : (Disk.below q name).isAbsolute = true ∨
            (Disk.below q name).parts.head? ≠ some ".."
        · exact Nat.lt_of_le_of_lt (hbelow.size_le (by simp [Disk.below]) hdown) hsize
        · rw [not_or, not_not, Bool.not_eq_true] at hdown
          exact hup hdown.1 hdown.2
      rw [place_below d q hname] at hsize ⊢
      refine (ih ?_ ?_).concat ?_
      · exact Nat.lt_of_le_of_lt (size_text_single_le _ _) hsize
      · intro _ hhead
        rcases h.size_below_le name with hle | hnone
        · exact Nat.lt_of_le_of_lt hle hlooked
        · rw [hnone] at hhead
          cases hhead
      · rw [linkAt?_eq, if_neg (Nat.not_le.mpr hlooked), place_below d q hname] at hlink
        exact hlink

end Straight

/-!
## Resolving names
-/

def Met.IsStraight (d : Disk) (met : Met) : Prop :=
  forall e, e ∈ met -> forall p, e.2 = some p -> Straight d p

theorem Met.IsStraight.cons {d : Disk} {met : Met} (h : met.IsStraight d) {p : Path}
    {known? : Option Path} (hknown : forall q, known? = some q -> Straight d q) :
    Met.IsStraight d ((p, known?) :: met) := by
  intro e he
  rcases List.mem_cons.mp he with rfl | he
  · exact hknown
  · exact h e he

theorem Met.IsStraight.lookup {d : Disk} {met : Met} (h : met.IsStraight d) {p known : Path}
    (hlookup : met.lookup p = some (some known)) : Straight d known := by
  rcases List.lookup_eq_some_iff.mp hlookup with ⟨front, back, hmet, _⟩
  refine h (p, some known) ?_ known rfl
  rw [hmet]
  exact List.mem_append_right front List.mem_cons_self

theorem IsStep.plain {piece : List Char} (h : IsStep piece) (hslashless : '/' ∉ piece) :
    IsPlain (String.ofList piece) where
  part := by simpa using h.part
  slashless := by simpa using hslashless
  down := by
    intro heq
    have hpiece := congrArg String.toList heq
    rw [String.toList_ofList] at hpiece
    exact h.down hpiece

theorem Straight.target {d : Disk} {p : Path} (h : Straight d p) (target : String) :
    Straight d (if isRooted target then ⟨.single, []⟩ else p) := by
  split
  · exact .root
  · exact h

theorem Resolves.straight {d : Disk} {depth : Nat} {met met' : Met} {p : Path}
    {ps : List (List Char)} {r : Reached} (h : Resolves d depth met p ps (.ok (met', r)))
    (hps : forall piece, piece ∈ ps -> '/' ∉ piece) (hmet : met.IsStraight d)
    (hp : Straight d p) : met'.IsStraight d ∧ forall q, r = .path q -> Straight d q := by
  have htail : forall {piece : List Char} {rest : List (List Char)},
      (forall q, q ∈ piece :: rest -> '/' ∉ q) -> forall q, q ∈ rest -> '/' ∉ q :=
    fun h q hq => h q (List.mem_cons_of_mem _ hq)
  have hinner : forall {target : String}, forall piece, piece ∈ pieces target.toList ->
      '/' ∉ piece :=
    fun _ => slashless_of_mem_pieces
  have hfollowing : forall {met : Met} {q : Path}, met.IsStraight d ->
      Met.IsStraight d ((q, none) :: met) :=
    fun hmet => hmet.cons fun _ hnone => nomatch hnone
  generalize hend : Except.ok (met', r) = s at h
  induction h generalizing met' r with
  | done =>
      cases hend
      refine ⟨hmet, ?_⟩
      rintro q ⟨⟩
      exact hp
  | blank _ _ ih => exact ih (htail hps) hmet hp hend
  | up _ ih => exact ih (htail hps) hmet hp.above hend
  | nul => cases hend
  | down hstep hlink _ ih =>
      have hplain := hstep.plain (hps _ List.mem_cons_self)
      exact ih (htail hps) hmet (.down hp hplain hlink) hend
  | known _ _ hknown _ ih => exact ih (htail hps) hmet (hmet.lookup hknown) hend
  | back =>
      cases hend
      refine ⟨hmet, ?_⟩
      rintro q ⟨⟩
  | deep => cases hend
  | failed => cases hend
  | cut _ _ _ _ ih =>
      cases hend
      refine ⟨(ih hinner (hfollowing hmet) (hp.target _) rfl).1, ?_⟩
      rintro q ⟨⟩
  | through _ _ _ _ _ ih ihrest =>
      have hfollowed := ih hinner (hfollowing hmet) (hp.target _) rfl
      have hknown := hfollowed.2 _ rfl
      refine ihrest (htail hps) (hfollowed.1.cons ?_) hknown hend
      rintro q ⟨⟩
      exact hknown

def reach (d : Disk) (text : String) : Except Fault (Met × Reached) :=
  d.resolvePieces maxDepth [] ⟨if isRooted text then .single else .relative, []⟩
    (Path.pieces text.toList)

theorem resolves_reach (d : Disk) (text : String) :
    Resolves d maxDepth [] ⟨if isRooted text then .single else .relative, []⟩
      (Path.pieces text.toList) (d.reach text) :=
  resolves_resolvePieces _ _ _ _ _

theorem realPath_eq (d : Disk) (text : String) :
    d.realPath text = (d.reach text).map fun r => d.absolutePath r.2.text :=
  rfl

theorem straight_of_reach {d : Disk} {text : String} {met : Met} {p : Path}
    (h : d.reach text = .ok (met, .path p)) : Straight d p := by
  have hstart : Straight d ⟨if isRooted text then .single else .relative, []⟩ := by
    split
    · exact .root
    · exact .up 0
  have hmet : Met.IsStraight d [] := fun _ he => absurd he List.not_mem_nil
  have hresolves := resolves_reach d text
  rw [h] at hresolves
  exact (hresolves.straight (fun _ => slashless_of_mem_pieces) hmet hstart).2 p rfl

/-!
## Where a text leads
-/

theorem read_reached {p : Path}
    (hparts : forall name, name ∈ p.parts -> isPart name.toList = true ∧ '/' ∉ name.toList) :
    rootOf (Reached.path p).text = p.root ∧ partsOf (Reached.path p).text = p.parts := by
  have hread := ofText_text hparts
  have htext : rootOf p.text.toList = p.root ∧ partsOf p.text.toList = p.parts :=
    ⟨congrArg Path.root hread, congrArg Path.parts hread⟩
  rcases p with ⟨root, parts⟩
  cases root with
  | double => exact htext
  | single => exact htext
  | relative =>
      cases parts with
      | nil => exact ⟨rfl, rfl⟩
      | cons name names => exact htext

theorem Straight.absolutePath {d : Disk} {p : Path} (h : Straight d p) :
    d.absolutePath (Reached.path p).text = ⟨.single, d.place p⟩ := by
  have hread := read_reached h.parts
  have hne := h.root_ne_double
  rcases p with ⟨root, parts⟩
  unfold Disk.absolutePath
  rw [hread.1, hread.2]
  cases root with
  | double => exact absurd rfl hne
  | single => rfl
  | relative => rfl

/-- A text that is not resolved to its end: a link on the way leads back to itself, or the
spelling goes on from above the working directory and is too long for its links to be seen. -/
inductive CutOff (d : Disk) (text : String) : Prop where
  | loop {met : Met} {tail : List Char} (h : d.reach text = .ok (met, .loop tail))
  | long {met : Met} {p : Path} (h : d.reach text = .ok (met, .path p))
      (hrelative : p.isAbsolute = false) (hup : p.parts.head? = some "..")
      (hlong : maxPathSize ≤ Text.Utf8.size p.text.toList)

theorem linkFree_of_realPath {d : Disk} (hseated : d.IsSeated) {text : String} {real : Path}
    (hreal : d.realPath text = .ok real) (hwhole : ¬ d.CutOff text) :
    exists names, real = ⟨.single, names⟩ ∧ (forall name, name ∈ names -> IsPlain name) ∧
      (Text.Utf8.size real.text.toList < maxPathSize -> d.LinkFree names) := by
  rw [realPath_eq] at hreal
  cases hreach : d.reach text with
  | error f =>
      rw [hreach] at hreal
      cases hreal
  | ok r =>
      rcases r with ⟨met, p | tail⟩
      · have hstraight := straight_of_reach hreach
        rw [hreach, Except.map, hstraight.absolutePath] at hreal
        cases hreal
        refine ⟨d.place p, rfl, hstraight.place_plain hseated.plain, fun hsize => ?_⟩
        refine hstraight.linkFree hseated hsize fun hrelative hup => ?_
        by_contra hlong
        exact hwhole (.long hreach hrelative hup (Nat.le_of_not_lt hlong))
      · exact absurd (.loop hreach) hwhole

/-!
## Paths without links
-/

theorem hasNul_of_mem {names : List String} {name : String} (hname : name ∈ names)
    (hnul : Char.ofNat 0 ∈ name.toList) : hasNul (⟨.single, names⟩ : Path).text = true := by
  rw [hasNul, toList_text_single, List.contains_iff_mem]
  exact List.mem_cons_of_mem _ (mem_joinPieces (List.mem_map.mpr ⟨name, hname, rfl⟩) hnul)

theorem linkAt?_of_linkFree {d : Disk} {loc : Location}
    (hplain : forall name, name ∈ loc -> IsPlain name) (hfree : d.LinkFree loc) :
    d.linkAt? ⟨.single, loc⟩ = none := by
  rw [linkAt?_eq, place_single hplain, hfree loc List.prefix_rfl]
  split
  · rfl
  · rfl

theorem resolvePieces_of_linkFree {d : Disk} (depth : Nat) (met : Met) {loc names : Location}
    (hplain : forall name, name ∈ loc ++ names -> IsPlain name)
    (hfree : d.LinkFree (loc ++ names))
    (hnul : forall name, name ∈ names -> Char.ofNat 0 ∉ name.toList) :
    d.resolvePieces depth met ⟨.single, loc⟩ (names.map String.toList) =
      .ok (met, .path ⟨.single, loc ++ names⟩) := by
  induction names generalizing loc with
  | nil => rw [List.map_nil, resolvePieces, List.append_nil]
  | cons name names ih =>
      rw [List.append_cons] at hplain hfree
      have hmem : name ∈ loc ++ [name] ++ names := by
        simp
      have hname := hplain name hmem
      have hdown : name.toList ≠ ['.', '.'] := fun heq => hname.down (String.toList_inj.mp heq)
      have hnone : d.linkAt? (below ⟨.single, loc⟩ name) = none :=
        linkAt?_of_linkFree (fun n hn => hplain n (List.mem_append_left _ hn))
          (hfree.mono (List.prefix_append _ _))
      have hrest := ih hplain hfree fun n hn => hnul n (List.mem_cons_of_mem name hn)
      rw [List.map_cons, resolvePieces, if_neg (by simp [hname.part]), if_neg hdown,
        if_neg (by simpa using hnul name List.mem_cons_self), String.ofList_toList]
      dsimp only
      rw [hnone, List.append_cons loc]
      exact hrest

theorem realPath_of_linkFree {d : Disk} {names : List String}
    (hplain : forall name, name ∈ names -> IsPlain name) (hfree : d.LinkFree names)
    (hnul : hasNul (⟨.single, names⟩ : Path).text = false) :
    d.realPath (⟨.single, names⟩ : Path).text = .ok ⟨.single, names⟩ := by
  have hparts : forall name, name ∈ names -> isPart name.toList = true ∧ '/' ∉ name.toList :=
    fun name hname => ⟨(hplain name hname).part, (hplain name hname).slashless⟩
  have hrooted : isRooted (⟨.single, names⟩ : Path).text = true := by
    rw [isRooted, toList_text_single]
    rfl
  have hreach : d.reach (⟨.single, names⟩ : Path).text = .ok ([], .path ⟨.single, names⟩) := by
    have hblank : (!isPart []) = true := rfl
    rw [reach, hrooted, if_pos rfl, toList_text_single, pieces, if_pos rfl, resolvePieces,
      if_pos hblank]
    cases hnames : names with
    | nil =>
        simp [joinPieces, pieces, resolvePieces, hblank]
    | cons name rest =>
        rw [← hnames, pieces_joinPieces (by simp [hnames])]
        · have hnames : forall n, n ∈ names -> Char.ofNat 0 ∉ n.toList := by
            intro n hn hmem
            rw [hasNul_of_mem hn hmem] at hnul
            cases hnul
          have hrun := @resolvePieces_of_linkFree d maxDepth [] [] names hplain hfree hnames
          exact hrun
        · intro piece hpiece
          rcases List.mem_map.mp hpiece with ⟨n, hn, rfl⟩
          exact (hplain n hn).slashless
  have habsolute : d.absolutePath (Reached.path ⟨.single, names⟩).text = ⟨.single, names⟩ := by
    have hread := @read_reached ⟨.single, names⟩ hparts
    unfold absolutePath
    rw [hread.1, hread.2]
    exact congrArg (Path.mk .single)
      (cancelDots_of_plain fun name hname => (hplain name hname).down)
  rw [realPath_eq, hreach, Except.map, habsolute]

theorem ofText_text_of_plain {names : List String}
    (hplain : forall name, name ∈ names -> IsPlain name) :
    Path.ofText (⟨.single, names⟩ : Path).text = ⟨.single, names⟩ :=
  ofText_text fun name hname => ⟨(hplain name hname).part, (hplain name hname).slashless⟩

theorem walk_of_linkFree {d : Disk} (purpose : Purpose) (budget : Nat) {loc names : Location}
    (hplain : forall name, name ∈ names -> IsPlain name) (hfree : d.LinkFree (loc ++ names)) :
    d.walk purpose budget loc names ≠ .error .tooManyLinks := by
  induction names generalizing loc with
  | nil =>
      rw [walk]
      simp
  | cons name rest ih =>
      rw [List.append_cons] at hfree
      have hname := hplain name List.mem_cons_self
      have hnone : d.linkTarget? (loc ++ [name]) = none := hfree _ (List.prefix_append _ _)
      rw [walk]
      split
      · simp
      · by_cases hmakes : purpose = .creation ∧ rest = [""]
        · rw [if_pos hmakes]
          simp
        · rw [if_neg hmakes, if_neg hname.named, if_neg hname.down]
          split
          · simp
          · rw [hnone]
            exact ih (fun n hn => hplain n (List.mem_cons_of_mem name hn)) hfree
      · simp

theorem stat_of_linkFree {d : Disk} {names : List String}
    (hplain : forall name, name ∈ names -> IsPlain name) (hfree : d.LinkFree names) :
    d.stat ⟨.single, names⟩ ≠ .error .tooManyLinks := by
  have hwalk := @walk_of_linkFree d .target maxLinks [] names hplain hfree
  unfold stat locate
  split
  · simp [bind, Except.bind]
  · change (d.walk .target maxLinks [] names >>= _) ≠ _
    cases hrun : d.walk .target maxLinks [] names with
    | error problem =>
        intro hloop
        cases hloop
        exact hwalk hrun
    | ok loc =>
        simp only [bind, Except.bind]
        split
        · simp
        · simp

theorem resolve_eq_ok_iff (d : Disk) (p real : Path) :
    d.resolve p = .ok real ↔
      d.realPath p.text = .ok real ∧ hasNul real.text = false ∧
        d.stat real ≠ .error .tooManyLinks := by
  unfold resolve
  cases hreal : d.realPath p.text with
  | error f =>
      simp
  | ok q =>
      dsimp only
      split
      · rename_i hnul
        constructor
        · intro h
          cases h
        · rintro ⟨heq, hnone, _⟩
          cases heq
          rw [hnul] at hnone
          cases hnone
      · rename_i hnul
        split
        · rename_i hloop
          constructor
          · intro h
            cases h
          · rintro ⟨heq, _, hnot⟩
            cases heq
            exact absurd hloop hnot
        · rename_i hnot
          constructor
          · intro h
            cases h
            exact ⟨rfl, by simpa using hnul, hnot⟩
          · rintro ⟨heq, _⟩
            cases heq
            rfl

/-- A path of plain names, none of which is a link, resolves to itself. -/
theorem canonical_of_linkFree {d : Disk} {names : List String}
    (hplain : forall name, name ∈ names -> IsPlain name) (hfree : d.LinkFree names)
    (hnul : hasNul (⟨.single, names⟩ : Path).text = false) :
    d.canonical (Path.ofText (⟨.single, names⟩ : Path).text) = .ok ⟨.single, names⟩ := by
  rw [ofText_text_of_plain hplain]
  exact (d.resolve_eq_ok_iff _ _).mpr
    ⟨realPath_of_linkFree hplain hfree hnul, hnul, stat_of_linkFree hplain hfree⟩

theorem canonical_eq_ok {d : Disk} {p real : Path} (h : d.canonical p = .ok real) :
    exists q, d.expandUser p = .ok q ∧ d.realPath q.text = .ok real ∧
      hasNul real.text = false ∧ d.stat real ≠ .error .tooManyLinks := by
  unfold canonical at h
  cases hexpand : d.expandUser p with
  | error f =>
      rw [hexpand] at h
      cases h
  | ok q =>
      rw [hexpand] at h
      exact ⟨q, rfl, (d.resolve_eq_ok_iff q real).mp h⟩

/-!
## The same links
-/

/-- The same links, and the same directories that spellings start from. -/
structure SameLinks (d d' : Disk) : Prop where
  links : forall loc, d'.linkTarget? loc = d.linkTarget? loc
  cwd : d'.cwd = d.cwd
  home : d'.home = d.home
  accounts : d'.accounts = d.accounts

theorem SameLinks.refl (d : Disk) : d.SameLinks d :=
  ⟨fun _ => rfl, rfl, rfl, rfl⟩

theorem SameLinks.trans {d d' d'' : Disk} (h : d.SameLinks d') (h' : d'.SameLinks d'') :
    d.SameLinks d'' where
  links loc := (h'.links loc).trans (h.links loc)
  cwd := h'.cwd.trans h.cwd
  home := h'.home.trans h.home
  accounts := h'.accounts.trans h.accounts

theorem SameLinks.linkFree {d d' : Disk} (h : d.SameLinks d') {loc : Location}
    (hfree : d.LinkFree loc) : d'.LinkFree loc :=
  fun way hway => (h.links way).trans (hfree way hway)

theorem SameLinks.isSeated {d d' : Disk} (h : d.SameLinks d') (hseated : d.IsSeated) :
    d'.IsSeated where
  plain name hname := hseated.plain name (h.cwd ▸ hname)
  linkFree := h.cwd ▸ h.linkFree hseated.linkFree

theorem Resolves.congr {d d' : Disk} {depth : Nat} {met : Met} {p : Path} {ps : List (List Char)}
    {r : Except Fault (Met × Reached)} (h : Resolves d depth met p ps r)
    (hlinks : forall p, d'.linkAt? p = d.linkAt? p) : Resolves d' depth met p ps r := by
  induction h with
  | done => exact .done
  | blank hblank _ ih => exact .blank hblank ih
  | up _ ih => exact .up ih
  | nul hpart hdown hnul => exact .nul hpart hdown hnul
  | down hstep hlink _ ih => exact .down hstep ((hlinks _).trans hlink) ih
  | known hstep hlink hmet _ ih => exact .known hstep ((hlinks _).trans hlink) hmet ih
  | back hstep hlink hmet => exact .back hstep ((hlinks _).trans hlink) hmet
  | deep hstep hlink hnew => exact .deep hstep ((hlinks _).trans hlink) hnew
  | failed hstep hlink hnew _ ih => exact .failed hstep ((hlinks _).trans hlink) hnew ih
  | cut hstep hlink hnew _ ih => exact .cut hstep ((hlinks _).trans hlink) hnew ih
  | through hstep hlink hnew _ _ ih ihrest =>
      exact .through hstep ((hlinks _).trans hlink) hnew ih ihrest

theorem SameLinks.reach_eq {d d' : Disk} (h : d.SameLinks d') (text : String) :
    d'.reach text = d.reach text := by
  have hplace : d'.place = d.place := by
    funext p
    rw [place, place, h.cwd]
  refine ((resolves_reach d text).congr fun p => ?_).eq
  rw [linkAt?_eq, linkAt?_eq, hplace, h.links]

theorem SameLinks.realPath_eq {d d' : Disk} (h : d.SameLinks d') (text : String) :
    d'.realPath text = d.realPath text := by
  have habsolute : d'.absolutePath = d.absolutePath := by
    funext cs
    unfold absolutePath
    rw [h.cwd]
  rw [Disk.realPath_eq, Disk.realPath_eq, h.reach_eq, habsolute]

theorem SameLinks.cutOff {d d' : Disk} (h : d.SameLinks d') {text : String}
    (hcut : d.CutOff text) : d'.CutOff text := by
  cases hcut with
  | loop hreach => exact .loop ((h.reach_eq text).trans hreach)
  | long hreach hrelative hup hlong =>
      exact .long ((h.reach_eq text).trans hreach) hrelative hup hlong

theorem SameLinks.expandUser_eq {d d' : Disk} (h : d.SameLinks d') (p : Path) :
    d'.expandUser p = d.expandUser p := by
  have hhome : d'.homeOf = d.homeOf := by
    funext user
    rw [homeOf, homeOf, h.home, h.accounts]
  unfold expandUser
  rw [hhome]

end Disk
end EngineClient
