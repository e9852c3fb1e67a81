import EngineClient.Disk.Resolve
import Mathlib.Data.List.Basic

/-!
# Names in paths

The text of a path is read as the parts that it was written from.
-/

namespace EngineClient
namespace Path

/-!
## Names in a text
-/

/-- The name stands for an entry of a directory: it is a part of its own and does not lead up. -/
structure IsPlain (name : String) : Prop where
  part : isPart name.toList = true
  slashless : '/' ∉ name.toList
  down : name ≠ ".."

theorem IsPlain.named {name : String} (h : IsPlain name) : ¬ (name = "" ∨ name = ".") := by
  rintro (rfl | rfl)
  · exact absurd h.part (by decide)
  · exact absurd h.part (by decide)

theorem pieces_append_slash {p : List Char} (hp : '/' ∉ p) (cs : List Char) :
    pieces (p ++ '/' :: cs) = p :: pieces cs := by
  induction p with
  | nil => rfl
  | cons c p ih =>
      have hc : c ≠ '/' := fun h => hp (h ▸ List.mem_cons_self)
      have hrest := ih fun h => hp (List.mem_cons_of_mem c h)
      rw [List.cons_append, pieces, if_neg hc, hrest]

theorem pieces_of_slashless {p : List Char} (hp : '/' ∉ p) : pieces p = [p] := by
  induction p with
  | nil => rfl
  | cons c p ih =>
      have hc : c ≠ '/' := fun h => hp (h ▸ List.mem_cons_self)
      rw [pieces, if_neg hc, ih fun h => hp (List.mem_cons_of_mem c h)]

theorem pieces_joinPieces {ps : List (List Char)} (hne : ps ≠ [])
    (h : forall p, p ∈ ps -> '/' ∉ p) : pieces (joinPieces ps) = ps := by
  induction ps with
  | nil => exact absurd rfl hne
  | cons p ps ih =>
      have hp := h p List.mem_cons_self
      cases ps with
      | nil => exact pieces_of_slashless hp
      | cons q qs =>
          rw [joinPieces, pieces_append_slash hp,
            ih (List.cons_ne_nil q qs) fun r hr => h r (List.mem_cons_of_mem p hr)]

theorem slashless_of_mem_pieces {p cs : List Char} (hp : p ∈ pieces cs) : '/' ∉ p := by
  induction cs generalizing p with
  | nil =>
      rw [List.mem_singleton.mp hp]
      exact List.not_mem_nil
  | cons c cs ih =>
      by_cases hc : c = '/'
      · rw [pieces, if_pos hc] at hp
        rcases List.mem_cons.mp hp with rfl | hp
        · exact List.not_mem_nil
        · exact ih hp
      · rw [pieces, if_neg hc] at hp
        cases hcs : pieces cs with
        | nil => exact absurd hcs (pieces_ne_nil cs)
        | cons q qs =>
            rw [hcs] at hp ih
            rcases List.mem_cons.mp hp with rfl | hp
            · intro hmem
              rcases List.mem_cons.mp hmem with hslash | hmem
              · exact hc hslash.symm
              · exact ih List.mem_cons_self hmem
            · exact ih (List.mem_cons_of_mem q hp)

theorem joinPieces_eq_intercalate (ps : List (List Char)) :
    joinPieces ps = List.intercalate ['/'] ps := by
  induction ps with
  | nil => rfl
  | cons p ps ih =>
      cases ps with
      | nil => simp [joinPieces]
      | cons q qs => simp [joinPieces, ih, List.intercalate_cons_cons]

theorem toList_text_rooted {root : PathRoot} (h : root ≠ .relative) (names : List String) :
    (⟨root, names⟩ : Path).text.toList =
      root.text.toList ++ joinPieces (names.map String.toList) := by
  have hne : (root.text ++ String.intercalate "/" names).isEmpty = false := by
    cases root with
    | relative => exact absurd rfl h
    | single => simp [PathRoot.text]
    | double => simp [PathRoot.text]
  simp [text, hne, joinPieces_eq_intercalate]

theorem toList_text_single (names : List String) :
    (⟨.single, names⟩ : Path).text.toList = '/' :: joinPieces (names.map String.toList) :=
  toList_text_rooted (by simp) names

theorem partsOf_slash (cs : List Char) : partsOf ('/' :: cs) = partsOf cs := by
  rw [partsOf, pieces, if_pos rfl, List.filter_cons_of_neg (by simp [isPart])]
  rfl

theorem partsOf_joinPieces {names : List String}
    (h : forall name, name ∈ names -> isPart name.toList = true ∧ '/' ∉ name.toList) :
    partsOf (joinPieces (names.map String.toList)) = names := by
  cases names with
  | nil => rfl
  | cons name names =>
      have hslashless : forall p, p ∈ (name :: names).map String.toList -> '/' ∉ p := by
        intro p hp
        rcases List.mem_map.mp hp with ⟨n, hn, rfl⟩
        exact (h n hn).2
      have hparts : forall p, p ∈ (name :: names).map String.toList -> isPart p = true := by
        intro p hp
        rcases List.mem_map.mp hp with ⟨n, hn, rfl⟩
        exact (h n hn).1
      rw [partsOf, pieces_joinPieces (by simp) hslashless, List.filter_eq_self.mpr hparts,
        List.map_map]
      simp

theorem partsOf_text_single {names : List String}
    (h : forall name, name ∈ names -> isPart name.toList = true ∧ '/' ∉ name.toList) :
    partsOf (⟨.single, names⟩ : Path).text.toList = names := by
  rw [toList_text_single, partsOf_slash, partsOf_joinPieces h]

theorem toList_text_relative {name : String} (h : isPart name.toList = true)
    (names : List String) :
    (⟨.relative, name :: names⟩ : Path).text.toList =
      joinPieces ((name :: names).map String.toList) := by
  have hname : name ≠ "" := by
    rintro rfl
    cases h
  have hne : (PathRoot.relative.text ++ String.intercalate "/" (name :: names)).isEmpty =
      false := by
    cases names with
    | nil => simp [PathRoot.text, hname]
    | cons n ns => simp [PathRoot.text, String.intercalate_cons_cons]
  unfold text
  dsimp only
  rw [hne]
  simp [PathRoot.text, joinPieces_eq_intercalate]

theorem partsOf_text_relative {name : String} {names : List String}
    (h : forall n, n ∈ name :: names -> isPart n.toList = true ∧ '/' ∉ n.toList) :
    partsOf (⟨.relative, name :: names⟩ : Path).text.toList = name :: names := by
  rw [toList_text_relative (h name List.mem_cons_self).1, partsOf_joinPieces h]

theorem mem_joinPieces {c : Char} {p : List Char} {ps : List (List Char)} (hp : p ∈ ps)
    (hc : c ∈ p) : c ∈ joinPieces ps := by
  induction ps with
  | nil => cases hp
  | cons q ps ih =>
      cases ps with
      | nil =>
          rw [List.mem_singleton.mp hp] at hc
          exact hc
      | cons r rs =>
          rcases List.mem_cons.mp hp with rfl | hp
          · exact List.mem_append_left _ hc
          · exact List.mem_append_right _ (List.mem_cons_of_mem _ (ih hp))

theorem takeWhile_joinPieces {names : List String}
    (h : forall name, name ∈ names -> isPart name.toList = true ∧ '/' ∉ name.toList) :
    (joinPieces (names.map String.toList)).takeWhile (· = '/') = [] := by
  cases names with
  | nil => rfl
  | cons name names =>
      rcases h name List.mem_cons_self with ⟨hpart, hslashless⟩
      cases hname : name.toList with
      | nil =>
          rw [hname] at hpart
          cases hpart
      | cons c cs =>
          have hc : c ≠ '/' := by
            rintro rfl
            rw [hname] at hslashless
            exact hslashless List.mem_cons_self
          have hhead : exists rest,
              joinPieces ((name :: names).map String.toList) = c :: rest := by
            rw [List.map_cons, hname]
            cases names with
            | nil => exact ⟨cs, rfl⟩
            | cons n ns => exact ⟨_, rfl⟩
          rcases hhead with ⟨rest, hhead⟩
          rw [hhead, List.takeWhile_cons_of_neg (by simpa using hc)]

/-- The text of a path whose parts can stand between slashes is read as that path. -/
theorem ofText_text {p : Path}
    (h : forall name, name ∈ p.parts -> isPart name.toList = true ∧ '/' ∉ name.toList) :
    ofText p.text = p := by
  rcases p with ⟨root, names⟩
  have hhead := takeWhile_joinPieces h
  cases root with
  | relative =>
      cases names with
      | nil => rfl
      | cons name names =>
          rw [ofText, partsOf_text_relative h,
            toList_text_relative (h name List.mem_cons_self).1, rootOf, hhead]
          rfl
  | single =>
      rw [ofText, partsOf_text_single h, toList_text_single, rootOf,
        List.takeWhile_cons_of_pos (by simp), hhead]
      rfl
  | double =>
      have htext : (⟨.double, names⟩ : Path).text.toList =
          '/' :: '/' :: joinPieces (names.map String.toList) :=
        toList_text_rooted (by simp) names
      rw [ofText, htext, partsOf_slash, partsOf_slash, partsOf_joinPieces h, rootOf,
        List.takeWhile_cons_of_pos (by simp), List.takeWhile_cons_of_pos (by simp), hhead]
      rfl

/-!
## Sizes
-/

theorem prefix_joinPieces (ps qs : List (List Char)) : joinPieces ps <+: joinPieces (ps ++ qs) := by
  induction ps with
  | nil => exact List.nil_prefix
  | cons p ps ih =>
      cases ps with
      | nil =>
          cases qs with
          | nil => exact List.prefix_rfl
          | cons q qs => exact List.prefix_append p _
      | cons r rs =>
          exact (List.prefix_append_right_inj p).mpr ((List.prefix_cons_inj '/').mpr ih)

theorem suffix_joinPieces (ps : List (List Char)) {qs : List (List Char)} (h : qs ≠ []) :
    joinPieces qs <:+ joinPieces (ps ++ qs) := by
  induction ps with
  | nil => exact List.suffix_rfl
  | cons p ps ih =>
      cases hrest : ps ++ qs with
      | nil => exact absurd (List.append_eq_nil_iff.mp hrest).2 h
      | cons r rs =>
          rw [hrest] at ih
          rw [List.cons_append, hrest]
          exact ih.trans ((List.suffix_cons '/' _).trans (List.suffix_append p _))

theorem size_le_of_infix {cs ds : List Char} (h : cs <:+: ds) :
    Text.Utf8.size cs ≤ Text.Utf8.size ds := by
  rcases h with ⟨front, back, rfl⟩
  simp only [Text.Utf8.size, Text.Utf8.encode, List.flatMap_append, List.length_append]
  omega

theorem size_text_single_le (names more : List String) :
    Text.Utf8.size (⟨.single, names⟩ : Path).text.toList ≤
      Text.Utf8.size (⟨.single, names ++ more⟩ : Path).text.toList := by
  refine size_le_of_infix (List.IsPrefix.isInfix ?_)
  rw [toList_text_single, toList_text_single, List.map_append]
  exact (List.prefix_cons_inj '/').mpr (prefix_joinPieces _ _)

theorem size_text_relative_le {names : List String} (hne : names ≠ [])
    (h : forall name, name ∈ names -> isPart name.toList = true) (loc : List String) :
    Text.Utf8.size (⟨.relative, names⟩ : Path).text.toList ≤
      Text.Utf8.size (⟨.single, loc ++ names⟩ : Path).text.toList := by
  cases names with
  | nil => exact absurd rfl hne
  | cons name names =>
      refine size_le_of_infix (List.IsSuffix.isInfix ?_)
      rw [toList_text_relative (h name List.mem_cons_self), toList_text_single, List.map_append]
      exact (suffix_joinPieces _ (by simp)).trans (List.suffix_cons '/' _)

end Path
end EngineClient
