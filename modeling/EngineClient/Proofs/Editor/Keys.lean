import EngineClient.Proofs.Disk.Entries
import EngineClient.Proofs.Editor.Unsaved

/-!
# The table of buffers

However files are opened, edited, closed and read again, while programs beside the editor change
them: the marks and the current file are about open buffers, and every key is a path that
resolves to itself, so that all spellings of a path reach one buffer. The exceptions are keys of
paths that were cut off when they were resolved. Main statement: `tidy_of_handled`.
-/

namespace EngineClient
namespace Buffers

open Disk (SameLinks LinkFree CutOff IsSeated)

variable {d d' : Disk} {b b' : Buffers} {k j text : String}

/-!
## Keys
-/

/-- The key is an absolute path of plain names, none of them a link, and it is its own key. -/
structure IsCanonical (d : Disk) (k : String) : Prop where
  spelled : exists names, k = (⟨.single, names⟩ : Path).text ∧
    (forall name, name ∈ names -> Path.IsPlain name) ∧ d.LinkFree names
  fixed : key d k = .ok k

def IsStray (d : Disk) (k : String) : Prop :=
  exists path p real, d.expandUser (Path.ofText path) = .ok p ∧ d.CutOff p.text ∧
    d.realPath p.text = .ok real ∧ real.text = k

theorem isCanonical_of_linkFree {names : List String}
    (hplain : forall name, name ∈ names -> Path.IsPlain name) (hfree : d.LinkFree names)
    (hnul : Disk.hasNul (⟨.single, names⟩ : Path).text = false) :
    IsCanonical d (⟨.single, names⟩ : Path).text where
  spelled := ⟨names, rfl, hplain, hfree⟩
  fixed := key_of_linkFree hplain hfree hnul

theorem IsCanonical.sameLinks (h : IsCanonical d k) (hlinks : d.SameLinks d') :
    IsCanonical d' k := by
  rcases key_eq_ok h.fixed with ⟨_, _, _, _, hnul, _⟩
  rcases h.spelled with ⟨names, rfl, hplain, hfree⟩
  exact isCanonical_of_linkFree hplain (hlinks.linkFree hfree) hnul

theorem IsStray.sameLinks (h : IsStray d k) (hlinks : d.SameLinks d') : IsStray d' k := by
  rcases h with ⟨path, p, real, hexpand, hcut, hreal, htext⟩
  exact ⟨path, p, real, (hlinks.expandUser_eq _).trans hexpand, hlinks.cutOff hcut,
    (hlinks.realPath_eq _).trans hreal, htext⟩

/-- A path that is too long is not that of a missing file. -/
theorem readText_of_long {p : Path} (h : Disk.maxPathSize ≤ Text.Utf8.size p.text.toList) :
    exists f, d.readText p = .error f ∧ f.isNotFound = false := by
  have hstat : d.stat p = .error .nameTooLong := by
    rw [Disk.stat, Disk.locate, if_pos h]
    rfl
  rw [Disk.readText, Disk.readOctets]
  split
  · exact ⟨_, rfl, rfl⟩
  · rw [hstat]
    exact ⟨_, rfl, rfl⟩

theorem size_of_readText {p : Path} (h : d.readText p = .ok text) :
    Text.Utf8.size p.text.toList < Disk.maxPathSize := by
  by_contra hlong
  rcases readText_of_long (d := d) (Nat.le_of_not_lt hlong) with ⟨f, hread, _⟩
  rw [hread] at h
  cases h

/-- A key whose file can be read resolves to itself, unless its path was cut off. -/
theorem canonical_or_stray (hseated : d.IsSeated) {path : String} (hkey : key d path = .ok k)
    (hread : d.readText (Path.ofText k) = .ok text) : IsCanonical d k ∨ IsStray d k := by
  rcases key_eq_ok hkey with ⟨p, real, hexpand, hreal, hnul, rfl⟩
  by_cases hcut : d.CutOff p.text
  · exact Or.inr ⟨path, p, real, hexpand, hcut, hreal, rfl⟩
  · rcases Disk.linkFree_of_realPath hseated hreal hcut with ⟨names, rfl, hplain, hfree⟩
    have hsize := size_of_readText hread
    rw [Disk.ofText_text_of_plain hplain] at hsize
    exact Or.inl (isCanonical_of_linkFree hplain (hfree hsize) hnul)

/-!
## Tables
-/

/-- Marks and the current file are about open buffers, each of which has a key of its own; the
keys resolve to themselves, or they are those of paths that were cut off. -/
structure IsTidy (d : Disk) (b : Buffers) : Prop where
  marks : forall k, k ∈ b.modified -> k ∈ b.keys
  current : forall k, b.current? = some k -> k ∈ b.keys
  distinct : b.keys.Nodup
  keys : forall k, k ∈ b.keys -> IsCanonical d k ∨ IsStray d k

theorem isTidy_empty (d : Disk) : IsTidy d {} where
  marks _ hk := absurd hk List.not_mem_nil
  current _ hk := nomatch hk
  distinct := List.nodup_nil
  keys _ hk := absurd hk List.not_mem_nil

theorem IsTidy.sameLinks (h : b.IsTidy d) (hlinks : d.SameLinks d') : b.IsTidy d' where
  marks := h.marks
  current := h.current
  distinct := h.distinct
  keys k hk := (h.keys k hk).imp (·.sameLinks hlinks) (·.sameLinks hlinks)

theorem isOpen_iff_mem (b : Buffers) (k : String) : b.isOpen k = true ↔ k ∈ b.keys := by
  unfold isOpen get? keys
  induction b.texts with
  | nil => simp
  | cons e es ih =>
      by_cases he : k = e.1
      · simp [he]
      · simp [he]

theorem keys_withText (b : Buffers) (k text : String) :
    (b.withText k text).keys = if k ∈ b.keys then b.keys else b.keys ++ [k] := by
  unfold withText keys
  dsimp only
  induction b.texts with
  | nil => simp [setText]
  | cons e es ih =>
      by_cases he : e.1 = k
      · simp [setText, he]
      · have hne : ¬ k = e.1 := fun heq => he heq.symm
        simp only [setText, he, if_false, List.map_cons, ih, List.mem_cons, hne, false_or]
        split
        · rfl
        · rfl

theorem mem_keys_withText : j ∈ (b.withText k text).keys ↔ j ∈ b.keys ∨ j = k := by
  rw [keys_withText]
  split
  · rename_i hk
    constructor
    · exact Or.inl
    · rintro (hj | rfl)
      · exact hj
      · exact hk
  · simp

theorem nodup_keys_withText (h : b.keys.Nodup) (k text : String) :
    (b.withText k text).keys.Nodup := by
  rw [keys_withText]
  split
  · exact h
  · rename_i hk
    rw [List.nodup_append]
    refine ⟨h, by simp, ?_⟩
    rintro i hi _ hj rfl
    exact hk (List.mem_singleton.mp hj ▸ hi)

theorem keys_drop (b : Buffers) (k : String) : (b.drop k).keys = b.keys.filter (· != k) := by
  unfold drop keys
  rw [List.filter_map]
  rfl

theorem IsTidy.withText (h : b.IsTidy d) (hk : k ∈ b.keys) (text : String) :
    (b.withText k text).IsTidy d := by
  have hkeys : (b.withText k text).keys = b.keys := by
    rw [keys_withText, if_pos hk]
  exact ⟨hkeys ▸ h.marks, hkeys ▸ h.current, hkeys ▸ h.distinct, hkeys ▸ h.keys⟩

theorem IsTidy.mark (h : b.IsTidy d) (hk : k ∈ b.keys) : (b.mark k).IsTidy d where
  marks j hj := by
    rcases List.mem_cons.mp hj with rfl | hj
    · exact hk
    · exact h.marks j (List.mem_filter.mp hj).1
  current := h.current
  distinct := h.distinct
  keys := h.keys

theorem IsTidy.load (h : b.IsTidy d) (hk : IsCanonical d k ∨ IsStray d k) (text : String) :
    (b.load k text).IsTidy d where
  marks j hj := mem_keys_withText.mpr (Or.inl (h.marks j (List.mem_filter.mp hj).1))
  current j hj := by
    cases hj
    exact mem_keys_withText.mpr (Or.inr rfl)
  distinct := nodup_keys_withText h.distinct k text
  keys j hj := by
    rcases mem_keys_withText.mp hj with hj | rfl
    · exact h.keys j hj
    · exact hk

theorem IsTidy.drop (h : b.IsTidy d) (k : String) : (b.drop k).IsTidy d where
  marks j hj := by
    rcases List.mem_filter.mp hj with ⟨hmarked, hne⟩
    rw [keys_drop]
    exact List.mem_filter.mpr ⟨h.marks j hmarked, hne⟩
  current j hj := by
    have hcurrent : b.current? = some j ∧ j ≠ k := by
      unfold Buffers.drop at hj
      dsimp only at hj
      split at hj
      · cases hj
      · rename_i hne
        refine ⟨hj, ?_⟩
        rintro rfl
        exact hne hj
    rw [keys_drop]
    exact List.mem_filter.mpr ⟨h.current j hcurrent.1, by simpa using hcurrent.2⟩
  distinct := by
    rw [keys_drop]
    exact h.distinct.filter _
  keys j hj := by
    rw [keys_drop] at hj
    exact h.keys j (List.mem_filter.mp hj).1

theorem IsTidy.revert (h : b.IsTidy d) {path : String} {r : Revert}
    (hrevert : revert d b path = .ok r) : r.buffers.IsTidy d := by
  have hreverts := reverts_revert d b path
  rw [hrevert] at hreverts
  cases hreverts with
  | skipped hkey hclean => exact h
  | read hkey hclean hread => exact h.withText ((isOpen_iff_mem b _).mp hclean.1) _
  | closed hkey hclean hread hgone hagain => exact h.drop _
  | noted hkey hclean hread hthere hnoted => exact h

theorem IsTidy.reread (h : b.IsTidy d) (hreread : Reread d b b') : b'.IsTidy d := by
  induction hreread with
  | refl => exact h
  | revert _ hrevert ih => exact ih.revert hrevert

/-!
## One buffer
-/

/-- What a path shows: the text of its buffer, if that is open, and whether it is marked. -/
structure Shows (d : Disk) (b : Buffers) (path : String) (text? : Option String)
    (marked : Bool) : Prop where
  text : Buffers.text? d b path = .ok text?
  mark : isModified d b path = .ok marked

def AgreesBeside (k : String) (b b' : Buffers) : Prop :=
  forall j, j ≠ k -> b'.get? j = b.get? j ∧ b'.isMarked j = b.isMarked j

/-- What is done by one spelling of a path is done to the buffer under its key, which every other
spelling shows, and to no other buffer. -/
structure IsOneBuffer (d : Disk) (b : Buffers) (path other k : String) : Prop where
  reads : Shows d b path (b.get? k) (b.isMarked k) ∧ Shows d b other (b.get? k) (b.isMarked k)
  opens : forall b', openFile d b path = .ok b' ->
    exists text, d.readText (Path.ofText k) = .ok text ∧ Shows d b' other (some text) false ∧
      b'.current? = some k ∧ AgreesBeside k b b'
  edits : forall text b', edit d b path text = .ok b' ->
    b.isOpen k = true ∧ Shows d b' other (some text) true ∧ AgreesBeside k b b'
  closes : forall b', closeFile d b path = .ok b' ->
    Shows d b' other none false ∧ AgreesBeside k b b'
  reverts : forall r, revert d b path = .ok r ->
    AgreesBeside k b r.buffers ∧
      (r.reverted = false -> r.buffers = b) ∧
      (r.reverted = true -> b.IsClean k ∧
        ((exists text, d.readText (Path.ofText k) = .ok text ∧
            Shows d r.buffers other (some text) false) ∨
          (exists f, d.readText (Path.ofText k) = .error f ∧ f.isNotFound = true ∧
            Shows d r.buffers other none false)))

theorem shows_of_key {path : String} (h : key d path = .ok k) (b : Buffers) :
    Shows d b path (b.get? k) (b.isMarked k) where
  text := by
    rw [Buffers.text?, h]
    rfl
  mark := by
    rw [isModified, h]
    rfl

theorem agreesBeside_withText (b : Buffers) (k text : String) :
    AgreesBeside k b (b.withText k text) :=
  fun _ hne => ⟨get?_setText_of_ne hne text b.texts, rfl⟩

theorem agreesBeside_load (b : Buffers) (k text : String) : AgreesBeside k b (b.load k text) :=
  fun _ hne => ⟨get?_setText_of_ne hne text b.texts, contains_filter_of_ne hne b.modified⟩

theorem agreesBeside_drop (b : Buffers) (k : String) : AgreesBeside k b (b.drop k) :=
  fun _ hne => ⟨get?_drop_of_ne b hne, contains_filter_of_ne hne b.modified⟩

theorem isMarked_unmarked (b : Buffers) (k : String) :
    (b.modified.filter (· != k)).contains k = false := by
  simp

theorem edit_eq_ok {path : String} (h : edit d b path text = .ok b') :
    exists j, key d path = .ok j ∧ b.isOpen j = true ∧ b' = (b.withText j text).mark j := by
  cases hkey : key d path with
  | error f =>
      simp only [edit, hkey, bind, Except.bind] at h
      cases h
  | ok j =>
      simp only [edit, hkey, bind, Except.bind] at h
      split at h
      · rename_i hopen
        cases h
        exact ⟨j, rfl, hopen, rfl⟩
      · cases h

theorem isOneBuffer_of_keys {path other : String} (hpath : key d path = .ok k)
    (hother : key d other = .ok k) (hfixed : b.isOpen k = true -> key d k = .ok k) :
    IsOneBuffer d b path other k where
  reads := ⟨shows_of_key hpath b, shows_of_key hother b⟩
  opens b' h := by
    rcases openFile_eq_ok h with ⟨j, text, hkey, hread, rfl⟩
    rw [hpath] at hkey
    cases hkey
    have hshows := shows_of_key hother (b.load k text)
    have htext : (b.load k text).get? k = some text := get?_setText_self k text b.texts
    rw [htext, isMarked, load, unmark, isMarked_unmarked] at hshows
    exact ⟨text, hread, hshows, rfl, agreesBeside_load b k text⟩
  edits text b' h := by
    rcases edit_eq_ok h with ⟨j, hkey, hopen, rfl⟩
    rw [hpath] at hkey
    cases hkey
    have hshows := shows_of_key hother ((b.withText k text).mark k)
    have htext : ((b.withText k text).mark k).get? k = some text :=
      get?_setText_self k text b.texts
    have hmarked : ((b.withText k text).mark k).isMarked k = true := by
      simp [isMarked, mark]
    rw [htext, hmarked] at hshows
    refine ⟨hopen, hshows, fun j hne => ⟨get?_setText_of_ne hne text b.texts, ?_⟩⟩
    simp [isMarked, mark, withText, hne]
  closes b' h := by
    rw [closeFile, hpath] at h
    cases h
    have hshows := shows_of_key hother (b.drop k)
    rw [get?_drop_self, isMarked, Buffers.drop, isMarked_unmarked] at hshows
    exact ⟨hshows, agreesBeside_drop b k⟩
  reverts r h := by
    have hreverts := reverts_revert d b path
    rw [h] at hreverts
    cases hreverts with
    | skipped hkey hclean =>
        exact ⟨fun _ _ => ⟨rfl, rfl⟩, fun _ => rfl, fun hfalse => Bool.noConfusion hfalse⟩
    | @read j text hkey hclean hread =>
        rw [hpath] at hkey
        cases hkey
        have hshows := shows_of_key hother (b.withText k text)
        have htext : (b.withText k text).get? k = some text := get?_setText_self k text b.texts
        rw [htext] at hshows
        have hunmarked : (b.withText k text).isMarked k = false := hclean.2
        rw [hunmarked] at hshows
        exact ⟨agreesBeside_withText b k text, fun hfalse => Bool.noConfusion hfalse,
          fun _ => ⟨hclean, Or.inl ⟨text, hread, hshows⟩⟩⟩
    | @closed j i f hkey hclean hread hgone hagain =>
        rw [hpath] at hkey
        cases hkey
        rw [hfixed hclean.1] at hagain
        cases hagain
        have hshows := shows_of_key hother (b.drop k)
        rw [get?_drop_self, isMarked, Buffers.drop, isMarked_unmarked] at hshows
        exact ⟨agreesBeside_drop b k, fun hfalse => Bool.noConfusion hfalse,
          fun _ => ⟨hclean, Or.inr ⟨f, hread, hgone, hshows⟩⟩⟩
    | noted hkey hclean hread hthere hnoted =>
        exact ⟨fun _ _ => ⟨rfl, rfl⟩, fun _ => rfl, fun hfalse => Bool.noConfusion hfalse⟩

end Buffers

/-!
## Calls on the editor
-/

/-- The worlds that calls on the editor lead to, whether these return or raise, while programs
beside it change files and leave links as they are. -/
inductive World.Handled (w : World) : World → Prop where
  | start : Handled w w
  | openFile {w' : World} (h : Handled w w') (path : String) :
      Handled w ((Editor.openFile path).after w')
  | closeFile {w' : World} (h : Handled w w') (path : String) :
      Handled w ((Editor.closeFile path).after w')
  | edit {w' : World} (h : Handled w w') (path text : String) :
      Handled w ((Editor.edit path text).after w')
  | revert {w' : World} (h : Handled w w') (path : String) :
      Handled w ((Editor.revert path).after w')
  | maybeSync {w' : World} (h : Handled w w') (targets? : Option (List String)) :
      Handled w ((Editor.maybeSync targets?).after w')
  | change {w' : World} (h : Handled w w') {d : Disk} (hlinks : w'.disk.SameLinks d) :
      Handled w { w' with disk := d }

namespace Editor

open Act

theorem edit_run (path text : String) (w : World) :
    edit path text w =
      match Buffers.edit w.disk (w.client.editor?.getD {}) path text with
      | .ok b => .ok () (w.showing b)
      | .error f => .error f w := by
  have hbuffers : buffers w = .ok (w.client.editor?.getD {}) w := rfl
  unfold edit
  rw [bind_run_of_ok (disk_run w), bind_run_of_ok hbuffers]
  cases Buffers.edit w.disk (w.client.editor?.getD {}) path text <;> rfl

def HasTidy (w : World) : Prop :=
  exists b, w.client.editor? = some b ∧ b.IsTidy w.disk

theorem hasTidy_of_follows {w w' : World} (h : HasTidy w) (hfollows : Follows w w') :
    HasTidy w' := by
  rcases h with ⟨b, hb, htidy⟩
  rcases hfollows.2 b hb with ⟨b', hb', hreread⟩
  refine ⟨b', hb', ?_⟩
  rw [hfollows.1] at hreread ⊢
  exact htidy.reread hreread

theorem hasTidy_after {x : Act Unit} {w : World} {b : Buffers} {r : Except Fault Buffers}
    (hb : w.client.editor? = some b) (htidy : b.IsTidy w.disk)
    (hrun : x w = match r with
      | .ok b => .ok () (w.showing b)
      | .error f => .error f w)
    (hr : forall b', r = .ok b' -> b'.IsTidy w.disk) : HasTidy (x.after w) := by
  cases r with
  | ok b' =>
      rw [after_of_ok hrun]
      exact ⟨b', rfl, hr b' rfl⟩
  | error f =>
      rw [after_of_error hrun]
      exact ⟨b, hb, htidy⟩

theorem disk_of_showing {x : Act Unit} {w : World} {r : Except Fault Buffers}
    (hrun : x w = match r with
      | .ok b => .ok () (w.showing b)
      | .error f => .error f w) : (x.after w).disk = w.disk := by
  cases r with
  | ok b' =>
      rw [after_of_ok hrun]
      rfl
  | error f =>
      rw [after_of_error hrun]

theorem hasTidy_openFile {w : World} (h : HasTidy w) (hseated : w.disk.IsSeated) (path : String) :
    HasTidy ((openFile path).after w) := by
  rcases h with ⟨b, hb, htidy⟩
  have hrun := openFile_run path w
  rw [hb, Option.getD_some] at hrun
  refine hasTidy_after hb htidy hrun ?_
  intro b' hopen
  rcases Buffers.openFile_eq_ok hopen with ⟨k, text, hkey, hread, rfl⟩
  exact htidy.load (Buffers.canonical_or_stray hseated hkey hread) text

theorem hasTidy_closeFile {w : World} (h : HasTidy w) (path : String) :
    HasTidy ((closeFile path).after w) := by
  rcases h with ⟨b, hb, htidy⟩
  have hrun := closeFile_run path w
  rw [hb, Option.getD_some] at hrun
  refine hasTidy_after hb htidy hrun ?_
  intro b' hclose
  cases hkey : Buffers.key w.disk path with
  | error f =>
      rw [Buffers.closeFile, hkey] at hclose
      cases hclose
  | ok k =>
      rw [Buffers.closeFile, hkey] at hclose
      cases hclose
      exact htidy.drop k

theorem hasTidy_edit {w : World} (h : HasTidy w) (path text : String) :
    HasTidy ((edit path text).after w) := by
  rcases h with ⟨b, hb, htidy⟩
  have hrun := edit_run path text w
  rw [hb, Option.getD_some] at hrun
  refine hasTidy_after hb htidy hrun ?_
  intro b' hedit
  rcases Buffers.edit_eq_ok hedit with ⟨k, _, hopen, rfl⟩
  have hk := (Buffers.isOpen_iff_mem b k).mp hopen
  exact (htidy.withText hk text).mark (Buffers.mem_keys_withText.mpr (Or.inl hk))

theorem handled_keeps {w w' : World} (hseated : w.disk.IsSeated) (htidy : HasTidy w)
    (h : w.Handled w') : w.disk.SameLinks w'.disk ∧ HasTidy w' := by
  induction h with
  | start => exact ⟨.refl _, htidy⟩
  | openFile _ path ih =>
      refine ⟨?_, hasTidy_openFile ih.2 (ih.1.isSeated hseated) path⟩
      rw [disk_of_showing (openFile_run path _)]
      exact ih.1
  | closeFile _ path ih =>
      refine ⟨?_, hasTidy_closeFile ih.2 path⟩
      rw [disk_of_showing (closeFile_run path _)]
      exact ih.1
  | edit _ path text ih =>
      refine ⟨?_, hasTidy_edit ih.2 path text⟩
      rw [disk_of_showing (edit_run path text _)]
      exact ih.1
  | @revert w₁ _ path ih =>
      have hfollows := follows_revert path w₁
      refine ⟨?_, hasTidy_of_follows ih.2 hfollows⟩
      rw [hfollows.1]
      exact ih.1
  | @maybeSync w₁ _ targets? ih =>
      have hfollows := follows_maybeSync targets? w₁
      refine ⟨?_, hasTidy_of_follows ih.2 hfollows⟩
      rw [hfollows.1]
      exact ih.1
  | change _ hlinks ih =>
      rcases ih with ⟨hsame, b, hb, hb'⟩
      exact ⟨hsame.trans hlinks, b, hb, hb'.sameLinks hlinks⟩

/-- Calls on an editor that had no buffers leave its table in order, while links stay as they are:
marks and the current file are about open buffers, keys are distinct, and each is absolute, leads
through no link and is its own key, or it came of a path that was cut off. All spellings of a path
reach one buffer, unless the key of that buffer came of such a path. -/
theorem tidy_of_handled {w w' : World} (hseated : w.disk.IsSeated)
    (hfresh : w.client.editor? = some {}) (h : w.Handled w') :
    exists b,
      w'.client.editor? = some b ∧ b.IsTidy w'.disk ∧
        forall path other k, Buffers.key w'.disk path = .ok k ->
          Buffers.key w'.disk other = .ok k ->
          Buffers.IsOneBuffer w'.disk b path other k ∨
            k ∈ b.keys ∧ ¬ Buffers.IsCanonical w'.disk k ∧ Buffers.IsStray w'.disk k := by
  have hstart : HasTidy w := ⟨{}, hfresh, Buffers.isTidy_empty _⟩
  rcases (handled_keeps hseated hstart h).2 with ⟨b, hb, htidy⟩
  refine ⟨b, hb, htidy, ?_⟩
  intro path other k hpath hother
  by_cases hfixed : b.isOpen k = true -> Buffers.IsCanonical w'.disk k
  · exact Or.inl (Buffers.isOneBuffer_of_keys hpath hother fun hopen => (hfixed hopen).fixed)
  · rw [Classical.not_imp] at hfixed
    have hk := (Buffers.isOpen_iff_mem b k).mp hfixed.1
    exact Or.inr ⟨hk, hfixed.2, (htidy.keys k hk).resolve_left hfixed.2⟩

end Editor

/-!
## A path that is cut off
-/

namespace Disk

open EngineClient.Path

theorem isSeated_looped : looped.IsSeated where
  plain _ hname := absurd hname List.not_mem_nil
  linkFree := looped.linkFree_root

theorem stat_looped : looped.stat ⟨.single, ["a"]⟩ = .ok (.file [116]) := by
  have ha : IsEntry "a" := ⟨⟨rfl, by simp, by simp⟩, by decide, rfl⟩
  have hb : IsEntry "b" := ⟨⟨rfl, by simp, by simp⟩, by decide, rfl⟩
  rw [stat_link ha hb rfl rfl, stat_name hb rfl]
  rfl

theorem reach_looped :
    looped.reach "/loop/../a" =
      .ok ([(⟨.single, ["loop"]⟩, none)], .loop "/loop/../a".toList) := by
  have hpieces : pieces "/loop/../a".toList = [[], "loop".toList, ['.', '.'], ['a']] := rfl
  have htext : joinText (joinText "/loop".toList []) (joinPieces [['.', '.'], ['a']]) =
      "/loop/../a".toList := rfl
  rw [reach_loop rfl hpieces, htext]

end Disk

namespace Buffers

theorem key_looped : key Disk.looped "/loop/../a" = .ok "/a" := by
  have htexts : (⟨.single, ["loop", "..", "a"]⟩ : Path).text = "/loop/../a" ∧
      (⟨.single, ["a"]⟩ : Path).text = "/a" :=
    ⟨rfl, rfl⟩
  have habsolute : Disk.looped.absolutePath "/loop/../a".toList = ⟨.single, ["a"]⟩ := rfl
  have hreal : Disk.looped.realPath (⟨.single, ["loop", "..", "a"]⟩ : Path).text =
      .ok ⟨.single, ["a"]⟩ := by
    rw [htexts.1, Disk.realPath_eq, Disk.reach_looped]
    exact congrArg Except.ok habsolute
  have hstat : Disk.looped.stat ⟨.single, ["a"]⟩ ≠ .error .tooManyLinks := by
    rw [Disk.stat_looped]
    simp
  have hkey := key_of_realPath (by decide) rfl hreal rfl hstat
  rwa [htexts.1, htexts.2] at hkey

theorem readText_looped : Disk.looped.readText (Path.ofText "/a") = .ok "t" := by
  have hpath : Path.ofText "/a" = ⟨.single, ["a"]⟩ ∧ (⟨.single, ["a"]⟩ : Path).text = "/a" :=
    ⟨rfl, rfl⟩
  have hnul : Disk.hasNul "/a" = false := rfl
  have htext : Disk.decodeFile [116] = .ok "t" :=
    rfl
  rw [hpath.1, Disk.readText, Disk.readOctets, hpath.2, hnul, Disk.stat_looped]
  exact htext

theorem not_isCanonical_looped : ¬ IsCanonical Disk.looped "/a" := by
  have hpath : Path.ofText "/a" = ⟨.single, ["a"]⟩ := rfl
  rintro ⟨⟨names, hnames, hplain, hfree⟩, _⟩
  have hread := Disk.ofText_text_of_plain hplain
  rw [← hnames, hpath] at hread
  cases hread
  have hlink : Disk.looped.linkTarget? ["a"] = some "b" := rfl
  rw [hfree ["a"] List.prefix_rfl] at hlink
  cases hlink

end Buffers

namespace Editor

def loopedFirst : World :=
  { firstSession with
    disk := Disk.looped
    client := { firstSession.client with editor? := some {} } }

theorem openFile_loopedFirst :
    exists b,
      ((openFile "/loop/../a").after loopedFirst).client.editor? = some b ∧ b.keys = ["/a"] ∧
        Buffers.IsStray Disk.looped "/a" ∧ ¬ Buffers.IsCanonical Disk.looped "/a" := by
  have hrun : openFile "/loop/../a" loopedFirst =
      .ok () (loopedFirst.showing (Buffers.load {} "/a" "t")) := by
    rw [openFile_run]
    change (match Buffers.openFile Disk.looped {} "/loop/../a" with
      | .ok b => EStateM.Result.ok () (loopedFirst.showing b)
      | .error f => .error f loopedFirst) = _
    rw [Buffers.openFile_of_ok Buffers.key_looped Buffers.readText_looped]
  rcases tidy_of_handled Disk.isSeated_looped rfl
    (World.Handled.openFile (w := loopedFirst) .start "/loop/../a") with ⟨b, hb, htidy, _⟩
  rw [Act.after_of_ok hrun] at hb htidy ⊢
  cases hb
  have hstray := (htidy.keys "/a" List.mem_cons_self).resolve_left Buffers.not_isCanonical_looped
  exact ⟨_, rfl, rfl, hstray, Buffers.not_isCanonical_looped⟩

end Editor
end EngineClient
