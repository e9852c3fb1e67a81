import EngineClient.Proofs.Disk.Linkless

/-!
# Unsaved text in buffers

Reading files again keeps the text of every buffer that is marked, as long as keys resolve to
themselves. Closing a file and reading one from the disk give up the text of the buffer that
they are about.
-/

namespace EngineClient
namespace Buffers

variable {d : Disk} {b b' : Buffers} {k j t : String}

/-!
## Unsaved text
-/

/-- The buffer under a key is open with a text that was not saved. -/
structure Unsaved (b : Buffers) (k t : String) : Prop where
  text : b.get? k = some t
  marked : b.isMarked k = true

theorem contains_filter_of_ne (h : j ≠ k) (es : List String) :
    (es.filter (· != k)).contains j = es.contains j := by
  simp [h]

theorem get?_drop_self (b : Buffers) (k : String) : (b.drop k).get? k = none := by
  unfold get? drop
  rw [List.lookup_eq_none_iff]
  intro e he
  have hne : e.1 ≠ k := by simpa using (List.mem_filter.mp he).2
  simp [hne.symm]

theorem lookup_filter_of_ne (h : j ≠ k) (es : List (String × String)) :
    (es.filter (·.1 != k)).lookup j = es.lookup j := by
  induction es with
  | nil => rfl
  | cons e es ih =>
      rcases e with ⟨i, text⟩
      by_cases hi : i = k
      · simp [hi, List.lookup_cons, ih, beq_eq_false_iff_ne.mpr h]
      · simp [hi, List.lookup_cons, ih]

theorem get?_drop_of_ne (b : Buffers) (h : j ≠ k) : (b.drop k).get? j = b.get? j :=
  lookup_filter_of_ne h b.texts

theorem Unsaved.drop (h : b.Unsaved k t) (hne : k ≠ j) : (b.drop j).Unsaved k t where
  text := (get?_drop_of_ne b hne).trans h.text
  marked := (contains_filter_of_ne hne b.modified).trans h.marked

theorem Unsaved.withText (h : b.Unsaved k t) (hne : k ≠ j) (text : String) :
    (b.withText j text).Unsaved k t where
  text := (get?_setText_of_ne hne text b.texts).trans h.text
  marked := h.marked

theorem Unsaved.load (h : b.Unsaved k t) (hne : k ≠ j) (text : String) :
    (b.load j text).Unsaved k t where
  text := (get?_setText_of_ne hne text b.texts).trans h.text
  marked := (contains_filter_of_ne hne b.modified).trans h.marked

theorem not_unsaved_drop (b : Buffers) (k t : String) : ¬ (b.drop k).Unsaved k t := by
  intro h
  have htext := h.text
  rw [get?_drop_self] at htext
  cases htext

theorem not_unsaved_load (b : Buffers) (k text t : String) : ¬ (b.load k text).Unsaved k t := by
  intro h
  have hmarked : k ∈ b.modified.filter (· != k) := List.contains_iff_mem.mp h.marked
  simp at hmarked

theorem not_unsaved_load_drop (b : Buffers) (k j text t : String) :
    ¬ ((b.drop k).load j text).Unsaved k t := by
  intro h
  by_cases hkj : k = j
  · rw [hkj] at h
    exact not_unsaved_load (b.drop j) j text t h
  · have htext := h.text
    rw [load, get?, unmark, withText, get?_setText_of_ne hkj] at htext
    change (b.drop k).get? k = some t at htext
    rw [get?_drop_self] at htext
    cases htext

theorem openFile_of_ok {path text : String} (hkey : key d path = .ok k)
    (hread : d.readText (Path.ofText k) = .ok text) :
    openFile d b path = .ok (b.load k text) := by
  simp only [openFile, hkey, hread, bind, Except.bind]
  rfl

theorem openFile_eq_ok {path : String} (h : openFile d b path = .ok b') :
    exists j text,
      key d path = .ok j ∧ d.readText (Path.ofText j) = .ok text ∧ b' = b.load j text := by
  cases hkey : key d path with
  | error f =>
      simp only [openFile, hkey, bind, Except.bind] at h
      cases h
  | ok j =>
      cases hread : d.readText (Path.ofText j) with
      | error f =>
          simp only [openFile, hkey, hread, bind, Except.bind] at h
          cases h
      | ok text =>
          rw [openFile_of_ok hkey hread] at h
          cases h
          exact ⟨j, text, rfl, hread, rfl⟩

/-!
## Reading again
-/

/-- A path has a key that resolves to another one, as links that lead back to themselves may
have it. -/
def Astray (d : Disk) (k : String) : Prop :=
  exists path j, key d path = .ok j ∧ key d j = .ok k ∧ j ≠ k

theorem Astray.not_isLinkless (h : Astray d k) : ¬ d.IsLinkless := by
  intro hlinkless
  rcases h with ⟨path, j, hj, hk, hne⟩
  rw [key_idempotent hlinkless hj] at hk
  cases hk
  exact hne rfl

def IsClean (b : Buffers) (k : String) : Prop :=
  b.isOpen k = true ∧ b.isMarked k = false

/-- The ways in which reading the file of a path again can go: the path has no key, there is
nothing to read again, the file is read, it is gone and the buffer is closed by its key or
cannot be, or it cannot be read, which is noted or ends it. -/
inductive Reverts (d : Disk) (b : Buffers) (path : String) : Except Fault Revert → Prop where
  | unresolved {f : Fault} (hkey : key d path = .error f) : Reverts d b path (.error f)
  | skipped {k : String} (hkey : key d path = .ok k) (hclean : ¬ b.IsClean k) :
      Reverts d b path (.ok { buffers := b, reverted := false })
  | read {k text : String} (hkey : key d path = .ok k) (hclean : b.IsClean k)
      (hread : d.readText (Path.ofText k) = .ok text) :
      Reverts d b path (.ok { buffers := b.withText k text, reverted := true })
  | closed {k j : String} {f : Fault} (hkey : key d path = .ok k) (hclean : b.IsClean k)
      (hread : d.readText (Path.ofText k) = .error f) (hgone : f.isNotFound = true)
      (hagain : key d k = .ok j) :
      Reverts d b path (.ok { buffers := b.drop j, reverted := true })
  | unclosed {k : String} {f g : Fault} (hkey : key d path = .ok k) (hclean : b.IsClean k)
      (hread : d.readText (Path.ofText k) = .error f) (hgone : f.isNotFound = true)
      (hagain : key d k = .error g) : Reverts d b path (.error g)
  | noted {k : String} {f : Fault} (hkey : key d path = .ok k) (hclean : b.IsClean k)
      (hread : d.readText (Path.ofText k) = .error f) (hthere : f.isNotFound = false)
      (hnoted : (f.isOs || f.isUndecodable) = true) :
      Reverts d b path (.ok { buffers := b, reverted := false, trouble? := some (k, f) })
  | unread {k : String} {f : Fault} (hkey : key d path = .ok k) (hclean : b.IsClean k)
      (hread : d.readText (Path.ofText k) = .error f)
      (hother : (f.isOs || f.isUndecodable) = false) : Reverts d b path (.error f)

theorem reverts_revert (d : Disk) (b : Buffers) (path : String) :
    Reverts d b path (revert d b path) := by
  unfold revert
  cases hkey : key d path with
  | error f => exact .unresolved hkey
  | ok k =>
      change Reverts d b path (if (!b.isOpen k || b.isMarked k) = true then _ else _)
      split
      · rename_i hskip
        refine .skipped hkey ?_
        rintro ⟨hopen, hunmarked⟩
        rw [hopen, hunmarked] at hskip
        cases hskip
      · rename_i hgoes
        have hclean : b.IsClean k := by simpa [IsClean] using hgoes
        cases hread : d.readText (Path.ofText k) with
        | ok text => exact .read hkey hclean hread
        | error f =>
            dsimp only
            split
            · rename_i hgone
              unfold closeFile
              cases hagain : key d k with
              | ok j => exact .closed hkey hclean hread hgone hagain
              | error g => exact .unclosed hkey hclean hread hgone hagain
            · rename_i hthere
              split
              · rename_i hnoted
                exact .noted hkey hclean hread (Bool.not_eq_true _ ▸ hthere) hnoted
              · rename_i hother
                exact .unread hkey hclean hread (Bool.not_eq_true _ ▸ hother)

theorem Unsaved.not_isClean (h : b.Unsaved k t) : ¬ b.IsClean k := by
  rintro ⟨_, hunmarked⟩
  rw [h.marked] at hunmarked
  cases hunmarked

theorem Unsaved.revert {path : String} {r : Revert} (h : b.Unsaved k t)
    (hrevert : revert d b path = .ok r) : r.buffers.Unsaved k t ∨ Astray d k := by
  have hreverts := reverts_revert d b path
  rw [hrevert] at hreverts
  cases hreverts with
  | skipped hkey hclean => exact Or.inl h
  | noted hkey hclean hread hthere hnoted => exact Or.inl h
  | @read j text hkey hclean hread =>
      refine Or.inl (h.withText ?_ text)
      rintro rfl
      exact h.not_isClean hclean
  | @closed j i f hkey hclean hread hgone hagain =>
      -- The buffer is closed by its key, which is resolved again.
      by_cases hi : k = i
      · right
        refine ⟨path, j, hkey, hi ▸ hagain, ?_⟩
        rintro rfl
        exact h.not_isClean hclean
      · exact Or.inl (h.drop hi)

inductive Reread (d : Disk) (b : Buffers) : Buffers → Prop where
  | refl : Reread d b b
  | revert {b' : Buffers} {path : String} {r : Revert} (h : Reread d b b')
      (hrevert : Buffers.revert d b' path = .ok r) : Reread d b r.buffers

theorem Unsaved.reread (h : b.Unsaved k t) (hreread : Reread d b b') :
    b'.Unsaved k t ∨ Astray d k := by
  induction hreread with
  | refl => exact Or.inl h
  | revert _ hrevert ih =>
      rcases ih with hkept | hastray
      · exact hkept.revert hrevert
      · exact Or.inr hastray

theorem Reread.trans {b'' : Buffers} (h : Reread d b b') (h' : Reread d b' b'') :
    Reread d b b'' := by
  induction h' with
  | refl => exact h
  | revert _ hrevert ih => exact ih.revert hrevert

end Buffers
end EngineClient
