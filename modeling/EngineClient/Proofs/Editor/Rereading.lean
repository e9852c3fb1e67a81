import EngineClient.Proofs.Editor.Keys
import EngineClient.Proofs.Editor.Renaming

/-!
# What following the files does to buffers

A turn touches only the buffers that it tries. Each of them ends with the text of its file, or
closed because there is no file, or as it was, and what reading the file comes to decides which.
Buffers are named by their keys here, which resolve to themselves. Main statements:
`follows_named` for the turn after a command about one file, `follows_all` for a turn over all
buffers.
-/

namespace EngineClient
namespace Buffers

variable {d : Disk} {b b' b'' : Buffers} {k j path text : String}

/-!
## What a turn leaves alone
-/

def closes (b b' : Buffers) (k : String) : Bool :=
  b.isOpen k && !b'.isOpen k

/-- Buffers under other keys than the given ones keep their texts. No mark changes, no buffer is
opened or moved, and the current file is given up only with its buffer. -/
structure OnlyTouches (ks : List String) (b b' : Buffers) : Prop where
  beside : forall j, j ∉ ks -> b'.get? j = b.get? j
  marks : b'.modified = b.modified
  order : b'.keys.Sublist b.keys
  current : b'.current? = b.current?.filter fun c => !b.closes b' c

theorem closes_eq_false (h : b'.isOpen k = b.isOpen k) : b.closes b' k = false := by
  rw [closes, h]
  cases b.isOpen k <;> rfl

theorem filter_of_closes_eq_false (h : forall c, b.closes b' c = false) (current? : Option String) :
    (current?.filter fun c => !b.closes b' c) = current? := by
  cases current? with
  | none => rfl
  | some c => simp [h c]

theorem onlyTouches_self (ks : List String) (b : Buffers) : OnlyTouches ks b b where
  beside _ _ := rfl
  marks := rfl
  order := .refl _
  current := (filter_of_closes_eq_false (fun _ => closes_eq_false rfl) _).symm

theorem OnlyTouches.isOpen {ks : List String} (h : OnlyTouches ks b b')
    (hopen : b'.isOpen k = true) : b.isOpen k = true := by
  rw [isOpen_iff_mem] at hopen ⊢
  exact h.order.subset hopen

theorem OnlyTouches.closes_trans {ks js : List String} (h : OnlyTouches ks b b')
    (h' : OnlyTouches js b' b'') (c : String) :
    b.closes b'' c = (b.closes b' c || b'.closes b'' c) := by
  have hopen := h.isOpen (k := c)
  have hopen' := h'.isOpen (k := c)
  unfold closes
  cases hb'' : b''.isOpen c with
  | true =>
      rw [hopen' hb'']
      simp
  | false =>
      cases hb' : b'.isOpen c with
      | true => simp [hopen hb']
      | false => simp

theorem OnlyTouches.trans {ks js : List String} (h : OnlyTouches ks b b')
    (h' : OnlyTouches js b' b'') : OnlyTouches (ks ++ js) b b'' where
  beside j hj := by
    rw [List.mem_append, not_or] at hj
    exact (h'.beside j hj.2).trans (h.beside j hj.1)
  marks := h'.marks.trans h.marks
  order := h'.order.trans h.order
  current := by
    rw [h'.current, h.current, Option.filter_filter]
    congr 1
    funext c
    rw [h.closes_trans h' c, Bool.not_or]

theorem onlyTouches_withText (hopen : b.isOpen k = true) (text : String) :
    OnlyTouches [k] b (b.withText k text) := by
  have hk := (isOpen_iff_mem b k).mp hopen
  have hkeys : (b.withText k text).keys = b.keys := by
    rw [keys_withText, if_pos hk]
  have hcloses : forall c, b.closes (b.withText k text) c = false := by
    intro c
    refine closes_eq_false ?_
    rw [Bool.eq_iff_iff, isOpen_iff_mem, isOpen_iff_mem, hkeys]
  refine ⟨?_, rfl, hkeys ▸ .refl _, (filter_of_closes_eq_false hcloses _).symm⟩
  intro j hj
  exact (agreesBeside_withText b k text j (List.ne_of_not_mem_cons hj)).1

theorem onlyTouches_drop (hclean : b.IsClean k) : OnlyTouches [k] b (b.drop k) := by
  have hcloses : forall c, b.closes (b.drop k) c = decide (c = k) := by
    intro c
    by_cases hc : c = k
    · rw [hc, closes, hclean.1, isOpen, get?_drop_self]
      simp
    · have hopen : (b.drop k).isOpen c = b.isOpen c := by
        rw [isOpen, isOpen, get?_drop_of_ne b hc]
      simp [hc, closes_eq_false hopen]
  refine ⟨?_, ?_, ?_, ?_⟩
  · intro j hj
    exact get?_drop_of_ne b (List.ne_of_not_mem_cons hj)
  · have hunmarked : k ∉ b.modified := by simpa [isMarked] using hclean.2
    refine List.filter_eq_self.mpr fun j hj => ?_
    have hne : j ≠ k := by
      rintro rfl
      exact hunmarked hj
    simpa using hne
  · rw [keys_drop]
    exact List.filter_sublist
  · simp only [hcloses]
    unfold drop
    cases b.current? with
    | none => rfl
    | some c =>
        by_cases hc : c = k
        · simp [hc, Option.filter_some]
        · simp [hc, Option.filter_some]

/-!
## How a buffer fares
-/

/-- What became of the buffer under a key that was tried, and whether it counts as read again: it
was not open or had something unsaved, it holds the text of its file, it was closed because there
is no file, or its file could not be read. -/
inductive Fares (d : Disk) (b b' : Buffers) (k : String) : Bool → Prop where
  | skipped (hclean : ¬ b.IsClean k) (hkept : b'.get? k = b.get? k) : Fares d b b' k false
  | read {text : String} (hclean : b.IsClean k) (hread : d.readText (Path.ofText k) = .ok text)
      (htext : b'.get? k = some text) : Fares d b b' k true
  | closed {f : Fault} (hclean : b.IsClean k) (hread : d.readText (Path.ofText k) = .error f)
      (hgone : f.isNotFound = true) (hclosed : b'.get? k = none) : Fares d b b' k true
  | unread {f : Fault} (hclean : b.IsClean k) (hread : d.readText (Path.ofText k) = .error f)
      (hthere : f.isNotFound = false) (hnoted : (f.isOs || f.isUndecodable) = true)
      (hkept : b'.get? k = b.get? k) : Fares d b b' k false

theorem isClean_congr (htext : b'.get? k = b.get? k) (hmarks : b'.modified = b.modified) :
    b'.IsClean k ↔ b.IsClean k := by
  rw [IsClean, IsClean, isOpen, isOpen, isMarked, isMarked, htext, hmarks]

theorem Fares.of_start {reverted : Bool} (h : Fares d b' b'' k reverted)
    (htext : b'.get? k = b.get? k) (hmarks : b'.modified = b.modified) :
    Fares d b b'' k reverted := by
  have hsame := isClean_congr htext hmarks
  cases h with
  | skipped hclean hkept => exact .skipped (mt hsame.mpr hclean) (hkept.trans htext)
  | read hclean hread hshown => exact .read (hsame.mp hclean) hread hshown
  | closed hclean hread hgone hclosed => exact .closed (hsame.mp hclean) hread hgone hclosed
  | unread hclean hread hthere hnoted hkept =>
      exact .unread (hsame.mp hclean) hread hthere hnoted (hkept.trans htext)

theorem Fares.of_end {reverted : Bool} (h : Fares d b b' k reverted)
    (htext : b''.get? k = b'.get? k) : Fares d b b'' k reverted := by
  cases h with
  | skipped hclean hkept => exact .skipped hclean (htext.trans hkept)
  | read hclean hread hshown => exact .read hclean hread (htext.trans hshown)
  | closed hclean hread hgone hclosed => exact .closed hclean hread hgone (htext.trans hclosed)
  | unread hclean hread hthere hnoted hkept =>
      exact .unread hclean hread hthere hnoted (htext.trans hkept)

theorem buffers_of_unreverted {r : Revert} (hrevert : revert d b path = .ok r)
    (hreverted : r.reverted = false) : r.buffers = b := by
  have hreverts := reverts_revert d b path
  rw [hrevert] at hreverts
  cases hreverts with
  | skipped hkey hclean => rfl
  | noted hkey hclean hread hthere hnoted => rfl
  | read hkey hclean hread => cases hreverted
  | closed hkey hclean hread hgone hagain => cases hreverted

theorem Fares.reads {was : Bool} (h : Fares d b b' k was) (hclean : b.IsClean k)
    (hread : d.readText (Path.ofText k) = .ok text) : b'.get? k = some text ∧ was = true := by
  cases h with
  | skipped hnot hkept => exact absurd hclean hnot
  | read _ hread' htext =>
      cases hread.symm.trans hread'
      exact ⟨htext, rfl⟩
  | closed _ hread' _ _ => cases hread.symm.trans hread'
  | unread _ hread' _ _ _ => cases hread.symm.trans hread'

theorem Fares.vanishes {was : Bool} {f : Fault} (h : Fares d b b' k was) (hclean : b.IsClean k)
    (hread : d.readText (Path.ofText k) = .error f) (hgone : f.isNotFound = true) :
    b'.get? k = none ∧ was = true := by
  cases h with
  | skipped hnot hkept => exact absurd hclean hnot
  | read _ hread' _ => cases hread.symm.trans hread'
  | closed _ _ _ hclosed => exact ⟨hclosed, rfl⟩
  | unread _ hread' hthere _ _ =>
      cases hread.symm.trans hread'
      rw [hgone] at hthere
      cases hthere

structure Treats (d : Disk) (b : Buffers) (k : String) (r : Revert) : Prop where
  touches : OnlyTouches [k] b r.buffers
  fares : Fares d b r.buffers k r.reverted

theorem exists_revert (hkey : key d path = .ok k) (hfixed : b.isOpen k = true -> key d k = .ok k) :
    exists r, revert d b path = .ok r ∧ Treats d b k r := by
  have hreverts := reverts_revert d b path
  generalize revert d b path = r at hreverts
  cases hreverts with
  | unresolved hlost =>
      rw [hkey] at hlost
      cases hlost
  | skipped hk hclean =>
      cases hkey.symm.trans hk
      exact ⟨_, rfl, onlyTouches_self _ _, .skipped hclean rfl⟩
  | read hk hclean hread =>
      cases hkey.symm.trans hk
      exact ⟨_, rfl, onlyTouches_withText hclean.1 _, .read hclean hread (get?_setText_self ..)⟩
  -- A buffer is closed under the key of its key.
  | closed hk hclean hread hgone hagain =>
      cases hkey.symm.trans hk
      cases (hfixed hclean.1).symm.trans hagain
      exact ⟨_, rfl, onlyTouches_drop hclean, .closed hclean hread hgone (get?_drop_self ..)⟩
  | unclosed hk hclean hread hgone hagain =>
      cases hkey.symm.trans hk
      rw [hfixed hclean.1] at hagain
      cases hagain
  | noted hk hclean hread hthere hnoted =>
      cases hkey.symm.trans hk
      exact ⟨_, rfl, onlyTouches_self _ _, .unread hclean hread hthere hnoted rfl⟩
  | unread hk hclean hread hother =>
      rw [foreseen_of_readText_key hk hread] at hother
      cases hother

/-!
## Rounds
-/

/-- Paths are tried in order, each of them once and in the buffers that the ones before it left;
the paths that were read again, in that order. -/
inductive Round (d : Disk) : Buffers → List String → Buffers → List String → Prop where
  | done (b : Buffers) : Round d b [] b []
  | tried {b b' : Buffers} {path : String} {paths reverted : List String} {r : Revert}
      (hrevert : revert d b path = .ok r) (hrest : Round d r.buffers paths b' reverted) :
      Round d b (path :: paths) b' (if r.reverted then path :: reverted else reverted)

variable {ks reverted : List String}

theorem exists_round (hkeys : forall k, k ∈ ks -> key d k = .ok k) (b : Buffers) :
    exists b' reverted, Round d b ks b' reverted := by
  induction ks generalizing b with
  | nil => exact ⟨b, [], .done b⟩
  | cons k ks ih =>
      have hk := hkeys k List.mem_cons_self
      rcases exists_revert (b := b) hk fun _ => hk with ⟨r, hrevert, _⟩
      rcases ih (fun j hj => hkeys j (List.mem_cons_of_mem _ hj)) r.buffers with
        ⟨b', reverted, hrest⟩
      exact ⟨b', _, .tried hrevert hrest⟩

structure Treated (d : Disk) (b : Buffers) (ks : List String) (b' : Buffers)
    (reverted : List String) : Prop where
  touches : OnlyTouches ks b b'
  listed : reverted.Sublist ks
  fares : forall k, k ∈ ks -> Fares d b b' k (decide (k ∈ reverted))

theorem Treated.cons {r : Revert} (hk : k ∉ ks) (hfirst : Treats d b k r)
    (h : Treated d r.buffers ks b' reverted) :
    Treated d b (k :: ks) b' (if r.reverted then k :: reverted else reverted) where
  touches := hfirst.touches.trans h.touches
  listed := by
    cases r.reverted with
    | true => exact h.listed.cons_cons k
    | false => exact h.listed.cons k
  fares j hj := by
    have hnot : k ∉ reverted := fun hmem => hk (h.listed.subset hmem)
    rcases List.mem_cons.mp hj with rfl | hrest
    -- The rest of the round does not come back to the first key, and the first turn did not touch
    -- the other ones: each key fares as in its own turn.
    · have hfares := hfirst.fares.of_end (h.touches.beside j hk)
      cases hreverted : r.reverted with
      | true => simpa [hreverted] using hfares
      | false => simpa [hreverted, hnot] using hfares
    · have hne : j ≠ k := by
        rintro rfl
        exact hk hrest
      have hbeside := hfirst.touches.beside j (by simpa using hne)
      have hfares := (h.fares j hrest).of_start hbeside hfirst.touches.marks
      cases r.reverted with
      | true => simpa [hne] using hfares
      | false => exact hfares

theorem treated_of_round (hnodup : ks.Nodup) (hkeys : forall k, k ∈ ks -> key d k = .ok k)
    (h : Round d b ks b' reverted) : Treated d b ks b' reverted := by
  induction h with
  | done b => exact ⟨onlyTouches_self _ _, .refl _, fun k hk => absurd hk List.not_mem_nil⟩
  | tried hrevert _ ih =>
      rw [List.nodup_cons] at hnodup
      have hk := hkeys _ List.mem_cons_self
      rcases exists_revert hk fun _ => hk with ⟨r, hr, htreats⟩
      cases hrevert.symm.trans hr
      exact .cons hnodup.1 htreats
        (ih hnodup.2 fun j hj => hkeys j (List.mem_cons_of_mem _ hj))

/-!
## A second round
-/

theorem setText_of_lookup {es : List (String × String)} (h : es.lookup k = some text) :
    setText k text es = es := by
  induction es with
  | nil => cases h
  | cons e es ih =>
      rcases e with ⟨i, old⟩
      by_cases hi : i = k
      · rw [hi, List.lookup_cons_self] at h
        cases h
        simp [setText, hi]
      · have hne : (k == i) = false := by simpa using Ne.symm hi
        rw [List.lookup_cons, hne] at h
        rw [setText, if_neg hi, ih h]

theorem withText_of_get? (h : b.get? k = some text) : b.withText k text = b := by
  rw [withText, setText_of_lookup h]

def IsFresh (d : Disk) (b : Buffers) (k : String) : Prop :=
  b.IsClean k ->
    (exists text, d.readText (Path.ofText k) = .ok text ∧ b.get? k = some text) ∨
      exists f, d.readText (Path.ofText k) = .error f ∧ f.isNotFound = false

theorem Fares.isFresh {was : Bool} (h : Fares d b b' k was) (hmarks : b'.modified = b.modified)
    (hopen : k ∈ b'.keys) : IsFresh d b' k := by
  intro hclean
  cases h with
  | skipped hnot hkept => exact absurd ((isClean_congr hkept hmarks).mp hclean) hnot
  | read _ hread htext => exact Or.inl ⟨_, hread, htext⟩
  | closed _ _ _ hclosed =>
      rw [← isOpen_iff_mem, isOpen, hclosed] at hopen
      cases hopen
  | unread _ hread hthere _ _ => exact Or.inr ⟨_, hread, hthere⟩

theorem IsFresh.revert_eq (h : IsFresh d b k) (hkey : key d k = .ok k) :
    exists r, revert d b k = .ok r ∧ r.buffers = b := by
  have hreverts := reverts_revert d b k
  rcases exists_revert (b := b) hkey fun _ => hkey with ⟨r, hrevert, _⟩
  refine ⟨r, hrevert, ?_⟩
  rw [hrevert] at hreverts
  cases hreverts with
  | skipped hk hclean => rfl
  | noted hk hclean hread hthere hnoted => rfl
  | read hk hclean hread =>
      cases hkey.symm.trans hk
      rcases h hclean with ⟨text, hread', htext⟩ | ⟨f, hread', _⟩
      · cases hread.symm.trans hread'
        exact withText_of_get? htext
      · cases hread.symm.trans hread'
  | closed hk hclean hread hgone hagain =>
      cases hkey.symm.trans hk
      rcases h hclean with ⟨text, hread', _⟩ | ⟨f, hread', hthere⟩
      · cases hread.symm.trans hread'
      · cases hread.symm.trans hread'
        rw [hgone] at hthere
        cases hthere

theorem exists_round_of_isFresh (hfresh : forall k, k ∈ ks -> IsFresh d b k)
    (hkeys : forall k, k ∈ ks -> key d k = .ok k) : exists again, Round d b ks b again := by
  induction ks with
  | nil => exact ⟨[], .done b⟩
  | cons k ks ih =>
      rcases (hfresh k List.mem_cons_self).revert_eq (hkeys k List.mem_cons_self) with
        ⟨r, hrevert, hr⟩
      rcases ih (fun j hj => hfresh j (List.mem_cons_of_mem _ hj))
        (fun j hj => hkeys j (List.mem_cons_of_mem _ hj)) with ⟨again, hrest⟩
      have hstart : Round d r.buffers ks b again := by
        rw [hr]
        exact hrest
      exact ⟨_, .tried hrevert hstart⟩

theorem Treated.exists_round (h : Treated d b b.keys b' reverted)
    (hkeys : forall k, k ∈ b.keys -> key d k = .ok k) :
    exists again, Round d b' b'.keys b' again := by
  have hopen : forall k, k ∈ b'.keys -> k ∈ b.keys := fun k hk => h.touches.order.subset hk
  refine exists_round_of_isFresh ?_ fun k hk => hkeys k (hopen k hk)
  intro k hk
  exact (h.fares k (hopen k hk)).isFresh h.touches.marks hk

end Buffers

namespace Editor

open Act

/-!
## Turns of the editor
-/

theorem revertEach_of_round {d : Disk} {b b' : Buffers} {paths reverted : List String}
    (h : Buffers.Round d b paths b' reverted) {w : World} (hw : w.desk = (d, some b)) :
    exists w', BufferHost.revertEach revert paths w = .ok reverted w' ∧ w'.desk = (d, some b') := by
  induction h generalizing w with
  | done b => exact ⟨w, rfl, hw⟩
  | @tried b b' path paths reverted r hrevert _ ih =>
      have hdisk : w.disk = d := congrArg Prod.fst hw
      have hrun := leaves_revert (congrArg Prod.snd hw) path
      rw [hdisk, hrevert] at hrun
      rcases hrun with ⟨w₁, hrun, hdesk⟩
      rcases ih hdesk with ⟨w₂, hrest, hdesk'⟩
      refine ⟨w₂, ?_, hdesk'⟩
      unfold BufferHost.revertEach
      rw [bind_run_of_ok hrun, bind_run_of_ok hrest]
      rfl

theorem maybeSync_of_round {w : World} {b b' : Buffers} {reverted : List String}
    (hb : w.client.editor? = some b) (hfollows : w.client.follows = true)
    (targets? : Option (List String))
    (h : Buffers.Round w.disk b (targets?.getD b.keys) b' reverted) :
    exists w', maybeSync targets? w = .ok reverted w' ∧ w'.desk = (w.disk, some b') := by
  have hdesk : (begun targets? w).desk = (w.disk, some b) := by
    show (w.disk, w.client.editor?) = _
    rw [hb]
  rcases revertEach_of_round h hdesk with ⟨w₁, heach, hdesk'⟩
  rw [maybeSync_run hb hfollows, bind_run_of_ok heach]
  refine ⟨_, rfl, ?_⟩
  exact hdesk'

theorem desk_of_unreverted {w w' : World} {path : String} (hb : w.client.editor?.isSome = true)
    (h : revert path w = .ok false w') : w'.desk = w.desk := by
  rcases Option.isSome_iff_exists.mp hb with ⟨b, hb⟩
  have hrun := leaves_revert hb path
  cases hrevert : Buffers.revert w.disk b path with
  | error f =>
      rw [hrevert] at hrun
      cases hrun.symm.trans h
  | ok r =>
      rw [hrevert] at hrun
      rcases hrun with ⟨w₁, hrun, hdesk⟩
      rw [hrun] at h
      injection h with hreverted hworld
      rw [← hworld, hdesk, Buffers.buffers_of_unreverted hrevert hreverted, World.desk, hb]

/-- A turn over all buffers of an editor that follows the files, the keys of which resolve to
themselves: each is tried once, in the order in which they were opened. Afterwards each fares as
its file has it, what was not tried is as it was, and the buffers that were read again are given in
that order. A second turn changes nothing while the files stay as they are. -/
theorem follows_all {w : World} {b : Buffers} (hb : w.client.editor? = some b)
    (hfollows : w.client.follows = true) (hdistinct : b.keys.Nodup)
    (hkeys : forall k, k ∈ b.keys -> Buffers.key w.disk k = .ok k) :
    exists reverted b' w',
      maybeSync none w = .ok reverted w' ∧ w'.desk = (w.disk, some b') ∧
        Buffers.Round w.disk b b.keys b' reverted ∧
        Buffers.Treated w.disk b b.keys b' reverted ∧
        forall v, v.desk = w'.desk ->
          exists again v', maybeSync none v = .ok again v' ∧ v'.desk = v.desk := by
  rcases Buffers.exists_round hkeys b with ⟨b', reverted, hround⟩
  have htreated := Buffers.treated_of_round hdistinct hkeys hround
  rcases maybeSync_of_round hb hfollows none hround with ⟨w', hrun, hdesk⟩
  refine ⟨reverted, b', w', hrun, hdesk, hround, htreated, ?_⟩
  intro v hv
  rw [hdesk] at hv
  have hdisk : v.disk = w.disk := congrArg Prod.fst hv
  have heditor : v.client.editor? = some b' := congrArg Prod.snd hv
  cases hagain : v.client.follows with
  | false =>
      rcases maybeSync_of_idle hagain none with ⟨v', hdesk', again, hrun'⟩
      exact ⟨again, v', hrun', hdesk'⟩
  | true =>
      rcases htreated.exists_round hkeys with ⟨again, hsecond⟩
      rw [← hdisk] at hsecond
      rcases maybeSync_of_round heditor hagain none hsecond with ⟨v', hrun', hdesk'⟩
      refine ⟨again, v', hrun', ?_⟩
      rw [hdesk', World.desk, heditor]

def staleBuffers : Buffers :=
  { texts := [("/a.py", "old"), ("/b.py", "gone")], current? := some "/b.py" }

def staleFirst : World :=
  (Operations.openedFirst .rewritten true).showing staleBuffers

theorem follows_all_staleFirst :
    exists reverted b' w', maybeSync none staleFirst = .ok reverted w' ∧
      w'.desk = (Disk.rewritten, some b') ∧ "/a.py" ∈ reverted ∧ "/b.py" ∈ reverted ∧
      b'.get? "/a.py" = some "new" ∧ b'.get? "/b.py" = none ∧ b'.current? = none := by
  have hkeys : forall k, k ∈ staleBuffers.keys -> Buffers.key Disk.rewritten k = .ok k := by
    intro k hk
    rcases List.mem_pair.mp hk with rfl | rfl
    · exact Buffers.key_a rfl
    · exact Buffers.key_b rfl
  rcases follows_all (w := staleFirst) rfl rfl (by decide) hkeys with
    ⟨reverted, b', w', hrun, hdesk, _, htreated, _⟩
  have ha := (htreated.fares "/a.py" List.mem_cons_self).reads ⟨rfl, rfl⟩ Buffers.readText_a
  have hb := (htreated.fares "/b.py" (List.mem_cons_of_mem _ List.mem_cons_self)).vanishes
    ⟨rfl, rfl⟩ Buffers.readText_missing rfl
  have hcurrent := htreated.touches.current
  refine ⟨reverted, b', w', hrun, hdesk, ?_, ?_, ha.1, hb.1, ?_⟩
  · simpa using ha.2
  · simpa using hb.2
  · have hcloses : staleBuffers.closes b' "/b.py" = true := by
      rw [Buffers.closes, Buffers.isOpen, Buffers.isOpen, hb.1]
      rfl
    rw [hcurrent]
    simp [staleBuffers] at hcloses ⊢
    exact hcloses

end Editor

namespace Dispatch

open Act

/-!
## The turn after a command about one file
-/

theorem exists_target {c : Command} {args : List Value}
    (hc : c = .rename ∨ c = .extractMethod ∨ c = .extractVariable)
    (hcheck : c.check args = .ok ()) (s : Session) :
    exists path, args[1]? = some (.text path) ∧
      targets? c s args = some [(s.directory / Path.ofText path).text] := by
  have hparam : 2 ≤ c.minArity ∧ c.targetParam? = some 1 ∧
      exists p, c.params[1]? = some p ∧ p.kind = .text := by
    rcases hc with rfl | rfl | rfl
    · exact ⟨by decide, rfl, _, rfl, rfl⟩
    · exact ⟨by decide, rfl, _, rfl, rfl⟩
    · exact ⟨by decide, rfl, _, rfl, rfl⟩
  rcases hparam with ⟨hmin, htarget, p, hp, hkind⟩
  rcases (c.check_eq_ok_iff args).mp hcheck with ⟨hlength, _, haccepts⟩
  have hlong : 1 < args.length := Nat.lt_of_lt_of_le hmin hlength
  have hv : args[1]? = some args[1] := List.getElem?_eq_getElem hlong
  have hfits := haccepts (p, args[1])
    (List.mem_of_getElem? (List.getElem?_zip_eq_some.mpr ⟨hp, hv⟩))
  have htext : exists path, args[1] = .text path := by
    rw [hkind] at hfits
    cases hcase : args[1] with
    | text path => exact ⟨path, rfl⟩
    | _ =>
        rw [hcase] at hfits
        cases hfits
  rcases htext with ⟨path, htext⟩
  rw [htext] at hv
  refine ⟨path, hv, ?_⟩
  rw [targets?, Command.primaryTarget?, htarget, Option.bind_some, hv]
  rfl

/-- The answer to a command about one file arrived, and buffers follow the files, the keys of
which resolve to themselves. The command gives the answer, and of all buffers only the one under
the key of the file can have changed, however the path was spelled: it fares as its file has it.
The turn gives the path exactly if that buffer was read again or closed. And no path that is not
read again changes anything. -/
theorem follows_named {c : Command} {args : List Value} {n : Nat} {s : Session}
    {w w₁ w₂ : World} {v : Value} {b : Buffers}
    (hc : c = .rename ∨ c = .extractMethod ∨ c = .extractVariable) (hsent : Sent w c args n s w₁)
    (hcall : Transport.call s c.name args w₁ = .ok v w₂)
    (hfollows : w₂.client.follows = true) (hb : w₂.client.editor? = some b)
    (hkeys : forall k, k ∈ b.keys -> Buffers.key w₂.disk k = .ok k) :
    (exists path, args[1]? = some (.text path) ∧
      forall k, Buffers.key w₂.disk (s.directory / Path.ofText path).text = .ok k ->
        exists reverted b' w₃ w',
          Editor.maybeSync (some [(s.directory / Path.ofText path).text])
              ((mapSession n fun s => { s with generation := s.generation + 1 }).after w₂) =
            .ok (if reverted then [(s.directory / Path.ofText path).text] else []) w₃ ∧
          w₃.desk = (w₂.disk, some b') ∧
          c.send args w = .ok v w' ∧ w'.desk = (w₂.disk, some b') ∧
          Buffers.OnlyTouches [k] b b' ∧ Buffers.Fares w₂.disk b b' k reverted ∧
          (reverted = false -> b' = b)) ∧
      forall path u u', u.client.editor?.isSome = true -> Editor.revert path u = .ok false u' ->
        u'.desk = u.desk := by
  refine ⟨?_, fun path u u' => Editor.desk_of_unreverted⟩
  rcases exists_target hc hsent.check s with ⟨path, harg, htarget⟩
  refine ⟨path, harg, ?_⟩
  intro k hkey
  have hfixed : b.isOpen k = true -> Buffers.key w₂.disk k = .ok k :=
    fun hopen => hkeys k ((Buffers.isOpen_iff_mem b k).mp hopen)
  rcases Buffers.exists_revert hkey hfixed with ⟨r, hrevert, htreats⟩
  have hmutating : c.mutating = true := by
    rcases hc with rfl | rfl | rfl <;> rfl
  let counted := (mapSession n fun s => { s with generation := s.generation + 1 }).after w₂
  rcases Editor.maybeSync_of_round (w := counted) hb hfollows
    (some [(s.directory / Path.ofText path).text]) (.tried hrevert (.done _)) with
    ⟨w₃, hsync, hdesk⟩
  have hturn : Editor.Leaves (Editor.maybeSync (targets? c s args)) counted
      (w₂.disk, some r.buffers) none := by
    rw [htarget]
    exact ⟨w₃, hdesk, _, hsync⟩
  rcases leaves_send hcall hmutating hturn with ⟨w', hdesk', hrun⟩
  exact ⟨r.reverted, r.buffers, w₃, w', hsync, hdesk, hsent.issued.trans hrun, hdesk',
    htreats.touches, htreats.fares, Buffers.buffers_of_unreverted hrevert⟩

theorem follows_named_renamed :
    exists w' b', Command.rename.send [.text "b", .text "/a.py"]
        (Operations.openedFirst .rewritten true) = .ok .null w' ∧
      w'.desk = (Disk.rewritten, some b') ∧ b'.get? "/a.py" = some "new" := by
  have hkey : Buffers.key Disk.rewritten "/a.py" = .ok "/a.py" := Buffers.key_a rfl
  have hkeys : forall k, k ∈ Operations.oldBuffers.keys -> Buffers.key Disk.rewritten k = .ok k := by
    intro k hk
    rw [List.mem_singleton.mp hk]
    exact hkey
  have htext : ((⟨.single, []⟩ : Path) / Path.ofText "/a.py").text = "/a.py" := rfl
  rcases Operations.sent_openedFirst .rewritten true "b" with
    ⟨s, w₁, w₂, hsent, hs, hcall, hdisk, hfollows, hb⟩
  rw [← hdisk] at hkeys hkey
  rcases follows_named (Or.inl rfl) hsent hcall hfollows hb hkeys with ⟨⟨path, harg, hturn⟩, _⟩
  cases harg
  rw [hs, htext] at hturn
  rcases hturn "/a.py" hkey with ⟨_, b', _, w', _, _, hrun, hdesk, _, hfares, _⟩
  rw [hdisk] at hdesk hfares
  exact ⟨w', b', hrun, hdesk, (hfares.reads ⟨rfl, rfl⟩ Buffers.readText_a).1⟩

end Dispatch
end EngineClient
