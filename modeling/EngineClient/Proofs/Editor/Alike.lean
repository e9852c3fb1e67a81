import EngineClient.Proofs.Editor.Keys
import EngineClient.Proofs.Editor.Renaming

/-!
# Renames with and without following

A rename of the current file closes its buffer and shows the file at its new place, whether or
not buffers follow the files. If they do, the buffer was read again before, or closed because its
file is gone; then it is closed anyway. The two ways part only where closing it before reached
the buffer of another file: the key was resolved once more, and it came of a path that was cut
off. Main statement: `alike_unless_slipped`.
-/

namespace EngineClient
namespace Buffers

variable {d : Disk} {b b' : Buffers} {i j k text : String}

/-!
## Closing what was read again
-/

theorem filter_setText (k text : String) (es : List (String × String)) :
    (setText k text es).filter (·.1 != k) = es.filter (·.1 != k) := by
  induction es with
  | nil => simp [setText]
  | cons e es ih =>
      by_cases he : e.1 = k
      · simp [setText, he]
      · simp [setText, he, ih]

theorem drop_withText (b : Buffers) (k text : String) : (b.withText k text).drop k = b.drop k := by
  unfold drop withText
  dsimp only
  rw [filter_setText]

theorem drop_drop (b : Buffers) (k : String) : (b.drop k).drop k = b.drop k := by
  have hcurrent : (b.drop k).current? ≠ some k := by
    unfold drop
    dsimp only
    split
    · simp
    · assumption
  have htexts : (b.drop k).texts.filter (·.1 != k) = (b.drop k).texts := by
    simp [drop]
  have hmodified : (b.drop k).modified.filter (· != k) = (b.drop k).modified := by
    simp [drop]
  rw [drop, htexts, hmodified, if_neg hcurrent]

/-- Reading the file of a buffer again closes the buffer of another file: its own file is gone,
and its key has another key. -/
structure Slips (d : Disk) (b : Buffers) (k i : String) : Prop where
  clean : b.IsClean k
  gone : exists f, d.readText (Path.ofText k) = .error f ∧ f.isNotFound = true
  again : key d k = .ok i
  other : i ≠ k

/-- Reading a file again before its buffer is closed is nothing but a detour, unless it slips. -/
theorem drop_of_revert {path : String} {r : Revert} (hkey : key d path = .ok k)
    (h : revert d b path = .ok r) :
    ((forall i, ¬ Slips d b k i) -> r.buffers.drop k = b.drop k) ∧
      forall i, Slips d b k i -> r.buffers = b.drop i := by
  have hreverts := reverts_revert d b path
  rw [h] at hreverts
  cases hreverts with
  | skipped hkey' hclean =>
      rw [hkey] at hkey'
      cases hkey'
      exact ⟨fun _ => rfl, fun i hslips => absurd hslips.clean hclean⟩
  | read hkey' hclean hread =>
      rw [hkey] at hkey'
      cases hkey'
      refine ⟨fun _ => drop_withText b k _, ?_⟩
      rintro i ⟨_, ⟨f, hgone, _⟩, _, _⟩
      rw [hread] at hgone
      cases hgone
  | @closed j i f hkey' hclean hread hgone hagain =>
      rw [hkey] at hkey'
      cases hkey'
      constructor
      · intro hnone
        have hi : i = k := by
          by_contra hne
          exact hnone i ⟨hclean, ⟨f, hread, hgone⟩, hagain, hne⟩
        rw [hi]
        exact drop_drop b k
      · intro i' hslips
        have hagain' := hslips.again
        rw [hagain] at hagain'
        rw [Except.ok.inj hagain']
  | noted hkey' hclean hread hthere hnoted =>
      rw [hkey] at hkey'
      cases hkey'
      refine ⟨fun _ => rfl, ?_⟩
      rintro i ⟨_, ⟨f, hgone, hnotFound⟩, _, _⟩
      rw [hread] at hgone
      cases hgone
      rw [hthere] at hnotFound
      cases hnotFound

/-!
## Where it slips
-/

theorem size_of_notFound {p : Path} {f : Fault} (h : d.readText p = .error f)
    (hgone : f.isNotFound = true) : Text.Utf8.size p.text.toList < Disk.maxPathSize := by
  by_contra hlong
  rcases readText_of_long (d := d) (Nat.le_of_not_lt hlong) with ⟨g, hread, hthere⟩
  rw [hread] at h
  cases h
  rw [hthere] at hgone
  cases hgone

theorem Slips.isStray (hseated : d.IsSeated) {path : String} (hkey : key d path = .ok k)
    (h : Slips d b k i) : IsStray d k := by
  rcases key_eq_ok hkey with ⟨p, real, hexpand, hreal, hnul, rfl⟩
  by_cases hcut : d.CutOff p.text
  · exact ⟨path, p, real, hexpand, hcut, hreal, rfl⟩
  · rcases Disk.linkFree_of_realPath hseated hreal hcut with ⟨names, rfl, hplain, hfree⟩
    rcases h.gone with ⟨f, hread, hgone⟩
    have hsize := size_of_notFound hread hgone
    rw [Disk.ofText_text_of_plain hplain] at hsize
    have hagain := h.again
    rw [key_of_linkFree hplain (hfree hsize) hnul] at hagain
    exact absurd (Except.ok.inj hagain).symm h.other

theorem IsCanonical.below (h : IsCanonical d k) (p : Path) : (p / Path.ofText k).text = k := by
  rcases h.spelled with ⟨names, rfl, hplain, _⟩
  rw [Disk.ofText_text_of_plain hplain]
  exact congrArg Path.text (Path.join_of_isAbsolute rfl)

end Buffers

namespace Operations

open Act

/-!
## One rename
-/

/-- A rename of the current file went all its way: the request was answered, the buffer of the
old file is closed, and the file at the new place is shown as it is on the disk. -/
structure Turned (newName current : String) (w w' : World) (b b' : Buffers)
    (path k j text : String) : Prop where
  answered : Answered newName current w w' b b'
  place : ((Path.ofText current).renamed newName).map Path.text = .ok path
  old : Buffers.key w'.disk current = .ok k
  new : Buffers.key w'.disk path = .ok j
  reads : w'.disk.readText (Path.ofText j) = .ok text
  editor : w'.client.editor? = some ((b'.drop k).load j text)

theorem turned_of_ok {newName path : String} {w w' : World} {b : Buffers} (hapart : w.IsApart)
    (hb : w.client.editor? = some b) (h : renameCurrentFile newName w = .ok path w') :
    exists current b' k j text, Turned newName current w w' b b' path k j text := by
  have hrenamed := renamed_renameCurrentFile newName w
  rw [h] at hrenamed
  cases hrenamed with
  | @moved current k v p _ _ w₁ w' hcurrent hrename hplace hkey hb' hopen hdesk =>
      rcases answered_of_ok hapart hcurrent hrename with ⟨c, b', heditor, hanswered⟩
      have hsame := hanswered.editor
      rw [hb] at hsame
      cases hsame
      have hrequests := requests_after_renameCurrentFile hcurrent newName
      rw [after_of_ok h, after_of_ok hrename] at hrequests
      rw [heditor] at hb'
      cases hb'
      rcases Buffers.openFile_eq_ok hopen with ⟨j, text, hnew, hread, rfl⟩
      have hdisk : w'.disk = w₁.disk := congrArg Prod.fst hdesk
      rw [← hdisk] at hkey hnew hread
      exact ⟨current, b', k, j, text, hanswered.of_eq hdisk hrequests,
        congrArg (Except.map Path.text) hplace, hkey, hnew, hread, congrArg Prod.snd hdesk⟩

theorem Turned.followed {newName current path k j text : String} {w w' : World} {b b' : Buffers}
    (h : Turned newName current w w' b b' path k j text) {d : Disk}
    (hcanonical : Buffers.IsCanonical d current) :
    Buffers.followed w.client.follows w'.disk b current = .ok b' := by
  rcases h.answered.followed with ⟨_, s, _, _, _, _, _, _, hfollowed⟩
  rwa [hcanonical.below] at hfollowed

theorem Turned.unfollowed {newName current path k j text : String} {w w' : World}
    {b b' : Buffers} (h : Turned newName current w w' b b' path k j text)
    (hstays : w.client.follows = false) : b' = b := by
  rcases h.answered.followed with ⟨_, _, _, _, _, _, _, _, hfollowed⟩
  rw [hstays] at hfollowed
  exact (Except.ok.inj hfollowed).symm

theorem Turned.reverted {newName current path k j text : String} {w w' : World}
    {b b' : Buffers} (h : Turned newName current w w' b b' path k j text)
    (hfollows : w.client.follows = true) {d : Disk}
    (hcanonical : Buffers.IsCanonical d current) :
    exists r, Buffers.revert w'.disk b current = .ok r ∧ b' = r.buffers := by
  have hfollowed := h.followed hcanonical
  rw [hfollows, Buffers.followed, if_pos rfl] at hfollowed
  cases hrevert : Buffers.revert w'.disk b current with
  | error f =>
      rw [hrevert] at hfollowed
      cases hfollowed
  | ok r =>
      rw [hrevert] at hfollowed
      exact ⟨r, rfl, (Except.ok.inj hfollowed).symm⟩

end Operations

/-!
## Links that cross
-/

namespace Disk

open EngineClient.Path

def straight : Disk :=
  { bare with
    nodes := [(["a.py"], .file [97]), (["z.py"], .file [122]), (["b.py"], .file [116]),
      (["loop"], .link "loop")] }

def crossing : List DiskChange :=
  [.link "/a.py" "loop/../z.py", .link "/z.py" "c.py"]

/-- The disk after that. One of the links is cut off where it goes through the link to itself,
and the other leads to a file that is missing. -/
def crossed : Disk :=
  (straight.put ["a.py"] (.link "loop/../z.py")).put ["z.py"] (.link "c.py")

theorem isEntry_z : IsEntry "z.py" :=
  ⟨⟨rfl, by simp, by simp⟩, by decide, rfl⟩

theorem text_z : (⟨.single, ["z.py"]⟩ : Path).text = "/z.py" := rfl

theorem changeAll_crossing : straight.changeAll crossing = .ok crossed := by
  have ha := @change_link straight _ isEntry_a (by decide) "loop/../z.py"
  have hz := @change_link (straight.put ["a.py"] (.link "loop/../z.py")) _ isEntry_z
    (by decide) "c.py"
  rw [text_a] at ha
  rw [text_z] at hz
  rw [changeAll, crossing, List.foldlM_cons, ha]
  change [DiskChange.link "/z.py" "c.py"].foldlM change
    (straight.put ["a.py"] (.link "loop/../z.py")) = _
  rw [List.foldlM_cons, hz]
  rfl

def leftover : List Char :=
  joinText (joinText (joinText "/loop".toList []) (joinPieces [['.', '.'], "z.py".toList]))
    (joinPieces [])

theorem reach_crossed :
    crossed.reach "/a.py" =
      .ok ([(⟨.single, ["loop"]⟩, none), (⟨.single, ["a.py"]⟩, none)], .loop leftover) := by
  have hlink : crossed.linkAt? (below ⟨.single, []⟩ (String.ofList "a.py".toList)) =
      some "loop/../z.py" := rfl
  have hcut : Resolves crossed 979 [(⟨.single, ["a.py"]⟩, none)] ⟨.single, []⟩
      ["loop".toList, ['.', '.'], "z.py".toList] _ :=
    resolves_loop rfl rfl
  have hresolves : Resolves crossed maxDepth [] ⟨.single, []⟩ [[], "a.py".toList] _ :=
    .blank rfl (.cut (isEntry_a.isStep) hlink rfl hcut)
  exact hresolves.eq

theorem stat_crossed : crossed.stat ⟨.single, ["z.py"]⟩ = .error .missing := by
  rw [stat_link isEntry_z isEntry_c rfl rfl, stat_name isEntry_c rfl]
  rfl

end Disk

namespace Buffers

theorem key_crossed_a : key Disk.crossed "/a.py" = .ok "/z.py" := by
  have habsolute : Disk.crossed.absolutePath Disk.leftover = ⟨.single, ["z.py"]⟩ := rfl
  have hreal : Disk.crossed.realPath "/a.py" = .ok ⟨.single, ["z.py"]⟩ := by
    rw [Disk.realPath_eq, Disk.reach_crossed]
    exact congrArg Except.ok habsolute
  have hstat : Disk.crossed.stat ⟨.single, ["z.py"]⟩ ≠ .error .tooManyLinks := by
    rw [Disk.stat_crossed]
    simp
  exact @key_of_realPath _ ⟨.single, ["a.py"]⟩ _ (by decide) rfl hreal rfl hstat

theorem key_crossed_z : key Disk.crossed "/z.py" = .ok "/c.py" := by
  have hkey := @key_link .crossed _ _ Disk.isEntry_z Disk.isEntry_c rfl rfl
  rwa [Disk.text_z, Disk.text_c] at hkey

theorem readText_crossed : Disk.crossed.readText (Path.ofText "/z.py") =
    .error (.os (DiskProblem.missing.error "/z.py")) := by
  have hpath : Path.ofText "/z.py" = ⟨.single, ["z.py"]⟩ := rfl
  have hnul : Disk.hasNul (⟨.single, ["z.py"]⟩ : Path).text = false := rfl
  rw [hpath, Disk.readText, Disk.readOctets, hnul, Disk.stat_crossed]
  rfl

end Buffers

/-!
## An engine that crosses them
-/

namespace Transport

open Act

theorem performAll_changes {cs : List DiskChange} {w : World} {d : Disk}
    (h : w.disk.changeAll cs = .ok d) :
    performAll (cs.map .change) w = .ok () { w with disk := d } := by
  induction cs generalizing w with
  | nil =>
      cases h
      rfl
  | cons c cs ih =>
      rw [Disk.changeAll, List.foldlM_cons] at h
      cases hchange : w.disk.change c with
      | error f =>
          rw [hchange] at h
          cases h
      | ok d₁ =>
          rw [hchange] at h
          have hperform : perform (.change c) w = .ok () { w with disk := d₁ } := by
            rw [perform, bind_run_of_ok (disk_run w), hchange]
            rfl
          rw [List.map_cons, performAll, bind_run_of_ok hperform]
          exact ih h

theorem call_of_changes {s : Session} {method : String} {args : List Value} {w : World} {d : Disk}
    {cs : List DiskChange} {v : Value} {rest : List (String × List Reply)}
    (hdirect : w.surroundings.transport = .direct)
    (hreply : nextReply method w.surroundings.replies =
      ({ effects := cs.map .change, result := .ok v }, rest))
    (h : w.disk.changeAll cs = .ok d) :
    exists w', call s method args w = .ok v w' ∧ w'.disk = d ∧ w'.client = w.client := by
  let asked := (do noteRequest method args; note (.direct method args) : Act Unit).after w
  let answering := { asked with surroundings := { w.surroundings with replies := rest } }
  have hperform := performAll_changes (w := answering) h
  refine ⟨{ answering with disk := d }, ?_, rfl, rfl⟩
  have hcall : call s method args w = answer method asked := by
    unfold call
    rw [bind_run_of_ok (rfl : noteRequest method args w = .ok () _), bind_run_of_ok (get_run _)]
    simp only [hdirect]
    rfl
  have hanswer : answer method asked =
      (performAll (cs.map .change) >>= fun _ => Act.ofExcept (.ok v)) answering := by
    have hnext : nextReply method asked.surroundings.replies =
        ({ effects := cs.map .change, result := .ok v }, rest) := hreply
    unfold answer
    rw [bind_run_of_ok (get_run _), hnext]
    rfl
  rw [hcall, hanswer, bind_run_of_ok hperform]
  rfl

end Transport

namespace Operations

open Act

/-- The buffers of an editor that shows a file, with two more, one of which is edited. -/
def crossingBuffers : Buffers :=
  { texts := [("/c.py", "unsaved"), ("/z.py", "z"), ("/a.py", "a")]
    modified := ["/c.py"]
    current? := some "/a.py" }

/-- The first session with those buffers, the engine of which crosses links when it renames. -/
def crossingFirst (follows : Bool) : World :=
  { firstSession with
    disk := Disk.straight
    client := { firstSession.client with editor? := some crossingBuffers, follows := follows }
    surroundings :=
      { replies := [(Command.rename.name, [{ effects := Disk.crossing.map .change }])] } }

theorem isApart_crossingFirst (follows : Bool) : (crossingFirst follows).IsApart where
  engines := by
    have hreached : Reached (fun _ _ => True) [0] firstSession := reached_firstSession trivial
    exact hreached.isApart.engines
  surroundings := by
    refine ⟨fun plan hplan => absurd hplan List.not_mem_nil, by simp [crossingFirst], ?_⟩
    intro entry hentry r hr effect heffect
    rw [List.mem_singleton.mp hentry] at hr
    rw [List.mem_singleton.mp hr] at heffect
    rcases List.mem_map.mp heffect with ⟨c, _, rfl⟩
    trivial

theorem sent_crossingFirst (follows : Bool) :
    exists s w₁ w₂,
      Dispatch.Sent (crossingFirst follows) .rename [.text "b", .text "/a.py"] 0 s w₁ ∧
        s.directory = ⟨.single, []⟩ ∧
        Transport.call s Command.rename.name [.text "b", .text "/a.py"] w₁ = .ok .null w₂ ∧
        w₂.disk = Disk.crossed ∧ w₂.client = (crossingFirst follows).client := by
  have hsent : exists s w₁,
      Dispatch.Sent (crossingFirst follows) .rename [.text "b", .text "/a.py"] 0 s w₁ ∧
        s.directory = ⟨.single, []⟩ ∧ w₁.disk = (crossingFirst follows).disk ∧
        w₁.surroundings = (crossingFirst follows).surroundings ∧
        w₁.client = (crossingFirst follows).client :=
    ⟨_, _, ⟨rfl, _, rfl, rfl, rfl⟩, rfl, rfl, rfl, rfl⟩
  rcases hsent with ⟨s, w₁, hsent, hs, hdisk, hsurroundings, hclient⟩
  have hdirect : w₁.surroundings.transport = .direct := by
    rw [hsurroundings]
    rfl
  have hreply : Transport.nextReply Command.rename.name w₁.surroundings.replies =
      ({ effects := Disk.crossing.map .change, result := .ok .null },
        w₁.surroundings.replies) := by
    rw [hsurroundings]
    rfl
  have hchanges : w₁.disk.changeAll Disk.crossing = .ok Disk.crossed := by
    rw [hdisk]
    exact Disk.changeAll_crossing
  rcases Transport.call_of_changes (s := s) hdirect hreply hchanges with
    ⟨w₂, hcall, hdisk₂, hclient₂⟩
  exact ⟨s, w₁, w₂, hsent, hs, hcall, hdisk₂, hclient₂.trans hclient⟩

theorem renameCurrentFile_crossing {follows : Bool} {b : Buffers}
    (h : Buffers.followed follows .crossed crossingBuffers "/a.py" = .ok b) :
    exists w', renameCurrentFile "b" (crossingFirst follows) = .ok "/b.py" w' ∧
      w'.desk = (Disk.crossed, some ((b.drop "/z.py").load "/b.py" "t")) := by
  have htext : ((⟨.single, []⟩ : Path) / Path.ofText "/a.py").text = "/a.py" := rfl
  rcases sent_crossingFirst follows with ⟨s, w₁, w₂, hsent, hs, hcall, hdisk, hclient⟩
  have hb : w₂.client.editor? = some crossingBuffers := by
    rw [hclient]
    rfl
  have hfollows : w₂.client.follows = follows := by
    rw [hclient]
    rfl
  have hfollowed : Buffers.followed w₂.client.follows w₂.disk crossingBuffers
      (s.directory / Path.ofText "/a.py").text = .ok b := by
    rw [hs, htext, hfollows, hdisk]
    exact h
  rcases rename_of_followed hsent hcall hb hfollowed with ⟨w₃, hrename, hsame, hb₃⟩
  have hcrossed : w₃.disk = Disk.crossed := hsame.trans hdisk
  have hkey : Buffers.key w₃.disk "/a.py" = .ok "/z.py" := by
    rw [hcrossed]
    exact Buffers.key_crossed_a
  have hopen : Buffers.openFile w₃.disk (b.drop "/z.py") "/b.py" =
      .ok ((b.drop "/z.py").load "/b.py" "t") := by
    have hread := Buffers.readText_name (d := .crossed) Disk.isEntry_b rfl
    rw [Disk.text_b] at hread
    rw [hcrossed]
    exact Buffers.openFile_of_ok (Buffers.key_b rfl) hread
  rw [← hcrossed]
  exact renameCurrentFile_of_opened rfl hrename renamed_a.1 hb₃ hkey hopen

theorem followed_crossed :
    Buffers.followed true .crossed crossingBuffers "/a.py" =
      .ok (crossingBuffers.drop "/c.py") := by
  have hclean : (!crossingBuffers.isOpen "/z.py" || crossingBuffers.isMarked "/z.py") = false :=
    rfl
  have hgone : (Fault.os (DiskProblem.missing.error "/z.py")).isNotFound = true := rfl
  rw [Buffers.followed, if_pos rfl]
  simp only [Buffers.revert, Buffers.closeFile, Buffers.key_crossed_a, Buffers.key_crossed_z,
    hclean, hgone, Buffers.readText_crossed, bind, Except.bind]
  rfl

theorem slips_crossed : Buffers.Slips .crossed crossingBuffers "/z.py" "/c.py" where
  clean := ⟨rfl, rfl⟩
  gone := ⟨_, Buffers.readText_crossed, rfl⟩
  again := Buffers.key_crossed_z
  other := by decide

/-!
## Both ways
-/

/-- A rename of the current file, the key of which is canonical, once with buffers that follow
the files and once with buffers that do not: if both go all their way and leave the same disk,
they give the same path, they made the same request, and they leave the same buffers, in the
same order, with the same marks and the same current file. The exception is a file that is gone
and has a clean buffer under a key with another key, which only a path that was cut off can have
given it. Then following has also closed the buffer under that other key. -/
theorem alike_unless_slipped {u v u' v' : World} {b : Buffers} {newName p q : String}
    (hapart : u.IsApart ∧ v.IsApart)
    (heditor : u.client.editor? = some b ∧ v.client.editor? = some b)
    (hfollows : u.client.follows = true ∧ v.client.follows = false)
    (hcanonical : forall k, b.current? = some k -> Buffers.IsCanonical u.disk k)
    (hu : renameCurrentFile newName u = .ok p u') (hv : renameCurrentFile newName v = .ok q v')
    (hdisk : u'.disk = v'.disk) :
    p = q ∧
      exists current k,
        b.current? = some current ∧ Buffers.key u'.disk current = .ok k ∧
        u'.trail.requests =
          u.trail.requests ++ [(Command.rename.name, [.text newName, .text current])] ∧
        v'.trail.requests =
          v.trail.requests ++ [(Command.rename.name, [.text newName, .text current])] ∧
        ((forall i, ¬ Buffers.Slips u'.disk b k i) -> u'.client.editor? = v'.client.editor?) ∧
        forall i, Buffers.Slips u'.disk b k i ->
          (u'.disk.IsSeated -> Buffers.IsStray u'.disk k) ∧
            exists j text,
              v'.client.editor? = some ((b.drop k).load j text) ∧
                u'.client.editor? = some (((b.drop i).drop k).load j text) := by
  rcases turned_of_ok hapart.1 heditor.1 hu with ⟨current, bu, k, j, text, hturned⟩
  rcases turned_of_ok hapart.2 heditor.2 hv with ⟨current', bv, k', j', text', hturned'⟩
  -- Both runs name the same file, so they agree on the places and on what is read there.
  have hnamed := hturned.answered.named
  have hnamed' := hturned'.answered.named
  rw [hnamed] at hnamed'
  cases hnamed'
  have hplace := hturned'.place
  rw [hturned.place] at hplace
  cases hplace
  have hold := hturned'.old
  rw [← hdisk, hturned.old] at hold
  cases hold
  have hnew := hturned'.new
  rw [← hdisk, hturned.new] at hnew
  cases hnew
  have hreads := hturned'.reads
  rw [← hdisk, hturned.reads] at hreads
  cases hreads
  have hstayed := hturned'.editor
  rw [hturned'.unfollowed hfollows.2] at hstayed
  rcases hturned.reverted hfollows.1 (hcanonical current hnamed) with ⟨r, hrevert, rfl⟩
  rcases Buffers.drop_of_revert hturned.old hrevert with ⟨hsame, hslipped⟩
  refine ⟨rfl, current, k, hnamed, hturned.old, hturned.answered.requests,
    hturned'.answered.requests, ?_, ?_⟩
  · intro hnone
    rw [hturned.editor, hstayed, hsame hnone]
  · intro i hslips
    refine ⟨fun hseated => hslips.isStray hseated hturned.old, j, text, hstayed, ?_⟩
    rw [hturned.editor, hslipped i hslips]

/-- Where links were crossed, following the files loses what was unsaved in one of them. -/
theorem renameCurrentFile_crosses :
    exists u v b b',
      renameCurrentFile "b" (crossingFirst true) = .ok "/b.py" u ∧
        renameCurrentFile "b" (crossingFirst false) = .ok "/b.py" v ∧ u.disk = v.disk ∧
        u.client.editor? = some b ∧ b.get? "/c.py" = none ∧
        v.client.editor? = some b' ∧ b'.get? "/c.py" = some "unsaved" ∧
        b'.isMarked "/c.py" = true := by
  rcases renameCurrentFile_crossing followed_crossed with ⟨u, hu, hdesk⟩
  rcases @renameCurrentFile_crossing false _ rfl with ⟨v, hv, hdesk'⟩
  have hdisk : u.disk = Disk.crossed := congrArg Prod.fst hdesk
  have hdisk' : v.disk = Disk.crossed := congrArg Prod.fst hdesk'
  have hcanonical : forall k, crossingBuffers.current? = some k ->
      Buffers.IsCanonical Disk.straight k := by
    intro k hk
    cases hk
    exact Buffers.isCanonical_of_linkFree Disk.isEntry_a.plains (Disk.linkFree_name rfl)
      Disk.isEntry_a.nulless
  rcases alike_unless_slipped ⟨isApart_crossingFirst true, isApart_crossingFirst false⟩ ⟨rfl, rfl⟩
    ⟨rfl, rfl⟩ hcanonical hu hv (hdisk.trans hdisk'.symm) with
    ⟨_, current, k, hcurrent, hkey, _, _, _, hslips⟩
  cases hcurrent
  rw [hdisk, Buffers.key_crossed_a] at hkey
  cases hkey
  rw [hdisk] at hslips
  rcases hslips "/c.py" slips_crossed with ⟨_, j, text, hstays, hloses⟩
  have hj : j = "/b.py" := by
    have hshown := hstays.symm.trans (congrArg Prod.snd hdesk')
    exact Option.some.inj (congrArg Buffers.current? (Option.some.inj hshown))
  rw [hj] at hstays hloses
  exact ⟨u, v, _, _, hu, hv, hdisk.trans hdisk'.symm, hloses, rfl, hstays, rfl, rfl⟩

end Operations
end EngineClient
