import EngineClient.Proofs.Answer.Spellings
import EngineClient.Proofs.Run.Directories
import EngineClient.Proofs.Run.Operations

/-!
# Queries

Some operations only ask: for the resources of the project or of a directory, for proposals,
and for what can be undone or redone. Such a query makes a request, gets an answer, and reads
the answer item by item. While the engine lives, an answer is read one for one or the query
fails as a whole, and the client is the same before and after. Main statement:
`reads_or_fails`.
-/

namespace EngineClient

open Act

/-- What is asked for. Resources are those of the project, or those in a directory. -/
inductive Query where
  | resources (directory? : Option Value)
  | proposals (path : String) (position text : Value)
  | history (stack : HistoryStack)

namespace Query

def command : Query → Command
  | .resources none => .getAllResources
  | .resources (some _) => .getChildren
  | .proposals _ _ _ => .codeAssist
  | .history stack => History.command stack

abbrev Item : Query → Type
  | .resources _ => Resource
  | .proposals _ _ _ => Proposal
  | .history _ => HistoryEntry

def run : (q : Query) → Act (List q.Item)
  | .resources none => Operations.getAllResources
  | .resources (some path) => Operations.getChildren path
  | .proposals path position text => Operations.codeAssist path position text
  | .history stack => History.fetch stack

theorem reading (q : Query) : q.command.mutating = false := by
  cases q with
  | resources directory? => cases directory? <;> rfl
  | proposals path position text => rfl
  | history stack => cases stack <;> rfl

/-!
## The parts of a query

The arguments are settled, the command is sent with them, and the answer is decoded.
-/

/-- The arguments of the request. Proposals need a text: without one it is that of the file. -/
def request : Query → Act (List Value)
  | .resources none => pure []
  | .resources (some path) => pure [path]
  | .proposals path position text => do
      let source := (← Operations.root Command.codeAssist.name) / Path.ofText path
      let text ←
        match text with
        | .null => pure (.text (← Operations.sourceText source))
        | text => pure text
      return [text, position, .text path]
  | .history _ => pure []

def decode : (q : Query) → Value → Act (List q.Item)
  | .resources directory? => Operations.resources (command (.resources directory?))
  | .proposals _ _ _ => fun answer =>
      Act.ofExcept (Operations.readAnswer "proposal" Command.codeAssist.name Proposal.read answer)
  | .history stack => fun answer =>
      match answer with
      | .null => pure []
      | answer => do
          let descriptions ← Act.ofExcept (History.items (History.command stack).name answer)
          let s ← Session.ofNumber (← Session.requireRunning (History.command stack).name)
          return HistoryEntry.ofStack stack (← client).epoch s.generation descriptions

theorem run_eq (q : Query) :
    q.run = q.request >>= fun args => q.command.send args >>= q.decode := by
  cases q with
  | resources directory? => cases directory? <;> rfl
  | history stack =>
      have hdecode : History.fetch stack =
          (History.command stack).send [] >>= decode (.history stack) := by
        refine congrArg ((History.command stack).send [] >>= ·) (funext fun answer => ?_)
        cases answer <;> rfl
      exact hdecode
  | proposals path position text =>
      unfold run request Operations.codeAssist
      cases text <;> simp only [bind_assoc, pure_bind] <;> rfl

/-!
## What is read off an answer

A resource is placed below the directory of the session. An entry of a stack keeps its
position, its description, and the marks of the session. What a stack holds may be anything,
so only an answer that is no sequence misfits.
-/

def Reads (q : Query) (s : Session) (epoch position : Nat) (v : Value) : q.Item → Prop :=
  match q with
  | .resources _ => fun r : Resource =>
      exists d, Resource.Describes v d ∧ Resource.IsPlaced d r ∧ r = d.resolved s.directory
  | .proposals _ _ _ => fun p : Proposal => Proposal.Describes v p
  | .history stack => fun e : HistoryEntry =>
      e = { index := position, description := v, stack, epoch, generation := s.generation }

/-- The elements are read off the items that an answer lists, one for one and in order. -/
def ReadsAll (q : Query) (s : Session) (epoch : Nat) (answer : Value) (elements : List q.Item) :
    Prop :=
  exists vs,
    answer.Lists vs ∧ elements.length = vs.length ∧
      forall i v a, vs[i]? = some v -> elements[i]? = some a -> q.Reads s epoch i v a

/-- The answer lists nothing, or an item of it is malformed. -/
def Misfits (q : Query) (answer : Value) : Prop :=
  match q with
  | .resources _ => Operations.Misfits Resource.Describes answer
  | .proposals _ _ _ => Operations.Misfits Proposal.Describes answer
  | .history _ => forall vs, ¬ answer.Lists vs

/-- A query ends in one of two ways: it gives what it reads off the answer, or, iff the answer
misfits, it fails with a failure of its command. -/
inductive Ends (q : Query) (s : Session) (epoch : Nat) (answer : Value) (w : World) :
    EStateM.Result Fault World (List q.Item) → Prop where
  | reads {elements : List q.Item} (hfits : ¬ q.Misfits answer)
      (hreads : q.ReadsAll s epoch answer elements) : Ends q s epoch answer w (.ok elements w)
  | fails {f : Fault} (hmisfits : q.Misfits answer) (hfault : f.IsFailureOf q.command.name) :
      Ends q s epoch answer w (.error f w)

end Query

/-!
## Decoding

The engine lives, so the session is found again.
-/

theorem Operations.root_of_runs {w : World} (hapart : w.IsApart) {n : Nat} {s : Session}
    (h : Session.Runs w n s) (command : String) :
    exists w₁, root command w = .ok s.directory w₁ ∧ w.Wanes w₁ := by
  rcases Session.requireRunning_of_runs hapart h command with ⟨w₁, hrun, hwanes⟩
  refine ⟨w₁, ?_, hwanes⟩
  have hs : w₁.client.sessions[n]? = some s := by
    rw [hwanes.client]
    exact h.session
  unfold root
  rw [bind_run_of_ok hrun, bind_run_of_ok (Session.ofNumber_run hs)]
  rfl

namespace Query

variable {w : World} {n : Nat} {s : Session}

theorem readsAll_of_forall₂ {q : Query} {epoch : Nat} {answer : Value} {vs : List Value}
    {elements : List q.Item} {R : Value → q.Item → Prop} (hvs : answer.Lists vs)
    (hall : List.Forall₂ R vs elements)
    (hreads : forall i v a, R v a -> q.Reads s epoch i v a) :
    q.ReadsAll s epoch answer elements := by
  refine ⟨vs, hvs, hall.length_eq.symm, ?_⟩
  intro i v a hv ha
  rcases List.getElem?_eq_some_iff.mp hv with ⟨hi, rfl⟩
  rcases List.getElem?_eq_some_iff.mp ha with ⟨hi', rfl⟩
  exact hreads i _ _ ((List.forall₂_iff_get.mp hall).2 i hi hi')

theorem ends_proposals (s : Session) (epoch : Nat) (path : String) (position text answer : Value)
    (w : World) :
    Ends (.proposals path position text) s epoch answer w
      (decode (.proposals path position text) answer w) := by
  have hread := Operations.readAnswer_one_for_one (fun v p => Proposal.read_eq_ok_iff (v := v))
    "proposal" Command.codeAssist.name answer
  simp only [decode]
  rcases hread with ⟨hfits, vs, ps, hvs, hall, hrun⟩ | ⟨hmisfits, f, hrun, hfault⟩
  · rw [hrun]
    exact .reads hfits (readsAll_of_forall₂ hvs hall fun _ _ _ => id)
  · rw [hrun]
    exact .fails hmisfits hfault

def DescribesBelow (root : Path) (v : Value) (r : Resource) : Prop :=
  exists d, Resource.Describes v d ∧ r = d.resolved root

theorem read_below_iff (root : Path) (v : Value) (r : Resource) :
    (Resource.read v).map (·.resolved root) = .ok r ↔ DescribesBelow root v r := by
  constructor
  · intro h
    cases hread : Resource.read v with
    | error f =>
        rw [hread] at h
        cases h
    | ok d =>
        rw [hread] at h
        cases h
        exact ⟨d, Resource.read_eq_ok_iff.mp hread, rfl⟩
  · rintro ⟨d, hdescribes, rfl⟩
    rw [Resource.read_eq_ok_iff.mpr hdescribes]
    rfl

theorem misfits_below_iff {root : Path} {answer : Value} :
    Operations.Misfits (DescribesBelow root) answer ↔
      Operations.Misfits Resource.Describes answer := by
  have hnone : forall v : Value,
      (forall r, ¬ DescribesBelow root v r) ↔ forall d, ¬ Resource.Describes v d := by
    intro v
    constructor
    · intro h d hd
      exact h _ ⟨d, hd, rfl⟩
    · rintro h r ⟨d, hd, _⟩
      exact h d hd
  simp only [Operations.Misfits, hnone]

theorem resources_of_runs (hapart : w.IsApart) (hruns : Session.Runs w n s) (c : Command)
    (answer : Value) :
    exists w', w'.client = w.client ∧
      ((¬ Operations.Misfits Resource.Describes answer ∧
        exists vs rs,
          answer.Lists vs ∧ List.Forall₂ (DescribesBelow s.directory) vs rs ∧
            Operations.resources c answer w = .ok rs w') ∨
        Operations.Misfits Resource.Describes answer ∧
          exists f, Operations.resources c answer w = .error f w' ∧ f.IsFailureOf c.name) := by
  rcases Operations.root_of_runs hapart hruns c.name with ⟨w₁, hroot, hwanes⟩
  have hread := Operations.readAnswer_one_for_one (read_below_iff s.directory) "resource" c.name
    answer
  rw [misfits_below_iff] at hread
  refine ⟨w₁, hwanes.client, ?_⟩
  unfold Operations.resources
  rw [bind_run_of_ok hroot]
  rcases hread with ⟨hfits, vs, rs, hvs, hall, hrun⟩ | ⟨hmisfits, f, hrun, hfault⟩
  · left
    rw [hrun]
    exact ⟨hfits, vs, rs, hvs, hall, rfl⟩
  · right
    rw [hrun]
    exact ⟨hmisfits, f, rfl, hfault⟩

theorem placed_of_describesBelow {root : Path} (hroot : root.isAbsolute = true) {v : Value}
    {r : Resource} (h : DescribesBelow root v r) :
    exists d, Resource.Describes v d ∧ Resource.IsPlaced d r ∧ r = d.resolved root := by
  rcases h with ⟨d, hd, rfl⟩
  exact ⟨d, hd, Resource.isPlaced_resolved d hroot, rfl⟩

theorem decode_history {stack : HistoryStack} {answer : Value} (hnull : answer ≠ .null) :
    decode (.history stack) answer = (do
      let descriptions ← Act.ofExcept (History.items (History.command stack).name answer)
      let s ← Session.ofNumber (← Session.requireRunning (History.command stack).name)
      return HistoryEntry.ofStack stack (← client).epoch s.generation descriptions) := by
  cases answer with
  | null => exact absurd rfl hnull
  | _ => rfl

theorem moves_decode {R : World → World → Prop} [IsPreorder World R]
    (h : forall command, (Session.requireRunning command).Moves R) (q : Query) (answer : Value) :
    (q.decode answer).Moves R := by
  cases q with
  | resources directory? => exact Operations.moves_resources (h _) answer
  | proposals path position text => exact .ofExcept _
  | history stack =>
      by_cases hnull : answer = .null
      · subst hnull
        exact .pure _
      · rw [decode_history hnull]
        exact History.moves_marked (h _) answer

theorem ends_history (hapart : w.IsApart) (hruns : Session.Runs w n s) (stack : HistoryStack)
    (answer : Value) :
    exists w', w'.client = w.client ∧
      Ends (.history stack) s w.client.epoch answer w' (decode (.history stack) answer w) := by
  by_cases hlists : exists vs, answer.Lists vs
  · rcases hlists with ⟨vs, hvs⟩
    have hfits : ¬ Misfits (.history stack) answer := fun h => h vs hvs
    have hreads : ReadsAll (.history stack) s w.client.epoch answer
        (HistoryEntry.ofStack stack w.client.epoch s.generation vs) := by
      refine ⟨vs, hvs, List.length_mapIdx, ?_⟩
      intro i v e hv he
      rw [HistoryEntry.ofStack, List.getElem?_mapIdx, hv] at he
      cases he
      rfl
    -- Null is read before the session is asked for, other lists after it.
    by_cases hnull : answer = .null
    · subst hnull
      cases hvs
      exact ⟨w, rfl, .reads hfits hreads⟩
    · rcases Session.requireRunning_of_runs hapart hruns (History.command stack).name with
        ⟨w₁, hrun, hwanes⟩
      have hs : w₁.client.sessions[n]? = some s := by
        rw [hwanes.client]
        exact hruns.session
      have hdecode : decode (.history stack) answer w =
          .ok (HistoryEntry.ofStack stack w.client.epoch s.generation vs) w₁ := by
        rw [decode_history hnull, History.items_of_lists hvs,
          bind_run_of_ok (rfl : Act.ofExcept (.ok vs) w = .ok vs w), bind_run_of_ok hrun,
          bind_run_of_ok (Session.ofNumber_run hs), bind_run_of_ok (client_run w₁),
          hwanes.client]
        rfl
      rw [hdecode]
      exact ⟨w₁, hwanes.client, .reads hfits hreads⟩
  · have hother : forall vs, ¬ answer.Lists vs := fun vs hvs => hlists ⟨vs, hvs⟩
    rcases History.items_of_other hother (History.command stack).name with ⟨f, hitems⟩
    have hnull : answer ≠ .null := by
      rintro rfl
      exact hother [] .null
    have hdecode : decode (.history stack) answer w = .error f w := by
      rw [decode_history hnull, hitems]
      rfl
    rw [hdecode]
    exact ⟨w, rfl, .fails hother (History.isFailureOf_of_items hitems)⟩

theorem ends_decode (hapart : w.IsApart) (hrooted : w.IsRooted) (hruns : Session.Runs w n s)
    (q : Query) (answer : Value) :
    exists w', w'.client = w.client ∧ Ends q s w.client.epoch answer w' (q.decode answer w) := by
  have hplaced : forall v r, DescribesBelow s.directory v r ->
      exists d, Resource.Describes v d ∧ Resource.IsPlaced d r ∧ r = d.resolved s.directory :=
    fun _ _ => placed_of_describesBelow (hrooted.session hruns.session)
  cases q with
  | resources directory? =>
      rcases resources_of_runs hapart hruns (command (.resources directory?)) answer with
        ⟨w', hclient, ⟨hfits, vs, rs, hvs, hall, hrun⟩ | ⟨hmisfits, f, hrun, hfault⟩⟩
      · refine ⟨w', hclient, ?_⟩
        simp only [decode, hrun]
        exact .reads hfits (readsAll_of_forall₂ hvs hall fun _ => hplaced)
      · refine ⟨w', hclient, ?_⟩
        simp only [decode, hrun]
        exact .fails hmisfits hfault
  | proposals path position text =>
      exact ⟨w, rfl, ends_proposals s w.client.epoch path position text answer w⟩
  | history stack => exact ends_history hapart hruns stack answer

/-!
## Asking

Up to the answer a query looks at the engine and at files, and leaves the client as it is.
-/

theorem sourceText_eq_ok {p : Path} {w w' : World} {text : String}
    (h : Operations.sourceText p w = .ok text w') : w' = w :=
  (Operations.moves_sourceText (R := Agree id) p).of_ok h

theorem client_of_root (hapart : w.IsApart) {command : String} {root : Path} {w₁ : World}
    (h : Operations.root command w = .ok root w₁) : w₁.client = w.client ∧ w₁.IsApart := by
  have hcalm := Operations.calm_root command w hapart
  rw [after_of_ok h] at hcalm
  rcases bind_eq_ok h with ⟨m, w₂, hrun, hnumber⟩
  rcases bind_eq_ok hnumber with ⟨t, w₃, hnumber, hreturn⟩
  cases hreturn
  cases (Session.ofNumber_eq_ok hnumber).2
  exact ⟨(Dispatch.current_of_requireRunning hapart hrun).2, hcalm.1⟩

theorem client_of_request (hapart : w.IsApart) {q : Query} {args : List Value} {w₁ : World}
    (h : q.request w = .ok args w₁) : w₁.client = w.client ∧ w₁.IsApart := by
  cases q with
  | resources directory? =>
      cases directory? <;> (cases h; exact ⟨rfl, hapart⟩)
  | proposals path position text =>
      rcases bind_eq_ok h with ⟨root, w₂, hroot, hrest⟩
      have hkept := client_of_root hapart hroot
      have hsame : w₁ = w₂ := by
        cases text with
        | null =>
            rcases bind_eq_ok hrest with ⟨source, w₃, hsource, hreturn⟩
            cases sourceText_eq_ok hsource
            cases hreturn
            rfl
        | _ =>
            cases hrest
            rfl
      rw [hsame]
      exact hkept
  | history stack =>
      cases h
      exact ⟨rfl, hapart⟩

def Answered (q : Query) (w : World) (answer : Value) (w' : World) : Prop :=
  exists args w₀ n s w₁,
    q.request w = .ok args w₀ ∧ Dispatch.Sent w₀ q.command args n s w₁ ∧
      Transport.call s q.command.name args w₁ = .ok answer w'

theorem client_of_sent (hapart : w.IsApart) {c : Command} {args : List Value} {w₁ : World}
    (h : Dispatch.Sent w c args n s w₁) : w₁.client = w.client := by
  rcases h.running with ⟨w₀, hrun, _, rfl⟩
  exact (Dispatch.current_of_requireRunning hapart hrun).2

theorem runs_of_eq {w' : World} (hclient : w'.client = w.client)
    (hengines : w'.engines = w.engines) (h : Session.Runs w n s) : Session.Runs w' n s := by
  rcases h with ⟨hcurrent, i, e, hwatched, halive⟩
  refine ⟨?_, i, e, ?_, halive⟩
  · rw [hclient]
    exact hcurrent
  · constructor
    · rw [hclient]
      exact hwatched.session
    · exact hwatched.running
    · exact hwatched.number
    · rw [hengines]
      exact hwatched.engine
    · exact hwatched.seen

theorem run_of_answered (hapart : w.IsApart) {q : Query} {answer : Value} {w' : World}
    (h : q.Answered w answer w') :
    w'.IsApart ∧ w'.client = w.client ∧
      exists w₂,
        w₂.client = w'.client ∧ w₂.engines = w'.engines ∧ w₂.IsApart ∧
          q.run w = q.decode answer w₂ := by
  rcases h with ⟨args, w₀, n, s, w₁, hrequest, hsent, hcall⟩
  rcases client_of_request hapart hrequest with ⟨hclient₀, hapart₀⟩
  have hapart₁ := hsent.isApart hapart₀
  have hapart' := (Dispatch.calm_call s q.command.name args w₁ hapart₁).1
  have hclient' := Dispatch.client_after_call hapart₁ s q.command args
  rw [after_of_ok hcall] at hapart' hclient'
  let w₂ := (record Dispatch.logger .debug "dispatched" [("method", .text q.command.name)]).after w'
  have hsend : q.command.send args w₀ = .ok answer w₂ := by
    rw [hsent.issued]
    unfold Dispatch.send
    rw [bind_run_of_ok hcall, q.reading]
    rfl
  refine ⟨hapart', ?_, w₂, rfl, rfl, hapart'.of_eq rfl rfl, ?_⟩
  · rw [hclient', client_of_sent hapart₀ hsent, hclient₀]
  · rw [q.run_eq, bind_run_of_ok hrequest, bind_run_of_ok hsend]

/-- In every reached world a query that gets an answer from an engine that lives on reads the
answer one for one, or fails with a failure of its command, the latter iff the answer misfits.
Either way the client is as it was: its sessions, their generations, and its buffers. -/
theorem reads_or_fails {admits : World → Move → Prop} {opened : List Nat} {w w' : World}
    (h : Reached admits opened w) {q : Query} {answer : Value} (hanswered : q.Answered w answer w')
    {n : Nat} {s : Session} (hruns : Session.Runs w' n s) :
    exists w'', w''.client = w.client ∧ Ends q s w.client.epoch answer w'' (q.run w) := by
  rcases run_of_answered h.isApart hanswered with
    ⟨_, hclient, w₂, hclient₂, hengines, hapart₂, hrun⟩
  have hsame : w₂.client = w.client := hclient₂.trans hclient
  have hrooted : w₂.IsRooted :=
    (World.IsRooted.of_reached h).of_eq (directories_of_client hsame)
  rcases ends_decode hapart₂ hrooted (runs_of_eq hclient₂ hengines hruns) q answer with
    ⟨w'', hclient'', hends⟩
  rw [hsame] at hclient'' hends
  rw [hrun]
  exact ⟨w'', hclient'', hends⟩

def listing (answer : Value) : World :=
  { firstSession with
    surroundings := { replies := [(Command.getAllResources.name, [{ result := .ok answer }])] } }

theorem reached_listing (answer : Value) : Reached (fun _ _ => True) [0] (listing answer) := by
  have hreached : Reached (fun _ _ => True) [0] firstSession := reached_firstSession trivial
  apply hreached.elsewhere
  apply World.Elsewhere.of_surroundings hreached.isApart
  constructor
  · intro plan hplan
    cases hplan
  · simp
  · intro entry hentry r hr
    rw [List.mem_singleton.mp hentry] at hr
    rw [List.mem_singleton.mp hr]
    intro effect heffect
    cases heffect

theorem answered_listing (answer : Value) :
    exists w s, (resources none).Answered (listing answer) answer w ∧ Session.Runs w 0 s := by
  have hrun : Session.requireRunning Command.getAllResources.name (listing answer) =
      .ok 0 ((listing answer).looked 0) := rfl
  have hsent : Dispatch.Sent (listing answer) .getAllResources [] 0 _ _ :=
    ⟨rfl, _, hrun, rfl, rfl⟩
  have hlooked : ((listing answer).looked 0).engines[0]? = some firstEngine.look := rfl
  have hwatched : Session.Watched ((listing answer).looked 0) _ 0 firstEngine.look :=
    ⟨rfl, rfl, rfl, hlooked, rfl⟩
  have hruns : Session.Runs ((listing answer).looked 0) 0 _ := ⟨rfl, 0, _, hwatched, rfl⟩
  have hanswered : exists w,
      (resources none).Answered (listing answer) answer w ∧
        w.client = ((listing answer).looked 0).client ∧
          w.engines = ((listing answer).looked 0).engines := by
    refine ⟨_, ⟨[], listing answer, 0, _, _, rfl, hsent, by rfl⟩, ?_⟩
    exact ⟨rfl, rfl⟩
  rcases hanswered with ⟨w, hanswered, hclient, hengines⟩
  exact ⟨w, _, hanswered, runs_of_eq hclient hengines hruns⟩

/-- Two items are read as two resources, and a number among the items is a failure. -/
theorem reads_listing :
    (exists rs w,
      Operations.getAllResources (listing (.list [.text "a.py", .text "pkg/"])) = .ok rs w ∧
        rs.length = 2 ∧ w.client = firstSession.client) ∧
      exists f w,
        Operations.getAllResources (listing (.list [.text "a.py", .int 3])) = .error f w ∧
          f.IsFailureOf Command.getAllResources.name ∧ w.client = firstSession.client := by
  constructor
  · rcases answered_listing (.list [.text "a.py", .text "pkg/"]) with ⟨w', s, hanswered, hruns⟩
    rcases reads_or_fails (reached_listing _) hanswered hruns with ⟨w, hclient, hends⟩
    generalize hrun : (resources none).run (listing _) = result at hends
    cases hends with
    | reads hfits hreads =>
        rcases hreads with ⟨vs, hvs, hlength, _⟩
        cases hvs
        exact ⟨_, w, hrun, hlength, hclient⟩
    | fails hmisfits hfault =>
        rcases hmisfits _ (.list _) with ⟨v, hv, hnone⟩
        rcases List.mem_pair.mp hv with rfl | rfl
        · exact absurd (.path _) (hnone _)
        · exact absurd (.path _) (hnone _)
  · rcases answered_listing (.list [.text "a.py", .int 3]) with ⟨w', s, hanswered, hruns⟩
    rcases reads_or_fails (reached_listing _) hanswered hruns with ⟨w, hclient, hends⟩
    generalize hrun : (resources none).run (listing _) = result at hends
    cases hends with
    | reads hfits hreads =>
        have hmisfits : (resources none).Misfits (.list [.text "a.py", .int 3]) := by
          intro vs hvs
          cases hvs
          refine ⟨.int 3, by simp, ?_⟩
          rintro r ⟨⟩
        exact absurd hmisfits hfits
    | fails hmisfits hfault => exact ⟨_, w, hrun, hfault, hclient⟩

end Query
end EngineClient
