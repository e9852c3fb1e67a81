import EngineClient.Proofs.Reconcile
import EngineClient.Proofs.Session.Watch
import EngineClient.Session.Ready
import EngineClient.Transport.Call

/-!
# What happens outside of the client

Engines and peers that are apart from the client never call it: they change the disk, and
engines exit, but the client's own state changes only through the client. While a request
is under way, and while an engine is looked at or reached for, the client stays as it is.
-/

namespace EngineClient

/-!
## Surroundings apart from the client
-/

def Temper.IsApart (t : Temper) : Prop :=
  t.closesClientAtLook? = none

def SpawnPlan.IsApart : SpawnPlan → Prop
  | .start temper => temper.IsApart
  | _ => True

def Effect.IsApart : Effect → Prop
  | .change _ => True
  | .exit _ => True
  | _ => False

def Reply.IsApart (r : Reply) : Prop :=
  forall e, e ∈ r.effects -> e.IsApart

structure Surroundings.IsApart (s : Surroundings) : Prop where
  spawns : forall plan, plan ∈ s.spawns -> plan.IsApart
  probes : ProbePlan.close ∉ s.probes
  replies : forall entry, entry ∈ s.replies -> forall r, r ∈ entry.2 -> r.IsApart

theorem Surroundings.IsApart.of_plain {s : Surroundings} (hspawns : s.spawns = [])
    (hprobes : s.probes = [.accept]) (hreplies : s.replies = []) : s.IsApart := by
  refine ⟨?_, ?_, ?_⟩
  · intro plan hplan
    rw [hspawns] at hplan
    cases hplan
  · simp [hprobes]
  · intro entry hentry
    rw [hreplies] at hentry
    cases hentry

/-- Neither the engines that were started nor the surroundings call the client. -/
structure World.IsApart (w : World) : Prop where
  engines : forall e, e ∈ w.engines -> e.temper.IsApart
  surroundings : w.surroundings.IsApart

/-!
## The client left as it is
-/

/-- A trail without what passed between the client and its surroundings. -/
def Trail.ledger (t : Trail) : Trail :=
  { t with calls := [], emissions := [], probes := 0, pauses := 0 }

/-- The client and its ledger stay as they are, and engines come nearer to their end. -/
structure World.Outside (w w' : World) : Prop where
  client : w'.client = w.client
  ledger : w'.trail.ledger = w.trail.ledger
  engines : List.Forall₂ Engine.Fades w.engines w'.engines

namespace World.Outside

theorem of_engines_eq {w w' : World} (hclient : w'.client = w.client)
    (hledger : w'.trail.ledger = w.trail.ledger) (hengines : w'.engines = w.engines) :
    w.Outside w' := by
  refine ⟨hclient, hledger, ?_⟩
  rw [hengines]
  exact List.forall₂_refl w.engines

theorem of_wanes {w w' : World} (h : w.Wanes w') : w.Outside w' :=
  ⟨h.client, h.factor (·.trail.ledger) fun _ => rfl, h.engines⟩

end World.Outside

instance : IsPreorder World World.Outside where
  refl _ := .of_engines_eq rfl rfl rfl
  trans _ _ _ h h' :=
    ⟨h'.client.trans h.client, h'.ledger.trans h.ledger,
      forall₂_trans h.engines h'.engines⟩

namespace World.IsApart

theorem of_fades {w w' : World} (h : w.IsApart)
    (hengines : List.Forall₂ Engine.Fades w.engines w'.engines)
    (hsurroundings : w'.surroundings.IsApart) : w'.IsApart := by
  refine ⟨?_, hsurroundings⟩
  intro e he
  rcases List.getElem?_of_mem he with ⟨i, hi⟩
  rcases forall₂_getElem? hengines hi with ⟨d, hd, hfades⟩
  rw [hfades.temper]
  exact h.engines d (List.mem_of_getElem? hd)

theorem of_eq {w w' : World} (h : w.IsApart) (hengines : w'.engines = w.engines)
    (hsurroundings : w'.surroundings = w.surroundings) : w'.IsApart := by
  constructor
  · rw [hengines]
    exact h.engines
  · rw [hsurroundings]
    exact h.surroundings

theorem of_wanes {w w' : World} (h : w.IsApart) (hwanes : w.Wanes w') : w'.IsApart := by
  have hsurroundings := hwanes.factor World.surroundings fun _ => rfl
  refine h.of_fades hwanes.engines ?_
  rw [hsurroundings]
  exact h.surroundings

end World.IsApart

namespace Act

/-- In surroundings apart from the client, the act leaves the client alone. -/
abbrev Outside {α : Type} (x : Act α) : Prop :=
  x.Moves (Within World.IsApart World.Outside)

theorem outside_of_wanes {α : Type} {x : Act α} (h : x.Moves World.Wanes) : x.Outside := by
  intro w hapart
  exact ⟨hapart.of_wanes (h w), .of_wanes (h w)⟩

/-- An act that changes neither the engines nor the surroundings keeps both apart. -/
theorem outside_of_agree {α : Type} {x : Act α}
    (h : x.Moves (Agree fun w => (w.client, w.trail.ledger, w.engines, w.surroundings))) :
    x.Outside := by
  intro w hapart
  have hagree := h w
  simp only [Agree, Prod.mk.injEq] at hagree
  rcases hagree with ⟨hclient, hledger, hengines, hsurroundings⟩
  exact ⟨hapart.of_eq hengines hsurroundings, .of_engines_eq hclient hledger hengines⟩

theorem outside_emit (e : Emission) : (emit e).Outside :=
  outside_of_agree fun _ => rfl

theorem outside_note (c : Call) : (note c).Outside :=
  outside_of_agree fun _ => rfl

theorem outside_exitNewest (code : Int) : (exitNewest code).Outside := by
  intro w hapart
  have hengines : List.Forall₂ Engine.Fades w.engines ((exitNewest code).after w).engines := by
    refine forall₂_modify ?_ _ _
    intro e
    exact .of_exit rfl fun _ _ => rfl
  exact ⟨hapart.of_fades hengines hapart.surroundings, rfl, rfl, hengines⟩

end Act

/-!
## Reaching for an engine
-/

namespace Session

open Act

theorem outside_meet {plan : ProbePlan} (h : plan ≠ .close) : (meet plan).Outside := by
  cases plan with
  | accept => exact .pure _
  | refuse => exact .throw _
  | timeOut => exact .throw _
  | fail f => exact .throw _
  | exit code => exact .bind (outside_exitNewest code) fun _ => .throw _
  | close => exact absurd rfl h

theorem outside_probe : probe.Outside := by
  intro w hapart
  have hnext :
      ((nextRepeating w.surroundings.probes).getD (.accept, [])).1 ≠ .close ∧
        forall plan, plan ∈ ((nextRepeating w.surroundings.probes).getD (.accept, [])).2 ->
          plan ∈ w.surroundings.probes := by
    cases hplan : nextRepeating w.surroundings.probes with
    | none => simp
    | some next =>
        rcases mem_of_nextRepeating hplan with ⟨hmem, hrest⟩
        refine ⟨?_, hrest⟩
        rintro hclose
        change next.1 = .close at hclose
        rw [hclose] at hmem
        exact hapart.surroundings.probes hmem
  have htaken : Within World.IsApart World.Outside w
      { w with
        surroundings :=
          { w.surroundings with
            probes := ((nextRepeating w.surroundings.probes).getD (.accept, [])).2 }
        trail := { w.trail with probes := w.trail.probes + 1 } } := by
    intro _
    refine ⟨⟨hapart.engines, hapart.surroundings.spawns, ?_, hapart.surroundings.replies⟩,
      .of_engines_eq rfl rfl rfl⟩
    intro hclose
    exact hapart.surroundings.probes (hnext.2 _ hclose)
  exact trans_of _ htaken (outside_meet hnext.1 _) hapart

theorem outside_isReachable : isReachable.Outside := by
  unfold isReachable
  refine .bind (.attempt outside_probe) fun res => ?_
  split
  · exact .pure _
  · split
    · exact .pure _
    · exact .throw _

end Session

/-!
## Requests
-/

namespace Transport

open Act

theorem isApart_nextReply (method : String) {entries : List (String × List Reply)}
    (h : forall entry, entry ∈ entries -> forall r, r ∈ entry.2 -> r.IsApart) :
    (nextReply method entries).1.IsApart ∧
      forall entry, entry ∈ (nextReply method entries).2 ->
        forall r, r ∈ entry.2 -> r.IsApart := by
  have hsilent : Reply.IsApart {} := by
    intro e he
    cases he
  induction entries with
  | nil =>
      exact ⟨hsilent, h⟩
  | cons entry rest ih =>
      rcases entry with ⟨name, replies⟩
      have hhead := h (name, replies) List.mem_cons_self
      have htail := fun e he => h e (List.mem_cons_of_mem _ he)
      unfold nextReply
      split
      · cases hnext : nextRepeating replies with
        | none =>
            exact ⟨hsilent, h⟩
        | some next =>
            rcases mem_of_nextRepeating hnext with ⟨hmem, hleft⟩
            refine ⟨hhead _ hmem, ?_⟩
            intro e he
            rcases List.mem_cons.mp he with rfl | he
            · exact fun r hr => hhead r (hleft r hr)
            · exact htail e he
      · rcases ih htail with ⟨hreply, hrest⟩
        refine ⟨hreply, ?_⟩
        intro e he
        rcases List.mem_cons.mp he with rfl | he
        · exact hhead
        · exact hrest e he

theorem outside_perform {e : Effect} (h : e.IsApart) : (perform e).Outside := by
  cases e with
  | change c =>
      unfold perform
      refine .bind .disk fun d => ?_
      exact .bind (.ofExcept _) fun d => outside_of_agree fun _ => rfl
  | exit code => exact outside_exitNewest code
  | close => exact h.elim
  | «open» directory => exact h.elim
  | setState s => exact h.elim
  | edit path text => exact h.elim

theorem outside_performAll {es : List Effect} (h : forall e, e ∈ es -> e.IsApart) :
    (performAll es).Outside := by
  induction es with
  | nil =>
      exact .pure _
  | cons e es ih =>
      refine .bind (outside_perform (h e List.mem_cons_self)) fun _ => ?_
      exact ih fun e he => h e (List.mem_cons_of_mem _ he)

theorem outside_answer (method : String) : (answer method).Outside := by
  intro w hapart
  rcases isApart_nextReply method hapart.surroundings.replies with ⟨hreply, hrest⟩
  have htaken : Within World.IsApart World.Outside w
      { w with
        surroundings :=
          { w.surroundings with
            replies := (nextReply method w.surroundings.replies).2 } } := by
    intro _
    exact ⟨⟨hapart.engines, hapart.surroundings.spawns, hapart.surroundings.probes, hrest⟩,
      .of_engines_eq rfl rfl rfl⟩
  have hgiven : (do
      performAll (nextReply method w.surroundings.replies).1.effects
      Act.ofExcept (nextReply method w.surroundings.replies).1.result : Act Value).Outside :=
    .bind (outside_performAll hreply) fun _ => .ofExcept _
  exact trans_of _ htaken (hgiven _) hapart

theorem outside_noteAll (r : Request) (t : Wire.Target) (cs : List Contact) :
    (noteAll r t cs).Outside := by
  induction cs with
  | nil => exact .pure _
  | cons c cs ih => exact .bind (outside_note _) fun _ => ih

theorem outside_exchange (r : Request) : (exchange r).Outside := by
  unfold exchange
  refine .bind (.ofExcept _) fun t => ?_
  intro w hapart
  have htaken : Within World.IsApart World.Outside w
      { w with
        surroundings :=
          { w.surroundings with
            peers := (Exchange.ofPeers t.text w.surroundings.peers).2 } } := by
    intro _
    exact ⟨⟨hapart.engines, hapart.surroundings.spawns, hapart.surroundings.probes,
      hapart.surroundings.replies⟩, .of_engines_eq rfl rfl rfl⟩
  have hgiven : (do
      noteAll r t (Exchange.ofPeers t.text w.surroundings.peers).1.contacts
      Act.ofExcept (Exchange.ofPeers t.text w.surroundings.peers).1.result :
        Act Value).Outside :=
    .bind (outside_noteAll r t _) fun _ => .ofExcept _
  exact trans_of _ htaken (hgiven _) hapart

theorem outside_recordFault (r : Request) (f : Fault) : (recordFault r f).Outside := by
  unfold recordFault
  split
  · refine .bind .get fun w => ?_
    exact .bind (.ofExcept _) fun _ => outside_emit _
  · exact outside_emit _
  · exact outside_emit _
  · exact .pure _

theorem outside_classified (r : Request) {x : Act Value} (h : x.Outside) :
    (classified r x).Outside := by
  unfold classified
  refine .bind (.attempt h) fun res => ?_
  split
  · exact .pure _
  · exact .bind (outside_recordFault r _) fun _ => .throw _

theorem outside_call (s : Session) (method : String) (args : List Value) (w : World) :
    Within World.IsApart World.Outside ((noteRequest method args).after w)
      ((call s method args).after w) := by
  unfold call
  rw [after_bind_of_ok (rfl : noteRequest method args w = .ok () _)]
  rw [after_bind_of_ok (get_run _)]
  split
  · exact Moves.bind (outside_note _) (fun _ => outside_answer method) _
  · refine Moves.bind (outside_note _) (fun _ => ?_) _
    exact outside_classified _ (outside_answer method)
  · exact outside_classified _ (outside_exchange _) _

end Transport
end EngineClient
