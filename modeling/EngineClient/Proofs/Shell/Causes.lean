import EngineClient.Proofs.Run.Onward
import EngineClient.Proofs.Transport.Failures
import EngineClient.Shell.Command

/-!
# Causes of faults that the shell has no words for

Over connections, an act of the client fails with a fault that the shell has words for, or for
one of a few causes: its engine cannot be looked at, a number that it was given or the place of
its engine fits no request, an answer cannot be read as one, or a path cannot be resolved or
read. Acts are put together from acts that fail for such a cause.
-/

namespace EngineClient

/-- A fault that the shell has no words for. -/
structure Fault.IsUnforeseen (f : Fault) : Prop where
  client : f.clientError? = none
  argument : forall text, f ≠ .badArgument text
  os : f.isOs = false
  undecodable : f.isUndecodable = false

namespace Transport

/-- What is reported of a fault is unforeseen only if the transport has no class for the fault,
or if it is the engine's own and cannot be written. -/
theorem of_isUnforeseen_reported {log? : Option Log.Renderer} {r : Request} {f : Fault}
    (hargs : f.isWireTrouble = true -> forall v, v ∈ r.args -> v.IsArgument)
    (h : (reported log? r f).IsUnforeseen) :
    Outcome.ofFault f = .other ∧ reported log? r f = f ∨
      exists code text,
        f = .answer (.fault code text) ∧ Unwritten log? r code text (reported log? r f) := by
  have hshown : forall e, Outcome.ofFault f ≠ .other ->
      showing r.args e f = .chained e f :=
    fun e hkind => showing_of_isArgument (hargs (isWireTrouble_of_ofFault hkind)) e f
  cases houtcome : Outcome.ofFault f with
  | other =>
      refine Or.inl ⟨rfl, ?_⟩
      simp only [reported, houtcome]
      exact report_of_other houtcome r
  | remoteFault code text =>
      cases eq_of_ofFault houtcome
      rcases reported_fault log? r code text with ⟨hreport, _⟩ | hunwritten
      · rw [hreport] at h
        cases h.client
      · exact Or.inr ⟨code, text, rfl, hunwritten⟩
  | timeout =>
      simp only [reported, houtcome, report] at h
      rw [hshown _ (by simp [houtcome])] at h
      cases h.client
  | trouble =>
      simp only [reported, houtcome, report] at h
      rw [hshown _ (by simp [houtcome])] at h
      cases h.client

end Transport

/-!
## Causes
-/

namespace Shell

def Overflows (words : List String) : Prop :=
  exists word i,
    word ∈ words ∧ Literal.integer word.toList = .ok i ∧ Wire.isCarried i = false

/-- What a command with some words can fail for without the shell having words for it. -/
inductive Cause (words : List String) (w : World) : Fault → Prop where
  /-- Looking at the engine fails. -/
  | engine {f : Fault} (h : Session.Unseen w f) : Cause words w f
  | number (h : Overflows words) : Cause words w .integerRange
  /-- No request can be made to the place of the engine. -/
  | place {s : Session} {r : Transport.Request} {e : TargetError}
      (hs : w.client.session? = some s) (hurl : r.url = s.url)
      (h : Transport.target r = .error (.target e)) : Cause words w (.target e)
  /-- A peer sends what is no answer, or fails as the transport does not know. -/
  | answer {p : Peer} {place : String} {f : Fault} (hp : p ∈ w.surroundings.peers)
      (h : (Transport.contact place p).result = .error f)
      (hother : Transport.Outcome.ofFault f = .other) : Cause words w f
  /-- A peer sends a fault of the engine that cannot be written. -/
  | unwritten {p : Peer} {place : String} {r : Transport.Request} {code text : Value} {f : Fault}
      (hp : p ∈ w.surroundings.peers)
      (h : (Transport.contact place p).result = .error (.answer (.fault code text)))
      (hfault : Transport.Unwritten w.surroundings.log? r code text f) : Cause words w f
  | unresolved {p : Path} {f : Fault} (h : w.disk.canonical p = .error f) : Cause words w f
  | unread {p : Path} {f : Fault} (h : w.disk.readText p = .error f) : Cause words w f

end Shell

/-- Surroundings apart from the client, which are asked over connections. -/
structure World.IsWired (w : World) : Prop where
  apart : w.IsApart
  transport : w.surroundings.transport = .wire

/-- What commands can fail for was there before. -/
structure World.Remains (w w' : World) : Prop where
  disk : w'.disk = w.disk
  session : forall s', w'.client.session? = some s' ->
    exists s, w.client.session? = some s ∧ s'.engine? = s.engine? ∧ s'.url = s.url
  engines : List.Forall₂ Engine.Fades w.engines w'.engines
  peers : forall p, p ∈ w'.surroundings.peers -> p ∈ w.surroundings.peers
  log : w'.surroundings.log? = w.surroundings.log?

namespace World.Remains

theorem refl (w : World) : w.Remains w :=
  ⟨rfl, fun s hs => ⟨s, hs, rfl, rfl⟩, List.forall₂_refl w.engines, fun _ => id, rfl⟩

theorem trans {w w' w'' : World} (h : w.Remains w') (h' : w'.Remains w'') : w.Remains w'' where
  disk := h'.disk.trans h.disk
  session s'' hs'' := by
    rcases h'.session s'' hs'' with ⟨s', hs', hengine', hurl'⟩
    rcases h.session s' hs' with ⟨s, hs, hengine, hurl⟩
    exact ⟨s, hs, hengine'.trans hengine, hurl'.trans hurl⟩
  engines := forall₂_trans h.engines h'.engines
  peers p hp := h.peers p (h'.peers p hp)
  log := h'.log.trans h.log

end World.Remains

theorem Client.session?_mapSession {γ : Type} (c : Client) (n : Nat) {f : Session → Session}
    {k : Session → γ} (hk : forall s, k (f s) = k s) :
    (c.mapSession n f).session?.map k = c.session?.map k := by
  have hsessions := map_modify_of_eq hk n c.sessions
  change (c.current?.bind fun m => (c.sessions.modify n f)[m]?).map k =
    (c.current?.bind fun m => c.sessions[m]?).map k
  cases c.current? with
  | none => rfl
  | some m =>
      have hm := congrArg (fun sessions => sessions[m]?) hsessions
      rw [List.getElem?_map, List.getElem?_map] at hm
      exact hm

def World.ground (w : World) :
    Option (Option Nat × String) × List Engine × Disk × Surroundings :=
  (w.client.session?.map fun s => (s.engine?, s.url), w.engines, w.disk, w.surroundings)

theorem World.Remains.of_ground {w w' : World} (h : w'.ground = w.ground) : w.Remains w' := by
  simp only [World.ground, Prod.mk.injEq] at h
  rcases h with ⟨hsession, hengines, hdisk, hsurroundings⟩
  refine ⟨hdisk, ?_, ?_, ?_, congrArg Surroundings.log? hsurroundings⟩
  · intro s' hs'
    rw [hs', Option.map_some] at hsession
    rcases Option.map_eq_some_iff.mp hsession.symm with ⟨s, hs, hsame⟩
    rcases Prod.mk.inj hsame with ⟨hengine, hurl⟩
    exact ⟨s, hs, hengine.symm, hurl.symm⟩
  · rw [hengines]
    exact List.forall₂_refl w.engines
  · rw [hsurroundings]
    exact fun _ => id

theorem World.IsWired.of_ground {w w' : World} (hw : w.IsWired) (h : w'.ground = w.ground) :
    w'.IsWired := by
  simp only [World.ground, Prod.mk.injEq] at h
  rcases h with ⟨_, hengines, _, hsurroundings⟩
  refine ⟨hw.apart.of_eq hengines hsurroundings, ?_⟩
  rw [hsurroundings]
  exact hw.transport

namespace Shell

variable {words : List String} {w w' : World} {f : Fault}

theorem Cause.of_remains (hremains : w.Remains w') (h : Cause words w' f) : Cause words w f := by
  cases h with
  | engine hunseen =>
      rcases hunseen with ⟨s', i, e', hs', hi, he', hfault⟩
      rcases hremains.session s' hs' with ⟨s, hs, hengine, _⟩
      rcases forall₂_getElem? hremains.engines he' with ⟨e, he, hfades⟩
      refine .engine ⟨s, i, e, hs, hengine.symm.trans hi, he, ?_⟩
      rw [← hfades.temper]
      exact hfault
  | number hoverflows => exact .number hoverflows
  | place hs' hurl htarget =>
      rcases hremains.session _ hs' with ⟨s, hs, _, hurl'⟩
      exact .place hs (hurl.trans hurl') htarget
  | answer hp hcontact hother => exact .answer (hremains.peers _ hp) hcontact hother
  | unwritten hp hcontact hfault =>
      rw [hremains.log] at hfault
      exact .unwritten (hremains.peers _ hp) hcontact hfault
  | unresolved hpath =>
      rw [hremains.disk] at hpath
      exact .unresolved hpath
  | unread hpath =>
      rw [hremains.disk] at hpath
      exact .unread hpath

/-!
## Acts that fail for a cause
-/

open Act

variable {α β : Type}

/-- In a world, the act fails with a fault that the shell has words for or for a cause, and
brings no new causes about. -/
structure Accounts (words : List String) (x : Act α) (w : World) : Prop where
  wired : (x.after w).IsWired
  remains : w.Remains (x.after w)
  cause : forall f w', x w = .error f w' -> f.IsUnforeseen -> Cause words w f

namespace Accounts

variable {x y : Act α} {g : α → Act β} {a : α}

theorem of_ok (h : x w = .ok a w') (hwired : w'.IsWired) (hremains : w.Remains w') :
    Accounts words x w := by
  rw [← after_of_ok h] at hwired hremains
  refine ⟨hwired, hremains, ?_⟩
  intro f w₁ herror
  rw [h] at herror
  cases herror

theorem of_error (h : x w = .error f w') (hwired : w'.IsWired) (hremains : w.Remains w')
    (hcause : f.IsUnforeseen -> Cause words w f) : Accounts words x w := by
  rw [← after_of_error h] at hwired hremains
  refine ⟨hwired, hremains, ?_⟩
  intro g w₁ herror
  rw [h] at herror
  cases herror
  exact hcause

theorem congr (h : x w = y w) (hy : Accounts words y w) : Accounts words x w := by
  refine ⟨?_, ?_, ?_⟩
  · rw [after_of_run_eq h]
    exact hy.wired
  · rw [after_of_run_eq h]
    exact hy.remains
  · rw [h]
    exact hy.cause

theorem pure (hw : w.IsWired) (a : α) : Accounts words (pure a) w :=
  of_ok (pure_run a w) hw (.refl w)

theorem throw (hw : w.IsWired) (hcause : f.IsUnforeseen -> Cause words w f) :
    Accounts words (throw f : Act α) w :=
  of_error (throw_run f w) hw (.refl w) hcause

theorem ofExcept (hw : w.IsWired) {r : Except Fault α}
    (hcause : forall f, r = .error f -> f.IsUnforeseen -> Cause words w f) :
    Accounts words (Act.ofExcept r) w := by
  cases r with
  | ok a => exact pure hw a
  | error f => exact throw hw (hcause f rfl)

theorem bind (hx : Accounts words x w)
    (hg : forall a w₁, x w = .ok a w₁ -> w₁.IsWired -> Accounts words (g a) w₁) :
    Accounts words (x >>= g) w := by
  rcases hx with ⟨hwired, hremains, hcause⟩
  cases hrun : x w with
  | ok a w₁ =>
      rw [after_of_ok hrun] at hwired hremains
      have hrest := hg a w₁ hrun hwired
      have heq := bind_run_of_ok (g := g) hrun
      refine ⟨?_, ?_, ?_⟩
      · rw [after_of_run_eq heq]
        exact hrest.wired
      · rw [after_of_run_eq heq]
        exact hremains.trans hrest.remains
      · intro f w' herror hunforeseen
        rw [heq] at herror
        exact (hrest.cause f w' herror hunforeseen).of_remains hremains
  | error f w₁ =>
      rw [after_of_error hrun] at hwired hremains
      exact of_error (bind_run_of_error hrun) hwired hremains (hcause f w₁ hrun)

theorem of_ground (hw : w.IsWired) (h : x w = .ok a w') (hground : w'.ground = w.ground) :
    Accounts words x w :=
  of_ok h (hw.of_ground hground) (.of_ground hground)

end Accounts

/-!
## Sessions
-/

theorem remains_of_asked {running : Bool} (hw : w.IsWired)
    (h : Session.isRunning w = .ok running w') : w.Remains w' := by
  have hasked := Session.asked_isRunning hw.apart
  rw [h] at hasked
  cases hasked with
  | none hs => exact .refl w
  | idle hs hidle => exact .refl w
  | missing hs hi hmissing => exact .refl w
  | @alive s i e hwatched halive =>
      refine ⟨rfl, fun s hs => ⟨s, hs, rfl, rfl⟩, ?_, fun _ => id, rfl⟩
      exact forall₂_modify Engine.Fades.look i w.engines
  | @exited s i e w₁ _ hwatched hdead hwanes hclose =>
      have hended := Session.wanes_close w₁
      have hnone := Session.session?_after_close w₁
      rw [after_of_ok hclose] at hended hnone
      have hretired : w₁.retire.engines = w₁.engines :=
        w₁.factor_retire World.engines fun _ _ => rfl
      have hengines := hended.engines
      rw [hretired] at hengines
      have hstill := Session.still_isRunning.of_ok h
      have hdisk : w'.disk = w.disk := hstill.factor World.disk fun _ => rfl
      have hpeers : w'.surroundings.peers = w.surroundings.peers :=
        hstill.factor (·.surroundings.peers) fun _ => rfl
      have hlog : w'.surroundings.log? = w.surroundings.log? :=
        hstill.factor (·.surroundings.log?) fun _ => rfl
      refine ⟨hdisk, ?_, forall₂_trans hwanes.engines hengines, ?_, hlog⟩
      · intro s' hs'
        rw [hnone] at hs'
        cases hs'
      · rw [hpeers]
        exact fun _ => id

theorem accounts_isRunning (hw : w.IsWired) : Accounts words Session.isRunning w := by
  have hcalm := (Session.calm_isRunning w hw.apart).1
  have hstill := Session.still_isRunning w
  have hasked := Session.asked_isRunning hw.apart
  cases hrun : Session.isRunning w with
  | ok running w' =>
      rw [after_of_ok hrun] at hcalm hstill
      have htransport : w'.surroundings.transport = w.surroundings.transport :=
        hstill.factor (·.surroundings.transport) fun _ => rfl
      exact .of_ok hrun ⟨hcalm, htransport.trans hw.transport⟩ (remains_of_asked hw hrun)
  | error f w' =>
      rw [hrun] at hasked
      cases hasked with
      | fault hunseen => exact .of_error hrun hw (.refl w) fun _ => .engine hunseen

theorem session_of_isRunning (hw : w.IsWired) (h : Session.isRunning w = .ok true w') :
    exists s, w'.client.session? = some s := by
  have hasked := Session.asked_isRunning hw.apart
  rw [h] at hasked
  cases hasked with
  | missing hs hi hmissing => exact ⟨_, hs⟩
  | alive hwatched halive => exact ⟨_, hwatched.session⟩

theorem accounts_requireRunning (hw : w.IsWired) (command : String) :
    Accounts words (Session.requireRunning command) w := by
  refine .bind (accounts_isRunning hw) fun running w₁ hrun hw₁ => ?_
  cases running with
  | false =>
      refine .bind (.of_ground hw₁ (client_run w₁) rfl) fun c w₂ _ hw₂ => ?_
      exact .throw hw₂ fun h => nomatch h.client
  | true =>
      rcases session_of_isRunning hw hrun with ⟨s, hs⟩
      rcases Client.session?_eq_some_iff.mp hs with ⟨n, hn, _⟩
      refine .congr (y := pure n) ?_ (.pure hw₁ n)
      rw [if_pos rfl, bind_run_of_ok (client_run w₁), hn]

theorem session_of_requireRunning (hw : w.IsWired) {command : String} {n : Nat}
    (h : Session.requireRunning command w = .ok n w') :
    exists s, w'.client.sessions[n]? = some s ∧ w'.client.session? = some s := by
  unfold Session.requireRunning at h
  rcases bind_eq_ok h with ⟨running, w₁, hrun, hrest⟩
  cases running with
  | false =>
      cases hrest
  | true =>
      rcases session_of_isRunning hw hrun with ⟨s, hs⟩
      rcases Client.session?_eq_some_iff.mp hs with ⟨m, hm, hms⟩
      rw [if_pos rfl, bind_run_of_ok (client_run w₁), hm] at hrest
      cases hrest
      exact ⟨s, hms, hs⟩

/-!
## Calls
-/

theorem accounts_classified {r : Transport.Request} {x : Act Value}
    (hwired : (x.after w).IsWired) (hremains : w.Remains (x.after w))
    (hargs : forall f w', x w = .error f w' -> f.isWireTrouble = true ->
      forall v, v ∈ r.args -> v.IsArgument)
    (hother : forall f w', x w = .error f w' -> Transport.Outcome.ofFault f = .other ->
      Cause words w f)
    (hunwritten : forall f w' code text, x w = .error (.answer (.fault code text)) w' ->
      Transport.Unwritten w.surroundings.log? r code text f -> Cause words w f) :
    Accounts words (Transport.classified r x) w := by
  cases hrun : x w with
  | ok v w₁ =>
      rw [after_of_ok hrun] at hwired hremains
      exact .of_ok (Transport.classified_of_ok hrun) hwired hremains
  | error f w₁ =>
      rw [after_of_error hrun] at hwired hremains
      -- Nothing that a cause is about is in the log.
      rcases Transport.classified_of_error (r := r) hrun with ⟨emissions, hreport⟩
      refine .of_error hreport (hwired.of_ground rfl) (hremains.trans (.of_ground rfl)) ?_
      intro hunforeseen
      rcases Transport.of_isUnforeseen_reported (hargs f w₁ hrun) hunforeseen with
        ⟨hkind, hsame⟩ | ⟨code, text, rfl, hfault⟩
      · rw [hsame]
        exact hother f w₁ hrun hkind
      · rw [hremains.log] at hfault ⊢
        exact hunwritten _ w₁ code text hrun hfault

theorem remains_exchange (hw : w.IsWired) (r : Transport.Request) :
    ((Transport.exchange r).after w).IsWired ∧
      w.Remains ((Transport.exchange r).after w) := by
  cases ht : Transport.target r with
  | error f =>
      rw [after_of_error (Transport.exchange_of_refused ht w)]
      exact ⟨hw, .refl w⟩
  | ok t =>
      rw [after_of_run_eq (Transport.exchange_of_target ht w), after_ofExcept]
      rcases hw with ⟨⟨hengines, hspawns, hprobes, hreplies⟩, htransport⟩
      refine ⟨⟨⟨hengines, hspawns, hprobes, hreplies⟩, htransport⟩, rfl,
        fun s hs => ⟨s, hs, rfl, rfl⟩, List.forall₂_refl w.engines, ?_, rfl⟩
      exact fun p hp => Transport.mem_of_mem_ofPeers hp

theorem accounts_call (hw : w.IsWired) {s : Session} (hs : w.client.session? = some s)
    {c : Command} {args : List Value} (haccepts : c.Accepts args)
    (hfit : Wire.itemsFit args = false -> Overflows words) :
    Accounts words (Transport.call s c.name args) w := by
  refine .bind (.of_ground hw (rfl : noteRequest c.name args w = .ok () _) rfl)
    fun _ w₁ hnoted hw₁ => ?_
  cases hnoted
  refine .bind (.of_ground hw₁ (get_run _) rfl) fun v w₂ hget hw₂ => ?_
  cases hget
  simp only [hw.transport]
  let r : Transport.Request := ⟨s.url, w.client.options.timeout, c.name, args⟩
  rcases remains_exchange hw₂ r with ⟨hwired, hremains⟩
  refine accounts_classified hwired hremains ?_ ?_ ?_
  · intro f w' herror htrouble v hv
    exact Command.isArgument_of_accepts haccepts
      (Transport.itemsFit_of_exchange herror htrouble) hv
  · intro f w' herror hother
    have hkind : Transport.Outcome.ofFault f ≠ .trouble := by simp [hother]
    rcases Transport.exchange_eq_error herror hkind with htarget | ⟨p, place, hp, hcontact⟩
    · cases Transport.misfit_of_target htarget with
      | http e => cases hother
      | target e => exact .place hs rfl htarget
      | number hmisfit => exact .number (hfit hmisfit)
    · exact .answer hp hcontact hother
  · intro f w' code text herror hfault
    rcases Transport.exchange_eq_error herror (fun h => nomatch h) with
      htarget | ⟨p, place, hp, hcontact⟩
    · cases Transport.misfit_of_target htarget
    · exact .unwritten hp hcontact hfault

end Shell
end EngineClient
