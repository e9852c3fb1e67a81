import EngineClient.Proofs.Session.Opening

/-!
# What a failed open leaves behind

Opening can fail while the session before is closed, while the directory or the log is
looked up, and while the engine is started. Only an error of the operating system at the
last of these steps takes the session back. Main statement: `leftClean_of_failed_open_iff`.
-/

namespace EngineClient
namespace Session

open Act

/-- Nothing that was made on the way from one world to another is left: there is no session,
no engine that was started lives, and every stream that was opened is closed. -/
structure LeftClean (w w' : World) : Prop where
  session : w'.client.session? = none
  state : w'.client.state = .closed
  engines : forall i e, w.engines.length ≤ i -> w'.engines[i]? = some e -> e.isAlive = false
  streams : forall i s, w.streams.length ≤ i -> w'.streams[i]? = some s -> s.closed = true

/-- The start of the engine fails for a reason that is no error of the operating system. -/
def StartBreaks (directory : String) (w : World) : Prop :=
  exists l w₁ f w₂,
    prepare directory w = .ok l w₁ ∧
      startEngine l.argv l.stream? (w₁.begun l) = .error f w₂ ∧ f.isOs = false

/-- The session that was begun is left as it began, without an engine, and the stream for
its engine is open. -/
def Stranded (directory : String) (w w' : World) : Prop :=
  exists l w₁,
    prepare directory w = .ok l w₁ ∧
      w'.client.session? = some (starting w₁.client.options l.directory) ∧
      w'.engines.length = w.engines.length ∧
      forall i, l.stream? = some i -> exists path, w'.streams[i]? = some ⟨path, false⟩

/-!
## Failures before the session is begun
-/

theorem state_of_session?_none {c : Client} (h : c.session? = none) : c.state = .closed := by
  unfold Client.state
  rw [h]

theorem leftClean_after_close (w : World) : LeftClean w (close.after w) := by
  constructor
  · exact session?_after_close w
  · exact state_of_session?_none (session?_after_close w)
  · intro i e hi he
    rw [← engines_length_after_close w] at hi
    rw [List.getElem?_eq_none hi] at he
    cases he
  · intro i s hi hs
    rw [← streams_length_after_close w] at hi
    rw [List.getElem?_eq_none hi] at hs
    cases hs

/-!
## Failures of the start
-/

theorem client_of_start_error {l : Launch} {w₁ w₂ : World} {f : Fault}
    (h : startEngine l.argv l.stream? (w₁.begun l) = .error f w₂) :
    w₂.client = (w₁.begun l).client ∧ w₂.engines = w₁.engines ∧ w₂.streams = w₁.streams := by
  rcases startEngine_eq_error h with rfl | rfl
  · exact ⟨rfl, rfl, rfl⟩
  · exact ⟨rfl, rfl, rfl⟩

theorem engines_length_of_prepare {directory : String} {l : Launch} {w w₁ : World}
    (h : prepare directory w = .ok l w₁) : w₁.engines.length = w.engines.length := by
  rcases prepare_eq_ok h with ⟨w₀, hclose, hlog⟩
  have hlength := engines_length_after_close w
  rw [after_of_ok hclose] at hlength
  rcases hlog with ⟨_, rfl⟩ | ⟨_, _, _, rfl⟩
  · exact hlength
  · exact hlength

theorem streams_of_prepare {directory : String} {l : Launch} {w w₁ : World}
    (h : prepare directory w = .ok l w₁) :
    l.stream? = none ∧ w₁.streams.length = w.streams.length ∨
      exists streams path,
        l.stream? = some w.streams.length ∧ streams.length = w.streams.length ∧
          w₁.streams = streams ++ [⟨path, false⟩] := by
  rcases prepare_eq_ok h with ⟨w₀, hclose, hlog⟩
  have hlength := streams_length_after_close w
  rw [after_of_ok hclose] at hlength
  rcases hlog with ⟨hnone, rfl⟩ | ⟨disk, path, hsome, rfl⟩
  · exact Or.inl ⟨hnone, hlength⟩
  · right
    rw [hlength] at hsome
    exact ⟨w₀.streams, path, hsome, hlength, rfl⟩

theorem closed_of_withdrawn {directory : String} {l : Launch} {w w₁ w₂ : World}
    (hprepare : prepare directory w = .ok l w₁) (hstreams : w₂.streams = w₁.streams)
    {i : Nat} {s : LogStream} (hi : w.streams.length ≤ i)
    (hs : (w₂.withdrawn l.stream?).streams[i]? = some s) : s.closed = true := by
  rcases streams_of_prepare hprepare with ⟨hnone, hlength⟩ | ⟨streams, path, hsome, hlength, hall⟩
  · simp only [World.withdrawn, World.shut, hnone, hstreams] at hs
    rw [← hlength] at hi
    rw [List.getElem?_eq_none hi] at hs
    cases hs
  · simp only [World.withdrawn, World.shut, hsome, hstreams, hall] at hs
    rcases Nat.eq_or_lt_of_le hi with rfl | hlt
    · rw [List.getElem?_modify_eq, ← hlength, List.getElem?_concat_length] at hs
      cases hs
      rfl
    · have hlast : (streams ++ [(⟨path, false⟩ : LogStream)]).length ≤ i := by
        rw [List.length_append, hlength]
        exact hlt
      rw [List.getElem?_eq_none (by rwa [List.length_modify])] at hs
      cases hs

theorem leftClean_of_withdrawn {directory : String} {l : Launch} {w w₁ w₂ w' : World}
    {f : Fault} (hprepare : prepare directory w = .ok l w₁)
    (hstart : startEngine l.argv l.stream? (w₁.begun l) = .error f w₂)
    (hwanes : (w₂.withdrawn l.stream?).Wanes w') : LeftClean w w' := by
  rcases client_of_start_error hstart with ⟨_, hengines, hstreams⟩
  have hsession : w'.client.session? = none := by
    rw [hwanes.client]
    rfl
  constructor
  · exact hsession
  · exact state_of_session?_none hsession
  · intro i e hi he
    rcases forall₂_getElem? hwanes.engines he with ⟨d, hd, _⟩
    change w₂.engines[i]? = some d at hd
    rw [hengines, List.getElem?_eq_none (by rwa [engines_length_of_prepare hprepare])] at hd
    cases hd
  · intro i s hi hs
    rcases forall₂_getElem? hwanes.streams hs with ⟨t, ht, hfades⟩
    exact hfades (closed_of_withdrawn hprepare hstreams hi ht)

theorem stranded_of_start {directory : String} {l : Launch} {w w₁ w₂ : World} {f : Fault}
    (hprepare : prepare directory w = .ok l w₁)
    (hstart : startEngine l.argv l.stream? (w₁.begun l) = .error f w₂) :
    Stranded directory w w₂ := by
  rcases client_of_start_error hstart with ⟨hclient, hengines, hstreams⟩
  refine ⟨l, w₁, hprepare, ?_, ?_, ?_⟩
  · rw [hclient]
    exact session?_begun w₁ l
  · rw [hengines]
    exact engines_length_of_prepare hprepare
  · intro i hi
    rcases streams_of_prepare hprepare with ⟨hnone, _⟩ | ⟨streams, path, hsome, hlength, hall⟩
    · rw [hnone] at hi
      cases hi
    · rw [hsome] at hi
      cases hi
      refine ⟨path, ?_⟩
      rw [hstreams, hall, ← hlength, List.getElem?_concat_length]

theorem not_leftClean_of_stranded {directory : String} {w w' : World}
    (h : Stranded directory w w') : ¬ LeftClean w w' := by
  rcases h with ⟨l, w₁, _, hsession, _, _⟩
  intro hclean
  rw [hclean.session] at hsession
  cases hsession

/-!
## Every failure
-/

/-- What is known of the start once the session was prepared decides whether it breaks. -/
theorem startBreaks_iff {directory : String} {l : Launch} {w w₁ w₂ : World} {f : Fault}
    (hprepare : prepare directory w = .ok l w₁)
    (hstart : startEngine l.argv l.stream? (w₁.begun l) = .error f w₂) :
    StartBreaks directory w ↔ f.isOs = false := by
  constructor
  · rintro ⟨l', w₁', f', w₂', hprepare', hstart', hother⟩
    rw [hprepare] at hprepare'
    cases hprepare'
    rw [hstart] at hstart'
    cases hstart'
    exact hother
  · intro hother
    exact ⟨l, w₁, f, w₂, hprepare, hstart, hother⟩

/-- A failed open leaves nothing behind, unless starting the engine failed for a reason that
is no error of the operating system. Then the session stays as it began, and the stream that
was opened for its engine stays open. -/
theorem leftClean_of_failed_open_iff {directory : String} {f : Fault} {w w' : World}
    (h : openOn directory w = .error f w') :
    (LeftClean w w' ↔ ¬ StartBreaks directory w) ∧
      (StartBreaks directory w -> Stranded directory w w') := by
  have hopens := opens_openOn directory w
  rw [h] at hopens
  cases hopens with
  | unprepared hprepare =>
      have hsound : ¬ StartBreaks directory w := by
        rintro ⟨l, w₁, _, _, hok, _⟩
        rw [hprepare] at hok
        cases hok
      constructor
      · exact iff_of_true (leftClean_after_close w) hsound
      · exact fun hbreaks => absurd hbreaks hsound
  | withdrawn hprepare hstart hos hwanes =>
      have hsound : ¬ StartBreaks directory w := by
        rw [startBreaks_iff hprepare hstart, hos]
        intro htrue
        cases htrue
      constructor
      · exact iff_of_true (leftClean_of_withdrawn hprepare hstart hwanes) hsound
      · exact fun hbreaks => absurd hbreaks hsound
  | stranded hprepare hstart hother =>
      have hbreaks : StartBreaks directory w := (startBreaks_iff hprepare hstart).mpr hother
      have hstranded := stranded_of_start hprepare hstart
      constructor
      · exact iff_of_false (not_leftClean_of_stranded hstranded) (not_not_intro hbreaks)
      · exact fun _ => hstranded

def nulProgram : World where
  disk := .bare
  client := { home? := some "/" }
  surroundings := { spawns := [.fail .embeddedNul] }

theorem openOn_nulProgram :
    exists w',
      openOn "/" nulProgram = .error .embeddedNul w' ∧
        StartBreaks "/" nulProgram ∧ ¬ LeftClean nulProgram w' ∧ Stranded "/" nulProgram w' := by
  have hprepare := prepare_root (w := nulProgram) rfl rfl
  have hstart :
      startEngine (rootLaunch nulProgram).argv none (nulProgram.begun (rootLaunch nulProgram)) =
        .error .embeddedNul (nulProgram.begun (rootLaunch nulProgram)).spent := rfl
  have hopen := bind_run_of_ok (g := launch) hprepare
  rw [launch_of_error hstart] at hopen
  have hbreaks : StartBreaks "/" nulProgram := ⟨_, _, _, _, hprepare, hstart, rfl⟩
  rcases leftClean_of_failed_open_iff hopen with ⟨hclean, hstranded⟩
  exact ⟨_, hopen, hbreaks, fun h => hclean.mp h hbreaks, hstranded hbreaks⟩

end Session
end EngineClient
