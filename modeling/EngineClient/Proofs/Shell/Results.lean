import EngineClient.Proofs.Json.Values
import EngineClient.Proofs.Shell.Lines

/-!
# Results on lines

The result of a command takes one line for each of its items, and each line is read as its item.
An item that is too deep has no line, and ends the output. Main statement: `tells_result`.
-/

namespace EngineClient

/-!
## Lines of a text
-/

namespace Text

theorem splitLine_of_line {cs : List Char} (h : '\n' ∉ cs) (rest : List Char) :
    splitLine (cs ++ '\n' :: rest) = (cs ++ ['\n'], rest) := by
  induction cs with
  | nil => rfl
  | cons c cs ih =>
      have hc : c ≠ '\n' := fun heq => h (heq ▸ List.mem_cons_self)
      have hrest := ih fun hmem => h (List.mem_cons_of_mem c hmem)
      rw [List.cons_append, splitLine, if_neg hc, hrest]
      rfl

theorem lines_flatten {ls : List (List Char)} (h : forall l, l ∈ ls -> '\n' ∉ l) :
    lines (ls.map (· ++ ['\n'])).flatten = ls.map (· ++ ['\n']) := by
  induction ls with
  | nil => rw [List.map_nil, List.flatten_nil, lines]
  | cons l ls ih =>
      have hsplit := splitLine_of_line (h l List.mem_cons_self) (ls.map (· ++ ['\n'])).flatten
      have hrest := ih fun m hm => h m (List.mem_cons_of_mem l hm)
      rw [List.map_cons, List.flatten_cons, List.append_assoc, List.singleton_append]
      cases hcs : l ++ '\n' :: (ls.map (· ++ ['\n'])).flatten with
      | nil => exact absurd hcs (List.append_ne_nil_of_right_ne_nil l (List.cons_ne_nil _ _))
      | cons c cs => rw [lines, ← hcs, hsplit, hrest]

end Text

/-!
## Items
-/

theorem Json.plain_of_shows {α : Type} {f : α → Value} {as : List α} {ls : List String}
    (h : List.Forall₂ (fun l a => Json.Shows l (f a)) ls as) :
    forall l, l ∈ ls -> forall c, c ∈ l.toList -> Json.IsPlain c := by
  induction h with
  | nil =>
      intro l hl
      cases hl
  | cons hhead _ ih =>
      intro l hl
      rcases List.mem_cons.mp hl with rfl | hl
      · exact hhead.plain
      · exact ih l hl

namespace Outcome

/-- A result that is data throughout: what a history describes its entries with is data, and
their numbers are not too long. -/
def IsOfData : Outcome → Prop
  | .value v => v.Data
  | .resources _ => True
  | .proposals _ => True
  | .history es => forall e, e ∈ es ->
      (Nat.toDigits 10 e.index).length ≤ Literal.maxIntegerDigits ∧ e.description.Data

/-- The lines that show a result: success alone by a word, a list by one line for each item, and
any other value by one line. -/
inductive Told : Outcome → List String → Prop where
  | success : Told (.value .null) ["ok"]
  | items {vs : List Value} {ls : List String} (h : List.Forall₂ Json.Shows ls vs) :
      Told (.value (.list vs)) ls
  | value {v : Value} {l : String} (hnull : v ≠ .null) (hlist : forall vs, v ≠ .list vs)
      (h : Json.Shows l v) : Told (.value v) [l]
  | resources {rs : List Resource} {ls : List String}
      (h : List.Forall₂ (fun l r => Json.Shows l
        (.table [("path", .text r.path), ("kind", .text r.kind.name)])) ls rs) :
      Told (.resources rs) ls
  | proposals {ps : List Proposal} {ls : List String}
      (h : List.Forall₂ (fun l p => Json.Shows l
        (.table [("name", .text p.name), ("documentation", .ofText? p.documentation?),
          ("scope", .ofText? p.scope?), ("type", .ofText? p.type?)])) ls ps) :
      Told (.proposals ps) ls
  | history {es : List HistoryEntry} {ls : List String}
      (h : List.Forall₂ (fun l e => Json.Shows l
        (.table [("index", .int e.index), ("description", e.description)])) ls es) :
      Told (.history es) ls

theorem Told.plain {o : Outcome} {ls : List String} (h : o.Told ls) :
    forall l, l ∈ ls -> forall c, c ∈ l.toList -> Json.IsPlain c := by
  cases h with
  | success =>
      intro l hl
      rw [List.mem_singleton.mp hl]
      exact Json.isPlain_of_all (by decide)
  | items h => exact Json.plain_of_shows (f := id) h
  | value _ _ h =>
      intro l hl
      rw [List.mem_singleton.mp hl]
      exact h.plain
  | resources h => exact Json.plain_of_shows h
  | proposals h => exact Json.plain_of_shows h
  | history h => exact Json.plain_of_shows h

theorem data_ofText? (s? : Option String) : (Value.ofText? s?).Data := by
  cases s? with
  | none => exact .null
  | some s => exact .text s

theorem data_resource (r : Resource) : r.toValue.Data := by
  have hnodup : ([("path", Value.text r.path), ("kind", .text r.kind.name)].map (·.1)).Nodup := by
    simp
  refine .table hnodup fun e he => ?_
  simp only [List.mem_cons, List.not_mem_nil, or_false] at he
  rcases he with rfl | rfl
  · exact .text _
  · exact .text _

theorem data_proposal (p : Proposal) : p.toValue.Data := by
  have hnodup : ([("name", Value.text p.name), ("documentation", .ofText? p.documentation?),
      ("scope", .ofText? p.scope?), ("type", .ofText? p.type?)].map (·.1)).Nodup := by
    simp
  refine .table hnodup fun e he => ?_
  simp only [List.mem_cons, List.not_mem_nil, or_false] at he
  rcases he with rfl | rfl | rfl | rfl
  · exact .text _
  · exact data_ofText? _
  · exact data_ofText? _
  · exact data_ofText? _

theorem data_history {e : HistoryEntry}
    (hindex : (Nat.toDigits 10 e.index).length ≤ Literal.maxIntegerDigits)
    (hdescription : e.description.Data) : e.toValue.Data := by
  have hnodup :
      ([("index", Value.int e.index), ("description", e.description)].map (·.1)).Nodup := by
    simp
  refine .table hnodup fun f hf => ?_
  simp only [List.mem_cons, List.not_mem_nil, or_false] at hf
  rcases hf with rfl | rfl
  · exact .int hindex
  · exact hdescription

def shown (o : Outcome) : List Value :=
  o.items?.getD []

theorem data_of_shown {o : Outcome} (h : o.IsOfData) {v : Value} (hv : v ∈ o.shown) : v.Data := by
  cases o with
  | value u =>
      cases u with
      | null => cases hv
      | list vs =>
          cases h with
          | list h => exact h v hv
      | _ =>
          rw [List.mem_singleton.mp hv]
          exact h
  | resources rs =>
      rcases List.mem_map.mp hv with ⟨r, _, rfl⟩
      exact data_resource r
  | proposals ps =>
      rcases List.mem_map.mp hv with ⟨p, _, rfl⟩
      exact data_proposal p
  | history es =>
      rcases List.mem_map.mp hv with ⟨e, he, rfl⟩
      exact data_history (h e he).1 (h e he).2

theorem renderItems_of_data {vs : List Value} (h : forall v, v ∈ vs -> v.Data)
    (hdepth : forall v, v ∈ vs -> v.depth ≤ Value.maxDepth) :
    exists ls, renderItems vs = (ls, none) ∧ List.Forall₂ Json.Shows ls vs := by
  induction vs with
  | nil => exact ⟨[], rfl, .nil⟩
  | cons v vs ih =>
      rcases (h v List.mem_cons_self).read_line (hdepth v List.mem_cons_self) with
        ⟨l, hrender, hshows⟩
      rcases ih (fun u hu => h u (List.mem_cons_of_mem v hu))
        (fun u hu => hdepth u (List.mem_cons_of_mem v hu)) with ⟨ls, hrest, hlines⟩
      refine ⟨l :: ls, ?_, .cons hshows hlines⟩
      rw [renderItems, renderItem, hrender, hrest]
      rfl

theorem renderItems_append {vs rest : List Value} {ls : List String} {v : Value}
    (h : renderItems vs = (ls, none)) (hv : v.Data) (hdeep : Value.maxDepth < v.depth) :
    renderItems (vs ++ v :: rest) = (ls, some (.unwritten .tooDeep)) := by
  induction vs generalizing ls with
  | nil =>
      cases h
      rw [List.nil_append, renderItems, renderItem, hv.render_of_deep hdeep]
      rfl
  | cons u vs ih =>
      rw [renderItems] at h
      cases hu : renderItem u with
      | error f =>
          rw [hu] at h
          cases h
      | ok l =>
          rw [hu] at h
          injection h with hls hnone
          rw [List.cons_append, renderItems, hu]
          dsimp only
          rw [ih (Prod.ext rfl hnone), hls]

theorem lines_of_data {o : Outcome} (h : o.IsOfData)
    (hdepth : forall v, v ∈ o.shown -> v.depth ≤ Value.maxDepth) :
    exists ls, o.lines = (ls, none) ∧ o.Told ls := by
  rcases renderItems_of_data (fun v => data_of_shown h) hdepth with ⟨ls, hlines, hshows⟩
  cases o with
  | value v =>
      have hsingle : forall {u : Value}, u ≠ .null -> (forall vs, u ≠ .list vs) ->
          List.Forall₂ Json.Shows ls [u] -> Told (.value u) ls := by
        intro u hnull hlist hone
        cases hone with
        | cons hone hrest =>
            cases hrest
            exact .value hnull hlist hone
      cases v with
      | null => exact ⟨["ok"], rfl, .success⟩
      | list vs => exact ⟨ls, hlines, .items hshows⟩
      | _ => exact ⟨ls, hlines, hsingle (by simp) (by simp) hshows⟩
  | resources rs => exact ⟨ls, hlines, .resources (List.forall₂_map_right_iff.mp hshows)⟩
  | proposals ps => exact ⟨ls, hlines, .proposals (List.forall₂_map_right_iff.mp hshows)⟩
  | history es => exact ⟨ls, hlines, .history (List.forall₂_map_right_iff.mp hshows)⟩

theorem lines_of_deep {o : Outcome} (h : o.IsOfData) {before rest : List Value} {v : Value}
    (hshown : o.shown = before ++ v :: rest)
    (hbefore : forall u, u ∈ before -> u.depth ≤ Value.maxDepth)
    (hdeep : Value.maxDepth < v.depth) :
    exists ls, o.lines = (ls, some (.unwritten .tooDeep)) ∧ List.Forall₂ Json.Shows ls before := by
  have hdata : forall u, u ∈ before ++ v :: rest -> u.Data := by
    intro u hu
    exact data_of_shown h (hshown ▸ hu)
  rcases renderItems_of_data (fun u hu => hdata u (List.mem_append_left _ hu)) hbefore with
    ⟨ls, hlines, hshows⟩
  refine ⟨ls, ?_, hshows⟩
  have hitems : o.items? = some (before ++ v :: rest) := by
    unfold shown at hshown
    cases hitems : o.items? with
    | none =>
        rw [hitems] at hshown
        cases List.append_ne_nil_of_right_ne_nil before (List.cons_ne_nil v rest) hshown.symm
    | some vs =>
        rw [hitems] at hshown
        exact congrArg some hshown
  rw [lines, hitems]
  exact renderItems_append hlines (hdata v (List.mem_append_right _ List.mem_cons_self)) hdeep

end Outcome

/-!
## Output
-/

/-- The world after lines were written for the user, each with a line feed at its end. -/
def World.told (ls : List String) (w : World) : World :=
  { w with
    trail := { w.trail with
      emissions := w.trail.emissions ++ ls.map fun l => .out (l ++ "\n") } }

namespace Shell

open Act

theorem printedLine_of_plain {l : String} (h : forall c, c ∈ l.toList -> Json.IsPlain c) :
    printedLine l = l ++ "\n" := by
  have hescape : Char.ofNat 0x1B ∉ l.toList := by
    intro hmem
    exact absurd (h _ hmem) (by decide)
  have hfeed : Text.withoutControls ['\n'] = ['\n'] := by
    have hnone : Text.afterControl? ['\n'] = none := rfl
    rw [Text.withoutControls]
    split
    · rename_i heq
      rw [hnone] at heq
      cases heq
    · rw [Text.withoutControls]
  have hline := printedLine_append hescape ""
  rw [String.append_empty] at hline
  rw [hline, printedLine, printed]
  exact congrArg (l ++ String.ofList ·) hfeed

theorem run_showLines_of_plain {ls : List String}
    (h : forall l, l ∈ ls -> forall c, c ∈ l.toList -> Json.IsPlain c) (w : World) :
    showLines ls w = .ok () (w.told ls) := by
  induction ls generalizing w with
  | nil =>
      rw [World.told, List.map_nil, List.append_nil]
      rfl
  | cons l ls ih =>
      have hsay : say l w = .ok () (w.told [l]) := by
        rw [say, printedLine_of_plain (h l List.mem_cons_self)]
        rfl
      have hrest := ih (fun m hm => h m (List.mem_cons_of_mem l hm)) (w.told [l])
      unfold showLines
      rw [bind_run_of_ok hsay, hrest]
      simp only [World.told, List.map_cons, List.map_nil, List.append_assoc, List.singleton_append]

/-- A result over data none of whose items is too deep is shown without fail, and all that is
done is writing lines: those that tell it, which are printable ASCII and together have no other
line breaks than the ends of these lines. Otherwise lines show the items before the first that
is too deep, and the output ends with a fault. -/
theorem tells_result {o : Outcome} (h : o.IsOfData) (w : World) :
    ((forall v, v ∈ o.shown -> v.depth ≤ Value.maxDepth) ->
      exists ls,
        showOutcome o w = .ok () (w.told ls) ∧ o.Told ls ∧
          (forall l, l ∈ ls -> forall c, c ∈ l.toList -> Json.IsPlain c) ∧
          Text.lines (ls.map (·.toList ++ ['\n'])).flatten = ls.map (·.toList ++ ['\n'])) ∧
      forall before v rest, o.shown = before ++ v :: rest ->
        (forall u, u ∈ before -> u.depth ≤ Value.maxDepth) -> Value.maxDepth < v.depth ->
          exists ls,
            showOutcome o w = .error (.unwritten .tooDeep) (w.told ls) ∧
              List.Forall₂ Json.Shows ls before := by
  constructor
  · intro hdepth
    rcases Outcome.lines_of_data h hdepth with ⟨ls, hlines, htold⟩
    have hplain := htold.plain
    refine ⟨ls, ?_, htold, hplain, ?_⟩
    · unfold showOutcome
      rw [hlines, bind_run_of_ok (run_showLines_of_plain hplain w)]
      rfl
    · have hbreaks : forall l, l ∈ ls.map (·.toList) -> '\n' ∉ l := by
        intro l hl hmem
        rcases List.mem_map.mp hl with ⟨m, hm, rfl⟩
        exact absurd (hplain m hm _ hmem) (by decide)
      have hwritten := Text.lines_flatten hbreaks
      rw [List.map_map] at hwritten
      exact hwritten
  · intro before v rest hshown hbefore hdeep
    rcases Outcome.lines_of_deep h hshown hbefore hdeep with ⟨ls, hlines, hshows⟩
    refine ⟨ls, ?_, hshows⟩
    have hplain := Json.plain_of_shows (f := id) hshows
    unfold showOutcome
    rw [hlines, bind_run_of_ok (run_showLines_of_plain hplain w)]
    rfl

theorem tells_table :
    (exists l,
      showOutcome (.value (.table (Wire.entriesOf
          [("z", .list [.null, .bool true]), ("e\n\"é😀", .int (-3))]))) firstSession =
        .ok () (firstSession.told [l]) ∧
        exists w, Json.read? l.toList = some (.table w) ∧
          Table.get? w "e\n\"é😀" = some (.int (-3))) ∧
      exists l,
        showOutcome (.value (.list [.int 1, .nested Value.maxDepth, .int 2])) firstSession =
          .error (.unwritten .tooDeep) (firstSession.told [l]) := by
  constructor
  · have hnodup : ([("z", Value.list [.null, .bool true]), ("e\n\"é😀", .int (-3))].map
        (·.1)).Nodup := by
      decide
    have hitems : forall v, v ∈ [Value.null, .bool true] -> v.Data := by
      intro v hv
      simp only [List.mem_cons, List.not_mem_nil, or_false] at hv
      rcases hv with rfl | rfl
      · exact .null
      · exact .bool true
    have hdata : Outcome.IsOfData (.value (.table (Wire.entriesOf
        [("z", .list [.null, .bool true]), ("e\n\"é😀", .int (-3))]))) := by
      refine Value.Data.table hnodup fun e he => ?_
      simp only [List.mem_cons, List.not_mem_nil, or_false] at he
      rcases he with rfl | rfl
      · exact .list hitems
      · exact .int (by decide)
    have hshallow : forall v, v ∈ Outcome.shown (.value (.table (Wire.entriesOf
        [("z", .list [.null, .bool true]), ("e\n\"é😀", .int (-3))]))) ->
          v.depth ≤ Value.maxDepth := by
      intro v hv
      rw [List.mem_singleton.mp hv]
      decide
    rcases (tells_result hdata firstSession).1 hshallow with ⟨ls, hrun, htold, _⟩
    cases htold with
    | @value _ l hnull hlist hshows =>
        refine ⟨l, hrun, ?_⟩
        rcases hshows.reads with ⟨w, hread, hsame⟩
        rcases hsame.of_table with ⟨fs, rfl, _, hmembers⟩
        rcases hmembers ("e\n\"é😀", .int (-3)) (by simp) with ⟨v, hget, hv⟩
        refine ⟨fs, hread, ?_⟩
        rw [hget, hv.of_int]
  · have hdata : Outcome.IsOfData
        (.value (.list [.int 1, .nested Value.maxDepth, .int 2])) := by
      refine Value.Data.list fun v hv => ?_
      simp only [List.mem_cons, List.not_mem_nil, or_false] at hv
      rcases hv with rfl | rfl | rfl
      · exact .int (by decide)
      · exact .nested _
      · exact .int (by decide)
    have hshallow : forall u, u ∈ [Value.int 1] -> u.depth ≤ Value.maxDepth := by
      intro u hu
      rw [List.mem_singleton.mp hu]
      decide
    have hdeep : Value.maxDepth < (Value.nested Value.maxDepth).depth := by
      rw [Value.depth_nested]
      exact Nat.lt_succ_self _
    rcases (tells_result hdata firstSession).2 [.int 1] _ [.int 2] rfl hshallow hdeep with
      ⟨ls, hrun, hshows⟩
    cases hshows with
    | cons _ hrest =>
        cases hrest
        exact ⟨_, hrun⟩

end Shell
end EngineClient
