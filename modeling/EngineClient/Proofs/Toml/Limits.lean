import EngineClient.Toml.Document

/-!
# Arrays inside one another

Arrays are well formed however deep they nest, but they are read only as far as there is room
for them. Main statement: `read_arrays`.
-/

namespace EngineClient
namespace Toml

/-!
## Values
-/

def arrays : Nat → List Char → List Char
  | 0, cs => '[' :: ']' :: cs
  | n + 1, cs => '[' :: arrays n (']' :: cs)

theorem exists_arrays_eq_cons (n : Nat) (cs : List Char) :
    exists rest, arrays n cs = '[' :: rest := by
  cases n with
  | zero => exact ⟨_, rfl⟩
  | succ n => exact ⟨_, rfl⟩

theorem length_arrays (n : Nat) (cs : List Char) :
    (arrays n cs).length = 2 * (n + 1) + cs.length := by
  induction n generalizing cs with
  | zero =>
      simp only [arrays, List.length_cons]
      omega
  | succ n ih =>
      simp only [arrays, List.length_cons, ih]
      omega

theorem skipBetweenItems_bracket {c : Char} (hc : c = '[' ∨ c = ']') (budget : Nat)
    (cs : List Char) : skipBetweenItems budget (c :: cs) = .ok (c :: cs) := by
  cases budget with
  | zero => rfl
  | succ budget =>
      rcases hc with rfl | rfl
      · rfl
      · rfl

theorem readValue_arrays (n : Nat) {room budget : Nat} (hbudget : 2 * n < budget)
    (cs : List Char) :
    readValue budget room (arrays n cs) =
      if 2 * (n + 1) ≤ room then .ok (Value.nested n, cs) else .error .tooDeep := by
  -- The inner arrays have less budget and room, and a closing bracket behind them.
  induction n generalizing room budget cs with
  | zero =>
      obtain ⟨budget, rfl⟩ : exists b, budget = b + 1 := ⟨budget - 1, by omega⟩
      simp only [arrays, readValue, enter]
      split
      · rfl
      · rfl
  | succ n ih =>
      obtain ⟨budget, rfl⟩ : exists b, budget = b + 2 := ⟨budget - 2, by omega⟩
      have hitems : forall room, readItems (budget + 1) room (arrays n (']' :: cs)) =
          if 2 * (n + 1) ≤ room then .ok ([Value.nested n], cs) else .error .tooDeep := by
        intro room
        rw [readItems, ih (by omega)]
        split
        · simp only [bind, Except.bind, skipBetweenItems_bracket (Or.inr rfl)]
          rfl
        · rfl
      rcases exists_arrays_eq_cons n (']' :: cs) with ⟨rest, hrest⟩
      have hskip : skipBetweenItems (arrays n (']' :: cs)).length (arrays n (']' :: cs)) =
          .ok (arrays n (']' :: cs)) := by
        rw [hrest]
        exact skipBetweenItems_bracket (Or.inl rfl) _ _
      simp only [arrays, readValue, enter]
      by_cases hroom : 2 ≤ room
      · -- The outer array has its room, so the inner ones decide.
        rw [if_pos hroom]
        change (skipBetweenItems _ _ >>= _) = _
        rw [hskip]
        rw [hrest] at hitems ⊢
        change (readItems (budget + 1) (room - 2) ('[' :: rest) >>= _) = _
        rw [hitems]
        by_cases hinner : 2 * (n + 1) ≤ room - 2
        · rw [if_pos hinner, if_pos (by omega)]
          rfl
        · rw [if_neg hinner, if_neg (by omega)]
          rfl
      · rw [if_neg hroom, if_neg (by omega)]
        rfl

/-!
## Files
-/

def entryText (value : List Char) : List Char :=
  'a' :: '=' :: value

/-- A file with one entry is read if its value is, and with the same error if it is not. -/
theorem read_entryText {value : List Char} {r : Reading Value}
    (hspace : skipSpace value = value)
    (h : readValue (value.length + 1) maxRoom value = r.map fun v => (v, [])) :
    read (entryText value) = r.map fun v => [(.text "a", v)] := by
  have hpair : readPair (entryText value) = r.map fun v => (["a"], v, []) := by
    change (readValue ((skipSpace value).length + 1) maxRoom (skipSpace value) >>= _) = _
    rw [hspace, h]
    cases r with
    | ok v => rfl
    | error e => rfl
  change (Document.readLines _ _ _).map _ = _
  unfold Document.readLines
  change ((readPair (entryText value) >>= _) >>= _).map _ = _
  rw [hpair]
  cases r with
  | ok v => rfl
  | error e => rfl

theorem not_mem_arrays (n : Nat) (cs : List Char) (h : '\r' ∉ cs) : '\r' ∉ arrays n cs := by
  induction n generalizing cs with
  | zero => simp [arrays, h]
  | succ n ih =>
      have hrest := ih (']' :: cs) (by simp [h])
      simp [arrays, hrest]

/-- A file with arrays one inside the other is read iff there is room for them. -/
theorem read_arrays (n : Nat) :
    read (entryText (arrays n [])) =
      if 2 * (n + 1) ≤ maxRoom then .ok [(.text "a", Value.nested n)] else .error .tooDeep := by
  have hbudget : 2 * n < (arrays n []).length + 1 := by
    rw [length_arrays]
    omega
  have hspace : skipSpace (arrays n []) = arrays n [] := by
    rcases exists_arrays_eq_cons n [] with ⟨rest, hrest⟩
    rw [hrest]
    rfl
  have hvalue := @readValue_arrays n maxRoom _ hbudget []
  by_cases hroom : 2 * (n + 1) ≤ maxRoom
  · rw [if_pos hroom] at hvalue ⊢
    exact read_entryText (r := .ok (Value.nested n)) hspace hvalue
  · rw [if_neg hroom] at hvalue ⊢
    exact read_entryText (r := .error .tooDeep) hspace hvalue

end Toml
end EngineClient
