import EngineClient.Log.Level

/-!
# Words for thresholds

The table of capitals begins with the run of the Latin letters, so words in Latin letters are
put into upper case without the rest of it. Main statement: `thresholdOfWord_lower`.
-/

namespace EngineClient
namespace Text

theorem pieces_append {separator : Char} {as : List Char} (h : separator ∉ as) (bs : List Char) :
    pieces separator (as ++ separator :: bs) = as :: pieces separator bs := by
  induction as with
  | nil => simp [pieces]
  | cons a as ih =>
      rw [List.mem_cons, not_or] at h
      have hrest := ih h.2
      unfold pieces at hrest ⊢
      rw [List.cons_append, List.foldr_cons, hrest, if_neg (Ne.symm h.1)]

theorem rows_upperRuns : exists runs, rows upperRuns = [0x61, 0x7a, 1, 0x41] :: runs := by
  have hlisting : exists cs, upperRuns.toList = "61 7a 1 41".toList ++ ';' :: cs := by
    unfold upperRuns String.join
    simp only [List.foldl_cons, List.foldl_nil, String.toList_append]
    simp only [List.append_assoc]
    exact ⟨_, rfl⟩
  rcases hlisting with ⟨cs, hlisting⟩
  have hrun : numbers "61 7a 1 41".toList = [0x61, 0x7a, 1, 0x41] := by decide +kernel
  have hplain : ';' ∉ "61 7a 1 41".toList := by decide +kernel
  refine ⟨(pieces ';' cs).map numbers, ?_⟩
  rw [rows, hlisting, pieces_append hplain, List.map_cons, hrun]

theorem Mapping.apply_of_first_run {m : Mapping} {c : Char} {first last target : Nat}
    {runs : List (List Nat)} (hruns : m.runs = [first, last, 1, target] :: runs)
    (h : first ≤ c.toNat ∧ c.toNat ≤ last) :
    m.apply c = [Char.ofNat (target + (c.toNat - first))] := by
  unfold apply target?
  rw [hruns, List.findSome?_cons]
  simp [runTarget?, h, Nat.mod_one]

theorem Mapping.runs_ofListings (runs groups : String) :
    (ofListings runs groups).runs = rows runs :=
  rfl

theorem runs_upperMapping :
    exists runs, upperMapping.runs = [0x61, 0x7a, 1, 0x41] :: runs := by
  unfold upperMapping
  rw [Mapping.runs_ofListings]
  exact rows_upperRuns

theorem flatMap_upperMapping {cs : List Char} (h : forall c, c ∈ cs -> 'a' ≤ c ∧ c ≤ 'z') :
    cs.flatMap upperMapping.apply = cs.map fun c => Char.ofNat (0x41 + (c.toNat - 0x61)) := by
  rcases runs_upperMapping with ⟨runs, hruns⟩
  generalize upperMapping = m at hruns
  induction cs with
  | nil => rfl
  | cons c cs ih =>
      rw [List.flatMap_cons, List.map_cons]
      rw [Mapping.apply_of_first_run hruns (h c List.mem_cons_self)]
      rw [ih fun d hd => h d (List.mem_cons_of_mem _ hd)]
      rfl

theorem upper_of_letters {s : String} (h : forall c, c ∈ s.toList -> 'a' ≤ c ∧ c ≤ 'z') :
    upper s = String.ofList (s.toList.map fun c => Char.ofNat (0x41 + (c.toNat - 0x61))) :=
  congrArg String.ofList (flatMap_upperMapping h)

end Text

namespace Log

theorem thresholdOfWord_of_letters {s : String} {n : Int}
    (h : forall c, c ∈ s.toList -> 'a' ≤ c ∧ c ≤ 'z')
    (hlookup : thresholdWords.lookup
      (String.ofList (s.toList.map fun c => Char.ofNat (0x41 + (c.toNat - 0x61)))) = some n) :
    thresholdOfWord s = .ok n := by
  unfold thresholdOfWord
  rw [Text.upper_of_letters h, hlookup]

theorem thresholdOfWord_lower {word : String} {n : Int} (h : (word, n) ∈ thresholdWords) :
    thresholdOfWord (Text.lower word) = .ok n := by
  have hall : (thresholdWords.all fun e =>
      (Text.lower e.1).toList.all fun c => 'a' ≤ c && c ≤ 'z') = true := by
    decide +kernel
  have hlookups : (thresholdWords.all fun e =>
      thresholdWords.lookup (String.ofList ((Text.lower e.1).toList.map fun c =>
        Char.ofNat (0x41 + (c.toNat - 0x61)))) == some e.2) = true := by
    decide +kernel
  have hword := List.all_eq_true.mp hall (word, n) h
  have hlookup := List.all_eq_true.mp hlookups (word, n) h
  apply thresholdOfWord_of_letters
  · intro c hc
    have hletter := List.all_eq_true.mp hword c hc
    rwa [Bool.and_eq_true, decide_eq_true_iff, decide_eq_true_iff] at hletter
  · exact eq_of_beq hlookup

end Log
end EngineClient
