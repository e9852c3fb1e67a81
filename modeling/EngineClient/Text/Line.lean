/-!
# Lines

Text files may end a line with a carriage return, a line feed or both; a text read
from one holds line feeds only.
-/

namespace EngineClient
namespace Text

def unifyLineEnds : List Char → List Char
  | [] => []
  | '\r' :: '\n' :: cs => '\n' :: unifyLineEnds cs
  | '\r' :: cs => '\n' :: unifyLineEnds cs
  | c :: cs => c :: unifyLineEnds cs

theorem unifyLineEnds_of_not_mem {cs : List Char} (h : '\r' ∉ cs) : unifyLineEnds cs = cs := by
  induction cs with
  | nil => rfl
  | cons c cs ih =>
      have hc : c ≠ '\r' := fun heq => h (heq ▸ List.mem_cons_self)
      have hcs := ih fun hmem => h (List.mem_cons_of_mem c hmem)
      unfold unifyLineEnds
      split
      · rename_i heq
        cases heq
      · rename_i heq
        cases heq
        exact absurd rfl hc
      · rename_i heq
        cases heq
        exact absurd rfl hc
      · rename_i heq
        cases heq
        rw [hcs]

def splitLine : List Char → List Char × List Char
  | [] => ([], [])
  | c :: cs =>
      if c = '\n' then ([c], cs)
      else
        let (line, rest) := splitLine cs
        (c :: line, rest)

theorem splitLine_append (cs : List Char) : (splitLine cs).1 ++ (splitLine cs).2 = cs := by
  induction cs with
  | nil => rfl
  | cons c cs ih =>
      by_cases h : c = '\n'
      · simp [splitLine, h]
      · simp [splitLine, h, ih]

theorem splitLine_rest_lt (c : Char) (cs : List Char) :
    (splitLine (c :: cs)).2.length < (c :: cs).length := by
  have hjoin := congrArg List.length (splitLine_append (c :: cs))
  have hpos : 0 < (splitLine (c :: cs)).1.length := by
    by_cases h : c = '\n' <;> simp [splitLine, h]
  simp only [List.length_append] at hjoin
  omega

def lines : List Char → List (List Char)
  | [] => []
  | c :: cs => (splitLine (c :: cs)).1 :: lines (splitLine (c :: cs)).2
termination_by cs => cs.length
decreasing_by exact splitLine_rest_lt c cs

end Text
end EngineClient
