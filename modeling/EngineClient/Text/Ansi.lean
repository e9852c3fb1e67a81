/-!
# Terminal control sequences

Output that does not go to a terminal leaves out control sequences: an escape, a
bracket, parameters and a letter.
-/

namespace EngineClient
namespace Text

def isControlParameter (c : Char) : Bool :=
  c.isDigit || c == ';' || c == '?'

def afterControl? : List Char → Option (List Char)
  | c :: '[' :: cs =>
      if c.toNat = 0x1B then
        match cs.dropWhile isControlParameter with
        | letter :: rest => if letter.isAlpha then some rest else none
        | [] => none
      else none
  | _ => none

theorem length_afterControl?_lt {cs rest : List Char} (h : afterControl? cs = some rest) :
    rest.length < cs.length := by
  unfold afterControl? at h
  split at h
  · rename_i c cs
    split at h
    · split at h
      · rename_i letter tail hdrop
        split at h
        · cases h
          have := (List.dropWhile_suffix (l := cs) isControlParameter).length_le
          rw [hdrop] at this
          simp only [List.length_cons] at this ⊢
          omega
        · cases h
      · cases h
    · cases h
  · cases h

def withoutControls : List Char → List Char
  | [] => []
  | c :: cs =>
      match _h : afterControl? (c :: cs) with
      | some rest => withoutControls rest
      | none => c :: withoutControls cs
termination_by cs => cs.length
decreasing_by
  · exact length_afterControl?_lt _h
  · simp

end Text
end EngineClient
