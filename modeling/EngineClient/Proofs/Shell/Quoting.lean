import EngineClient.Shell.Words
import Mathlib.Data.List.Basic

/-!
# Quoted words

A line of quoted words is split into those words, whatever characters they hold. The splitter
passes from mode to mode along a quoted word; between single quotes only the quote itself
leaves the mode.
-/

namespace EngineClient
namespace Shell

/-!
## Modes

What the splitter does with the characters that a quoted word is written with.
-/

theorem scan_endQuote (done cs : List Char) :
    scan .singleQuoted done ('\'' :: cs) = scan .word done cs :=
  rfl

theorem scan_quoted {c : Char} (hc : c ≠ '\'') (done cs : List Char) :
    scan .singleQuoted done (c :: cs) = scan .singleQuoted (c :: done) cs :=
  if_neg hc

theorem scan_quote (done cs : List Char) :
    scan .word done ('\'' :: cs) = scan .singleQuoted done cs :=
  rfl

theorem scan_firstQuote (done cs : List Char) :
    scan .between done ('\'' :: cs) = scan .singleQuoted [] cs :=
  rfl

theorem scan_space (done cs : List Char) :
    scan .word done (' ' :: cs) = (scan .between [] cs).map (done.reverse :: ·) :=
  rfl

theorem scan_doubleQuoted (done cs : List Char) :
    scan .word done ('"' :: '\'' :: '"' :: cs) = scan .word ('\'' :: done) cs :=
  rfl

theorem scan_end (done : List Char) : scan .word done [] = .ok [done.reverse] :=
  rfl

/-!
## Words
-/

theorem scan_quoteWordChar (c : Char) (done cs : List Char) :
    scan .singleQuoted done (quoteWordChar c ++ cs) = scan .singleQuoted (c :: done) cs := by
  by_cases hc : c = '\''
  · subst hc
    have hchars : quoteWordChar '\'' = ['\'', '"', '\'', '"', '\''] := rfl
    simp only [hchars, List.cons_append, List.nil_append]
    rw [scan_endQuote, scan_doubleQuoted, scan_quote]
  · have hchars : quoteWordChar c = [c] := if_neg hc
    rw [hchars, List.singleton_append, scan_quoted hc]

theorem scan_flatMap_quoteWordChar (w done cs : List Char) :
    scan .singleQuoted done (w.flatMap quoteWordChar ++ cs) =
      scan .singleQuoted (w.reverse ++ done) cs := by
  induction w generalizing done with
  | nil => rfl
  | cons c w ih =>
      rw [List.flatMap_cons, List.append_assoc, scan_quoteWordChar, ih, List.reverse_cons,
        List.append_assoc, List.singleton_append]

theorem scan_quoteWord (w cs : List Char) :
    scan .between [] (quoteWord w ++ cs) = scan .word w.reverse cs := by
  have hword : quoteWord w ++ cs = '\'' :: (w.flatMap quoteWordChar ++ '\'' :: cs) := by
    simp [quoteWord]
  rw [hword, scan_firstQuote, scan_flatMap_quoteWordChar, List.append_nil, scan_endQuote]

/-!
## Lines
-/

theorem scan_quoteWords (ws : List (List Char)) :
    scan .between [] (List.intercalate [' '] (ws.map quoteWord)) = .ok ws := by
  induction ws with
  | nil => rfl
  | cons w ws ih =>
      -- The last word ends with the line, every other one with a space.
      cases ws with
      | nil =>
          have hline : List.intercalate [' '] [quoteWord w] = quoteWord w ++ [] := by
            simp
          rw [List.map_singleton, hline, scan_quoteWord, scan_end, List.reverse_reverse]
      | cons v ws =>
          rw [List.map_cons, List.map_cons, List.intercalate_cons_cons, List.append_assoc,
            List.singleton_append, scan_quoteWord, scan_space, ← List.map_cons, ih,
            List.reverse_reverse]
          rfl

theorem split_quoteWords (ws : List String) : split (quoteWords ws) = .ok ws := by
  have hchars : (quoteWords ws).toList =
      List.intercalate [' '] ((ws.map String.toList).map quoteWord) := by
    rw [quoteWords, String.toList_ofList, List.map_map]
    rfl
  have hback : (ws.map String.toList).map String.ofList = ws := by
    simp
  rw [split, hchars, scan_quoteWords]
  exact congrArg Except.ok hback

/-- Nothing in a word is taken for the end of it. -/
example : split "'rename' 'it'\"'\"'s' '' 'a b\\'" = .ok ["rename", "it's", "", "a b\\"] := by
  rfl

end Shell
end EngineClient
