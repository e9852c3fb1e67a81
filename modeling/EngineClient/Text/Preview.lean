import EngineClient.Text.Utf8

/-!
# Shortened texts

Two ways to shorten a text that is too long for its place: by characters, with the
head kept, and by octets, with both ends kept. What was left out is marked by three
dots. Main statement: `shorten` keeps its bound.
-/

namespace EngineClient
namespace Text

def ellipsis : List Char := ['.', '.', '.']

/-! ## By characters -/

/-- A text of at most `limit` characters: a longer one loses its end. -/
def shorten (limit : Nat) (cs : List Char) : List Char :=
  if cs.length ≤ limit then cs else cs.take (limit - ellipsis.length) ++ ellipsis

theorem length_shorten_le {limit : Nat} (h : ellipsis.length ≤ limit) (cs : List Char) :
    (shorten limit cs).length ≤ limit := by
  unfold shorten
  split
  · assumption
  · simp only [List.length_append, List.length_take]
    omega

theorem shorten_of_le {limit : Nat} {cs : List Char} (h : cs.length ≤ limit) :
    shorten limit cs = cs := by
  simp [shorten, h]

/-! ## By octets -/

/-- The longest head of a text that takes at most `budget` octets. -/
def takeOctets (budget : Nat) : List Char → List Char
  | [] => []
  | c :: cs =>
      if Utf8.size [c] ≤ budget then c :: takeOctets (budget - Utf8.size [c]) cs else []

/-- The longest end of a text that takes at most `budget` octets. -/
def takeLastOctets (budget : Nat) (cs : List Char) : List Char :=
  (takeOctets budget cs.reverse).reverse

/-- A text of at most fifty octets: a longer one keeps its two ends. -/
def preview (cs : List Char) : List Char :=
  if Utf8.size cs ≤ 50 then cs
  else takeOctets 25 cs ++ ellipsis ++ takeLastOctets 24 cs

end Text
end EngineClient
