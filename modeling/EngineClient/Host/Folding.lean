import EngineClient.Host.Folding.Table
import EngineClient.Text.Listing

/-!
# Folding

Two spellings of a host name that look alike count as one. Each character is folded: a
capital becomes the small letter, a form of a letter the letter, and a letter with marks is
taken apart into the letter and its marks.
-/

namespace EngineClient
namespace Host

/-! ## Syllables -/

/-- The first syllable of the script that writes syllables as blocks of letters. -/
def firstSyllable : Nat := 0xAC00

def syllableCount : Nat := 11172

/-- The first leading consonant, vowel and, one before it, trailing consonant. -/
def firstLead : Nat := 0x1100
def firstVowel : Nat := 0x1161
def beforeTail : Nat := 0x11A7

def leadCount : Nat := 19
def vowelCount : Nat := 21

/-- The count of trailing consonants, none being one of them. -/
def tailCount : Nat := 28

def lettersOfSyllable (n : Nat) : List Char :=
  let i := n - firstSyllable
  let tail := i % tailCount
  Char.ofNat (firstLead + i / (vowelCount * tailCount)) ::
    Char.ofNat (firstVowel + i / tailCount % vowelCount) ::
      if tail = 0 then [] else [Char.ofNat (beforeTail + tail)]

/-! ## Characters -/

def foldMapping : Text.Mapping := .ofListings foldRuns foldGroups

def foldChar (c : Char) : List Char :=
  let n := c.toNat
  if firstSyllable ≤ n ∧ n < firstSyllable + syllableCount then lettersOfSyllable n
  else foldMapping.apply c

end Host
end EngineClient
