import Registrar.Text.Property
/-!
# Word characters and digits

The sets of characters that patterns name by a letter, in full and restricted to ASCII.
-/
namespace Registrar.Text

/-- Letters, marks, decimal digits, connecting punctuation and the joiners. -/
def wordChars : CharSet :=
  (alphabetic.union (categories ["mn", "mc", "me", "nd", "pc"])).union (properties ["joinc"])

/-- The decimal digits of every script. -/
def decimalDigits : CharSet := categories ["nd"]

def asciiWordChars : CharSet := .ofRanges [(0x30, 0x39), (0x41, 0x5A), (0x5F, 0x5F), (0x61, 0x7A)]

def asciiDigits : CharSet := .ofRanges [(0x30, 0x39)]

def asciiBlanks : CharSet := .ofRanges [(0x9, 0xD), (0x20, 0x20)]

end Registrar.Text
