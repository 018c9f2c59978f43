import TagLint.Text.CodeTable
/-!
Decimal digits of all scripts. Each script has ten of them in a row, from zero to nine.
-/

namespace TagLint.Text

/-- The rows of ten decimal digits, those of ASCII first. -/
def digitRows : List (Nat × Nat) := rangesOf [
  "30+9 626+9 86+9 C6+9 19C+9 76+9 76+9 76+9 76+9 76+9 76+9 76+9 76+9 76+9 60+9 76+9 46+9 116+9",
  "46+9 746+9 26+9 12C+9 80+9 A6+9 6+9 B6+9 56+9 86+9 6+9 89C6+9 2A6+9 26+9 C6+9 16+9 56+9",
  "196+9 5316+9 586+9 886+9 32C+9 80+9 3C+9 90+9 116+9 156+9 76+9 176+9 66+9 66+9 1A6+9 66+9",
  "2F6+9 F6+9 46+9 4CB6+9 56+9 86+9 6C74+9 0+9 0+9 0+9 0+9 940+9 1A6+9 656+9 1296+9"]

/-- The value of a decimal digit of any script. -/
def digitValue? (c : Char) : Option Nat :=
  if c.toNat < 0x80 then (if c.isDigit then some (c.toNat - 48) else none)
  else
    (digitRows.find? fun r => r.1 ≤ c.toNat && c.toNat ≤ r.2).map fun r => c.toNat - r.1

end TagLint.Text
