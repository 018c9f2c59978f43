import TagLint.Text.CodeTable
/-!
Identifiers by the Unicode classes of characters that start and that continue one; the underscore
may start one too.
-/

namespace TagLint.Text

/-- The code points outside ASCII that start an identifier. -/
def identifierStarts : List (Nat × Nat) := rangesOf [
  "AA A 4 5+16 1+1E 1+1C9 4+B E+4 7 1 81+4 1+1 3+2 1 6 1+2 1 1+13 1+52 1+8A 8+A5 1+25 2 6+28",
  "47+1A 4+3 2D+2A 23+1 1+62 1 F+1 7+1 A+2 2 10 1+1D 1D+58 B 18+20 9+1 4 5+15 4 9 3 17+18 7+A",
  "5+17 1+5 11+29 3A+35 3 12 7+9 F+F 4+7 2+1 2+15 1+6 1 3+3 3 10 D+1 1+2 E+1 A 8+5 4+1 2+15 1+6",
  "1+1 1+1 1+1 1F+3 1 13+2 10+8 1+2 1+15 1+6 1+1 1+4 3 12 F+1 17 B+7 2+1 2+15 1+6 1+1 1+4 3",
  "1E+1 1+2 F 11 1+5 3+2 1+3 3+1 1 1+1 3+1 3+2 3+B 16 34+7 1+2 1+16 1+F 3 1A+2 2 2+1 1E 4+7 1+2",
  "1+16 1+9 1+4 3 1F+1 1+1 F+1 11+8 1+2 1+28 2 10 5+2 8+2 18+5 5+11 3+17 1+8 1 2+6 3A+2F 1 D+6",
  "3A+1 1 1+4 1+17 1 1+9 1 A 2+4 1 15+3 20 3F+7 1+23 1B+4 73+2A 14 10+5 4+3 3 3+1 7+2 4+C C",
  "11+25 1 5 2+2A 1+14C 1+3 2+6 1 1+3 2+28 1+3 2+20 1+3 2+6 1 1+3 2+E 1+38 1+3 2+42 25+F 10+55",
  "2+5 3+26B 2+10 1+19 5+4A 3+A 7+11 D+12 E+11 E+C 1+2 F+33 23 4 43+58 7+28 1 5+45 A+1E 31+1D",
  "2+4 B+2B 4+19 36+16 9+34 52 5D+2E 11+7 36+1D D+1 A+2B 1A+23 29+2 A+23 2+8 7+2A 2+2 29+3 1+5",
  "1+1 3 5+BF 40+115 2+5 2+25 2+5 2+7 1 1 1 1+1E 2+34 1+6 1 3+2 1+6 3+3 2+5 4+C 5+2 1+6 74 D",
  "10+C 65 4 2+9 1 2+5 6 1 1 1+F 2+3 5+4 4 11+28 A77+E4 6+3 3+1 C+25 1 5 2+37 7 10+16 9+6 1+6",
  "1+6 1+6 1+6 1+6 1+6 1+6 226+2 19+8 7+4 2+4 4+55 6+2 1+59 1+3 5+2A 1+5D 11+1F 30+F 200+19BF",
  "40+568C 43+2D 2+10C 3+F A+1 14+2E 10+1E 2+4F 27+8 2+66 2+3F 5+1 1 1+4 18+F 1+2 1+3 1+16",
  "1D+33 E+31 3E+5 3 1+1 B+1B A+16 19+1C 7+2E 1C 10+4 1+9 A+4 1+28 17+2 1+7 14+16 3 3+31 1 3+1",
  "2+4 2 1 18+2 2+A 7+2 C+5 2+5 2+5 9+6 1+6 1+2A 1+D 6+72 1D+2BA3 C+16 4+30 2104+16D 2+69 26+6",
  "C+4 5 1+9 1+C 1+4 1 1+1 1+1 1+6B 21+8A 6+D9 12+3F 2+35 28+9 77 1 3 1 1 1 1+7D 24+19 6+19",
  "B+37 2+1E 3+5 2+5 2+5 2+2 23+B 1+19 1+12 1+1 1+E 2+D 22+7A 45+34 10B+1C 3+30 2F+1F D+1D 5+25",
  "A+1D 2+23 4+7 1+4 2A+9D 12+23 4+23 4+27 8+33 C+A 1+E 1+6 1+1 1+A 1+E 1+6 1+1 43+136 9+15 A+7",
  "18+5 1+29 1+8 45+5 2 1+2B 1+1 3 2+16 A+16 9+1E 41+12 1+1 A+15 A+19 46+37 6+1 40 F+3 1+2 1+1C",
  "2A+1C 3+1C 23+7 1+1B 1B+35 A+15 A+12 D+11 6E+48 37+32 D+32 D+23 15C+29 6+1 4E+1C A 8+15",
  "2A+11 2E+14 1B+16 C+34 39+1 2 D+2C 20+18 1A+23 1D 2 8+22 3 C+2F E+3 15 1 23+11 1+18 54+6 1",
  "1+3 1+E 1+9 7+2E 26+7 2+1 2+15 1+6 1+1 1+4 3 12 C+4 9E+34 12+3 14+2 1E+2F 14+1 1 B8+2E 29+3",
  "24+2F 14 3B+2A D 47+1A 25+6 B9+2B 74+3F 1F+7 2 2+7 1+1 1+17 F 1 5E+7 2+26 10 1 1C A+27 7 15",
  "B+2D 13 12+48 107+8 1+24 11 31+1D 70+6 1+1 1+25 15 19+5 1+1 1+1F E 147+12 BD 4F+399 66+6E",
  "11+C3 A4C+60 F+42E FD1+246 21B9+238 7+1E 11+4E 11+1D 12+2F 10+3 1F+14 5+12 2B0+3F 80+4A 5",
  "42+C 40+1 1 1C+17F7 8+4D5 2A+8 22E7+3 1+6 1+1 1+122 2D+2 11+3 8+18B 904+6A 5+C 3+8 7+9",
  "1766+54 1+46 1+1 2 2+1 2+3 1+B 1 1+6 1+40 1+3 2+7 1+6 1+1B 1+3 1+4 1 3+6 1+153 2+18 1+18",
  "1+1E 1+18 1+1E 1+18 1+1E 1+18 1+1E 1+18 1+7 734+1E 1E1+2C A+6 10 141+1D 12+2B 4F4+6 1+3 1+1",
  "1+E 1+C4 3B+43 7 4B4+3 1+1A 1+1 1 2 1+9 1+3 1 1 6 4 1 1 1+2 1+1 1 2 1 1 1 1 1+1 1 2+3 1+6",
  "1+3 1+3 1 1+9 1+10 5+2 1+4 1+10 1144+A6DF 20+1038 7+DD 2+1681 E+1D30 C1F+21D 5E2+134A"]

/-- The code points outside ASCII that continue an identifier without starting one. -/
def identifierMarks : List (Nat × Nat) := rangesOf [
  "B7 248+6F 17 FB+4 109+2C 1 1+1 1+1 1 48+A 30+1E 6 65+6 2+5 2+1 1+3 2+9 17 1E+1A 5B+A F+9",
  "21+8 9 18+3 1+8 1+2 1+4 2B+2 3C+7 2A+17 1+20 36+2 1+11 1+6 A+1 2+9 11+2 38 1+6 2+1 2+2 9 A+1",
  "2+9 E 2+2 38 1+4 4+1 2+2 3 14+B 3 B+2 38 1+7 1+2 1+2 14+1 2+9 A+5 1+2 38 1+6 2+1 2+2 7+2 A+1",
  "2+9 12 3B+4 3+2 1+3 9 E+9 10+4 37 1+6 1+2 1+3 7+1 B+1 2+9 11+2 38 1+6 1+2 1+3 7+1 B+1 2+9",
  "10+3 37+1 1+6 1+2 1+3 9 A+1 2+9 11+2 46 4+5 1 1+7 6+9 2+1 3D 1+7 C+7 1+9 57 1+9 B+5 2+9 3E+1",
  "6+9 B 1 1 4+1 31+13 1+1 5+A 1+23 9 64+13 1+9 C+3 4+2 1+2 2+6 3+3 D+B 1+E 2BF+2 9+8 3A0+3",
  "1C+2 1D+1 1E+1 40+1F 9 2+9 21+2 1+A 8F 76+B 4+B A+9 80+A 3C+4 39+9 1+1C 2+A 6+9 16+D 1+F",
  "31+4 2F+10 B+9 11+8 C+2 1E+C 2+9 2C+D 30+13 8+9 6+9 76+2 1+14 4 6 2+2 C6+3F 23F+1 13 7B+C 4",
  "3+B BFE+2 8D 60+1F 22A+5 69+1 7585+9 45 4+9 20+1 50+1 110 3 4 17+4 4 53+1 32+11 A+9 6+11 D+A",
  "1C+7 19+C 2C+3 2F+D F+9 B A+9 2F+D C 8+1 2+9 21+2 32 1+2 2+1 5+1 1 29+4 5+1 EC+7 1+1 2+9",
  "4F24 2E1+F 10+F 3+1 18+2 C0+9 25 5E+1 25D E2 95+4 125+9 557+2 1+1 5+3 28+2 4 A5+1 23D+3 8+9",
  "171+1 99+A 31+3 7A+2 35+E 1F+A 2+1 A+3 2D+A 7 2D+9 6+2 24+D 1+9 5+1 2C C+2 30+D 8+3 1+B 52+B",
  "6 A0+B 5+9 6+3 37+1 1+6 2+1 2+2 9 A+1 2+6 3+4 C0+11 9+9 4 51+13 C+9 D5+6 2+8 1B+1 52+10 F+9",
  "51+C 8+9 53+E 4+9 F2+E A5+9 46+5 1+1 2+3 1 1+1 C+9 77+6 2+6 3 1C+9 28+6 1+3 8 9+A 2E+F 195+7",
  "1+7 10+9 38+15 1+D 7A+5 3 1+1 1+6 1 8+9 30+4 1+1 1+4 8+9 149+3 4B69+9 56+9 26+4 3B+6 19+9",
  "3F5 1+36 7+3 51 B+1 4CAB+1 1261+2D 2+16 21E+4 3+5 8+7 2+6 1E+3 94+2 589+31 200+36 4+31 8 E",
  "16+4 1+E 550+6 1+10 2+6 1+1 1+4 105+6 9+9 164 3D+D 5D6+6 6D+6 5+9 1296+9 C0506+EF"]

/-- Whether a character may start an identifier. -/
def startsIdentifier (c : Char) : Bool :=
  if c.toNat < 0x80 then c.isAlpha || c == '_' else inRanges identifierStarts c.toNat

/-- Whether a character may stand in an identifier after the first one. -/
def continuesIdentifier (c : Char) : Bool :=
  if c.toNat < 0x80 then c.isAlphanum || c == '_'
  else inRanges identifierStarts c.toNat || inRanges identifierMarks c.toNat

/-- Whether a text is an identifier. -/
def isIdentifier : Text → Bool
  | [] => false
  | c :: r => startsIdentifier c && r.all continuesIdentifier

end TagLint.Text
