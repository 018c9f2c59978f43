import TagLint.Text.CodeTable
/-!
Printable characters: all but control and format characters, separators other than the space,
private and unassigned code points.
-/

namespace TagLint.Text

/-- The code points that are not printable. -/
def unprintable : List (Nat × Nat) := rangesOf [
  "0+1F 5F+21 C 2CA+1 6+3 7 1 14 18D 26+1 32+1 3 37+7 1B+3 6+10 16 C0 30+1 3B+1 65+D 3B+1 31+1",
  "F 1C+1 1 B+4 1F+8 4A A1 8+1 2+1 16 7 1+2 4+1 9+1 2+1 4+7 1+3 2 5+1 19+1 3 6+3 2+1 16 7 2 2",
  "2+1 1 5+3 2+1 3+2 1+6 4 1+6 11+9 3 9 3 16 7 2 5+1 A 3 3+1 1+E 4+1 C+6 7 3 8+1 2+1 16 7 2 5+1",
  "9+1 2+1 3+6 3+3 2 5+1 12+9 2 6+2 3 4+2 2 1 2+2 2+2 3+2 C+3 5+2 3 4+1 1+5 1+D 15+4 D 3 17",
  "10+1 9 3 4+6 2 3+1 1+1 4+1 A+6 16 3 17 A 5+1 9 3 4+6 2+5 2 4+1 A 2+C D 3 33 3 6+3 10+1 1A 3",
  "12+2 18 9 1+1 7+2 1+3 6 1 8+5 A+1 3+B 3A+3 1D+24 2 1 5 18 1 17+1 5 1 6+1 A+1 4+1F 48 24+3 27",
  "24 F D+24 C6 1+4 1+1 179 4+1 7 1 4+1 29 4+1 21 4+1 7 1 4+1 F 39 4+1 43+1 20+2 1A+5 56+1 6+1",
  "280 1C+2 59+6 16+8 18+8 14+B D 3 2+B 5E+1 A+5 A+5 E B+5 59+6 2B+4 46+9 1F C+3 C+3 1+2 2A+1",
  "5+A 2C+3 1A+5 B+2 3E+1 41 1D+1 B+5 A+5 E+1 1F+30 4D+2 2F 74+7 3C+2 F+2 3C+6 2B+1 B+7 2B+4",
  "216+1 6+1 26+1 6+1 8 1 1 1 1F+1 35 F E+1 6 13+1 3 9+10 18+7 2F+10 2+1 1B D+2 21+E 21+E 8C+3",
  "297+18 B+14 714+1 20 15D+4 2D 1+4 1+1 38+6 2+D 18+8 7 7 7 7 7 7 7 7 7E+21 1A 59+B D6+19 C+4",
  "3F 56+1 67+4 2B 5E 54+B 2F 726D+2 37+8 15C+13 B8+7 CB+4 2 1 5+17 3B+2 A+5 38+7 46+7 C+5 74+A",
  "1E+2 4E B+3 21 37+8 E+1 A+1 67+17 1C+9 6+1 6+1 6+8 7 7 3C+3 7E+1 A+5 2BA4+B 17+3 31+3",
  "800+18FF 16E+1 6A+25 7+B 5+4 1A 5 1 2 2 7D+F 1BD+1 36+6 1+1F 2A+5 33 13 4+3 5 87+3 BE+2 6+1",
  "6+1 6+1 3+2 7 7+C 2+1 C 1A 13 2 F+1 E+21 7B+4 3+3 2D+2 58 D+2 1+2E 2E+81 1D+2 31+E 1C+3 24+8",
  "1E+4 2B+4 1E 25+3 E+29 9E+1 A+5 24+3 24+3 28+7 34+A C F 7 2 B F 7 2+42 137+8 16+9 8+17 6 2A",
  "9+44 6+1 1 2C 2+2 1+1 17 48+7 9+2F 13 2+4 21+2 1B+4 1+3F 38+3 14+1 32 2+4 8 3 1D+1 3+3 A+6",
  "9+6 40+1F 27+3 C+8 36+2 1D+1 1B+4 1A+6 4+B 7+4F 49+36 33+C 33+6 2E+7 A+125 1F 2A 3+1 2+4D",
  "28+7 2A+15 1A+25 1C+13 17+8 4E+3 24+8 3E 5+C 19+6 A+5 35 12+7 27+8 60 14+A 12 2C+40 7 1 4 F",
  "B+5 3B+4 A+5 4 8+1 2+1 16 7 2 5 A+1 2+1 3+1 1+5 1+4 7+1 7+2 5+8A 5C 5+1D 48+7 A+A5 36+1",
  "26+21 45+A A+5 D+12 3A+5 A+35 1B+1 F+3 17+B8 3C+63 53+B 8+1 1+1 8 2 1E 2+1 C+8 A+45 8+1 2E+1",
  "B+1A 48+7 53+C 49+106 9 2D E+9 1D+2 20+1 16 E+48 7 2 2C+2 1 2 9+7 A+5 6 2 25 2 6+6 A+135",
  "19+B6 1+E 32+C 39B+65 6F 5+A C4+A4B 63+C 42F+FD0 247+21B8 239+6 1F A+3 51 A+5 1E+1 6+9 46+9",
  "A 7 15+4 13+2AF 5B+64 4B+3 39+6 11+3F 5+A 2+D 17F8+7 4D6+29 9+22E6 4 7 2 123+2C 3+10 4+7",
  "18C+903 6B+4 D+2 9+6 A+1 4+125F 2E+1 17+8 74+3B F6+9 27+1 4A+7 70+14 46+99 14+B 57+8 19+86",
  "55 47 2+1 1+1 2+1 4 C 1 7 41 4+1 8 7 1C 4 5 1+2 7 154+1 124+1 2BE+E 5 F+44F 1F+E0 7 11+1 7 2",
  "5+D4 2D+2 E+1 A+3 2+13F 1F+10 3A+4 1+4DF 7 4 2 F C5+1 10+28 4C+3 A+3 2+310 44+4B 3D+C1 4 1B",
  "2 1+1 1 A 4 1 1+5 1+3 1 1 1 3 2 1+1 1 1 1 1 1 2 1+1 4 7 4 4 1 A 11+4 3 5 11+33 2+10D 2C+3",
  "64+B F+1 F F 25+9 AE+37 1D+C 2C+3 9+6 2+D 6+99 3D8+4 10+2 D+2 74+B 59+6 C+3 1+E C+3 38+7 A+5",
  "28+7 1E+1 2+4D 154+B E+1 5+2 5+2 7+8 1D+2 B+4 6+9 A+5 8+7 7+8 93 37+24 A+405 A6E0+1F 1039+6",
  "DE+1 1682+D 1D31+C1E 21E+5E1 134B+AEDB4 F0+2FE0F"]

/-- Whether a character shows itself when it is printed. -/
def isPrintable (c : Char) : Bool :=
  if c.toNat < 0x80 then 0x20 ≤ c.toNat && c.toNat < 0x7F else !inRanges unprintable c.toNat

end TagLint.Text
