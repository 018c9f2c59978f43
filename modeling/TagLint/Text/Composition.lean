import TagLint.Text.CodeTable
/-!
Data of the compatibility forms: which characters are composed of which two, which characters that
may stand in an identifier have another compatibility decomposition, and the combining classes. A
word is a range as in any code table, an angle bracket, and what the range is mapped to.
-/

namespace TagLint.Text

/-- Ranges of code points with what the first one of each is mapped to. -/
def mappingFrom (next : Nat) : List Text → List (Nat × Nat × List Nat)
  | [] => []
  | w :: ws =>
    let (range, target) := cutAtFirst '>' w
    let (gap, more) := cutAtFirst '+' range
    let first := next + ofHex gap
    let last := first + ofHex more
    (first, last, (splitAtEach (· == '.') target).map ofHex) :: mappingFrom (last + 1) ws

/-- The mapping that rows of words stand for. -/
def mappingOf (rows : List String) : List (Nat × Nat × List Nat) := mappingFrom 0 (rowWords rows)

/-- The entry whose range holds a code point. -/
def entryOf? (mapping : List (Nat × Nat × List Nat)) (n : Nat) : Option (Nat × Nat × List Nat) :=
  mapping.find? fun e => e.1 ≤ n && n ≤ e.2.1

/-- The characters composed of two others. -/
@[irreducible]
def compositions : List (Nat × Nat × List Nat) := mappingOf [
  "C0>41.300 0>41.301 0>41.302 0>41.303 0>41.308 0>41.30A 1>43.327 0>45.300 0>45.301 0>45.302",
  "0>45.308 0>49.300 0>49.301 0>49.302 0>49.308 1>4E.303 0>4F.300 0>4F.301 0>4F.302 0>4F.303",
  "0>4F.308 2>55.300 0>55.301 0>55.302 0>55.308 0>59.301 2>61.300 0>61.301 0>61.302 0>61.303",
  "0>61.308 0>61.30A 1>63.327 0>65.300 0>65.301 0>65.302 0>65.308 0>69.300 0>69.301 0>69.302",
  "0>69.308 1>6E.303 0>6F.300 0>6F.301 0>6F.302 0>6F.303 0>6F.308 2>75.300 0>75.301 0>75.302",
  "0>75.308 0>79.301 1>79.308 0>41.304 0>61.304 0>41.306 0>61.306 0>41.328 0>61.328 0>43.301",
  "0>63.301 0>43.302 0>63.302 0>43.307 0>63.307 0>43.30C 0>63.30C 0>44.30C 0>64.30C 2>45.304",
  "0>65.304 0>45.306 0>65.306 0>45.307 0>65.307 0>45.328 0>65.328 0>45.30C 0>65.30C 0>47.302",
  "0>67.302 0>47.306 0>67.306 0>47.307 0>67.307 0>47.327 0>67.327 0>48.302 0>68.302 2>49.303",
  "0>69.303 0>49.304 0>69.304 0>49.306 0>69.306 0>49.328 0>69.328 0>49.307 3>4A.302 0>6A.302",
  "0>4B.327 0>6B.327 1>4C.301 0>6C.301 0>4C.327 0>6C.327 0>4C.30C 0>6C.30C 4>4E.301 0>6E.301",
  "0>4E.327 0>6E.327 0>4E.30C 0>6E.30C 3>4F.304 0>6F.304 0>4F.306 0>6F.306 0>4F.30B 0>6F.30B",
  "2>52.301 0>72.301 0>52.327 0>72.327 0>52.30C 0>72.30C 0>53.301 0>73.301 0>53.302 0>73.302",
  "0>53.327 0>73.327 0>53.30C 0>73.30C 0>54.327 0>74.327 0>54.30C 0>74.30C 2>55.303 0>75.303",
  "0>55.304 0>75.304 0>55.306 0>75.306 0>55.30A 0>75.30A 0>55.30B 0>75.30B 0>55.328 0>75.328",
  "0>57.302 0>77.302 0>59.302 0>79.302 0>59.308 0>5A.301 0>7A.301 0>5A.307 0>7A.307 0>5A.30C",
  "0>7A.30C 21>4F.31B 0>6F.31B D>55.31B 0>75.31B 1C>41.30C 0>61.30C 0>49.30C 0>69.30C 0>4F.30C",
  "0>6F.30C 0>55.30C 0>75.30C 0>DC.304 0>FC.304 0>DC.301 0>FC.301 0>DC.30C 0>FC.30C 0>DC.300",
  "0>FC.300 1>C4.304 0>E4.304 0>226.304 0>227.304 0>C6.304 0>E6.304 2>47.30C 0>67.30C 0>4B.30C",
  "0>6B.30C 0>4F.328 0>6F.328 0>1EA.304 0>1EB.304 0>1B7.30C 0>292.30C 0>6A.30C 3>47.301",
  "0>67.301 2>4E.300 0>6E.300 0>C5.301 0>E5.301 0>C6.301 0>E6.301 0>D8.301 0>F8.301 0>41.30F",
  "0>61.30F 0>41.311 0>61.311 0>45.30F 0>65.30F 0>45.311 0>65.311 0>49.30F 0>69.30F 0>49.311",
  "0>69.311 0>4F.30F 0>6F.30F 0>4F.311 0>6F.311 0>52.30F 0>72.30F 0>52.311 0>72.311 0>55.30F",
  "0>75.30F 0>55.311 0>75.311 0>53.326 0>73.326 0>54.326 0>74.326 2>48.30C 0>68.30C 6>41.307",
  "0>61.307 0>45.327 0>65.327 0>D6.304 0>F6.304 0>D5.304 0>F5.304 0>4F.307 0>6F.307 0>22E.304",
  "0>22F.304 0>59.304 0>79.304 151>A8.301 0>391.301 1>395.301 0>397.301 0>399.301 1>39F.301",
  "1>3A5.301 0>3A9.301 0>3CA.301 19>399.308 0>3A5.308 0>3B1.301 0>3B5.301 0>3B7.301 0>3B9.301",
  "0>3CB.301 19>3B9.308 0>3C5.308 0>3BF.301 0>3C5.301 0>3C9.301 4>3D2.301 0>3D2.308 2B>415.300",
  "0>415.308 1>413.301 3>406.308 4>41A.301 0>418.300 0>423.306 A>418.306 1F>438.306 16>435.300",
  "0>435.308 1>433.301 3>456.308 4>43A.301 0>438.300 0>443.306 17>474.30F 0>475.30F 49>416.306",
  "0>436.306 D>410.306 0>430.306 0>410.308 0>430.308 2>415.306 0>435.306 2>4D8.308 0>4D9.308",
  "0>416.308 0>436.308 0>417.308 0>437.308 2>418.304 0>438.304 0>418.308 0>438.308 0>41E.308",
  "0>43E.308 2>4E8.308 0>4E9.308 0>42D.308 0>44D.308 0>423.304 0>443.304 0>423.308 0>443.308",
  "0>423.30B 0>443.30B 0>427.308 0>447.308 2>42B.308 0>44B.308 128>627.653 0>627.654 0>648.654",
  "0>627.655 0>64A.654 99>6D5.654 1>6C1.654 10>6D2.654 255>928.93C 7>930.93C 2>933.93C",
  "96>9C7.9BE 0>9C7.9D7 17B>B47.B56 2>B47.B3E 0>B47.B57 47>B92.BD7 35>BC6.BBE 0>BC7.BBE",
  "0>BC6.BD7 7B>C46.C56 77>CBF.CD5 6>CC6.CD5 0>CC6.CD6 1>CC6.CC2 0>CCA.CD5 7E>D46.D3E 0>D47.D3E",
  "0>D46.D57 8D>DD9.DCA 1>DD9.DCF 0>DDC.DCA 0>DD9.DDF 247>1025.102E ADF>1B05.1B35 1>1B07.1B35",
  "1>1B09.1B35 1>1B0B.1B35 1>1B0D.1B35 3>1B11.1B35 28>1B3A.1B35 1>1B3C.1B35 2>1B3E.1B35",
  "0>1B3F.1B35 1>1B42.1B35 2BC>41.325 0>61.325 0>42.307 0>62.307 0>42.323 0>62.323 0>42.331",
  "0>62.331 0>C7.301 0>E7.301 0>44.307 0>64.307 0>44.323 0>64.323 0>44.331 0>64.331 0>44.327",
  "0>64.327 0>44.32D 0>64.32D 0>112.300 0>113.300 0>112.301 0>113.301 0>45.32D 0>65.32D",
  "0>45.330 0>65.330 0>228.306 0>229.306 0>46.307 0>66.307 0>47.304 0>67.304 0>48.307 0>68.307",
  "0>48.323 0>68.323 0>48.308 0>68.308 0>48.327 0>68.327 0>48.32E 0>68.32E 0>49.330 0>69.330",
  "0>CF.301 0>EF.301 0>4B.301 0>6B.301 0>4B.323 0>6B.323 0>4B.331 0>6B.331 0>4C.323 0>6C.323",
  "0>1E36.304 0>1E37.304 0>4C.331 0>6C.331 0>4C.32D 0>6C.32D 0>4D.301 0>6D.301 0>4D.307",
  "0>6D.307 0>4D.323 0>6D.323 0>4E.307 0>6E.307 0>4E.323 0>6E.323 0>4E.331 0>6E.331 0>4E.32D",
  "0>6E.32D 0>D5.301 0>F5.301 0>D5.308 0>F5.308 0>14C.300 0>14D.300 0>14C.301 0>14D.301",
  "0>50.301 0>70.301 0>50.307 0>70.307 0>52.307 0>72.307 0>52.323 0>72.323 0>1E5A.304",
  "0>1E5B.304 0>52.331 0>72.331 0>53.307 0>73.307 0>53.323 0>73.323 0>15A.307 0>15B.307",
  "0>160.307 0>161.307 0>1E62.307 0>1E63.307 0>54.307 0>74.307 0>54.323 0>74.323 0>54.331",
  "0>74.331 0>54.32D 0>74.32D 0>55.324 0>75.324 0>55.330 0>75.330 0>55.32D 0>75.32D 0>168.301",
  "0>169.301 0>16A.308 0>16B.308 0>56.303 0>76.303 0>56.323 0>76.323 0>57.300 0>77.300 0>57.301",
  "0>77.301 0>57.308 0>77.308 0>57.307 0>77.307 0>57.323 0>77.323 0>58.307 0>78.307 0>58.308",
  "0>78.308 0>59.307 0>79.307 0>5A.302 0>7A.302 0>5A.323 0>7A.323 0>5A.331 0>7A.331 0>68.331",
  "0>74.308 0>77.30A 0>79.30A 1>17F.307 4>41.323 0>61.323 0>41.309 0>61.309 0>C2.301 0>E2.301",
  "0>C2.300 0>E2.300 0>C2.309 0>E2.309 0>C2.303 0>E2.303 0>1EA0.302 0>1EA1.302 0>102.301",
  "0>103.301 0>102.300 0>103.300 0>102.309 0>103.309 0>102.303 0>103.303 0>1EA0.306 0>1EA1.306",
  "0>45.323 0>65.323 0>45.309 0>65.309 0>45.303 0>65.303 0>CA.301 0>EA.301 0>CA.300 0>EA.300",
  "0>CA.309 0>EA.309 0>CA.303 0>EA.303 0>1EB8.302 0>1EB9.302 0>49.309 0>69.309 0>49.323",
  "0>69.323 0>4F.323 0>6F.323 0>4F.309 0>6F.309 0>D4.301 0>F4.301 0>D4.300 0>F4.300 0>D4.309",
  "0>F4.309 0>D4.303 0>F4.303 0>1ECC.302 0>1ECD.302 0>1A0.301 0>1A1.301 0>1A0.300 0>1A1.300",
  "0>1A0.309 0>1A1.309 0>1A0.303 0>1A1.303 0>1A0.323 0>1A1.323 0>55.323 0>75.323 0>55.309",
  "0>75.309 0>1AF.301 0>1B0.301 0>1AF.300 0>1B0.300 0>1AF.309 0>1B0.309 0>1AF.303 0>1B0.303",
  "0>1AF.323 0>1B0.323 0>59.300 0>79.300 0>59.323 0>79.323 0>59.309 0>79.309 0>59.303 0>79.303",
  "6>3B1.313 0>3B1.314 0>1F00.300 0>1F01.300 0>1F00.301 0>1F01.301 0>1F00.342 0>1F01.342",
  "0>391.313 0>391.314 0>1F08.300 0>1F09.300 0>1F08.301 0>1F09.301 0>1F08.342 0>1F09.342",
  "0>3B5.313 0>3B5.314 0>1F10.300 0>1F11.300 0>1F10.301 0>1F11.301 2>395.313 0>395.314",
  "0>1F18.300 0>1F19.300 0>1F18.301 0>1F19.301 2>3B7.313 0>3B7.314 0>1F20.300 0>1F21.300",
  "0>1F20.301 0>1F21.301 0>1F20.342 0>1F21.342 0>397.313 0>397.314 0>1F28.300 0>1F29.300",
  "0>1F28.301 0>1F29.301 0>1F28.342 0>1F29.342 0>3B9.313 0>3B9.314 0>1F30.300 0>1F31.300",
  "0>1F30.301 0>1F31.301 0>1F30.342 0>1F31.342 0>399.313 0>399.314 0>1F38.300 0>1F39.300",
  "0>1F38.301 0>1F39.301 0>1F38.342 0>1F39.342 0>3BF.313 0>3BF.314 0>1F40.300 0>1F41.300",
  "0>1F40.301 0>1F41.301 2>39F.313 0>39F.314 0>1F48.300 0>1F49.300 0>1F48.301 0>1F49.301",
  "2>3C5.313 0>3C5.314 0>1F50.300 0>1F51.300 0>1F50.301 0>1F51.301 0>1F50.342 0>1F51.342",
  "1>3A5.314 1>1F59.300 1>1F59.301 1>1F59.342 0>3C9.313 0>3C9.314 0>1F60.300 0>1F61.300",
  "0>1F60.301 0>1F61.301 0>1F60.342 0>1F61.342 0>3A9.313 0>3A9.314 0>1F68.300 0>1F69.300",
  "0>1F68.301 0>1F69.301 0>1F68.342 0>1F69.342 0>3B1.300 1>3B5.300 1>3B7.300 1>3B9.300",
  "1>3BF.300 1>3C5.300 1>3C9.300 3>1F00.345 0>1F01.345 0>1F02.345 0>1F03.345 0>1F04.345",
  "0>1F05.345 0>1F06.345 0>1F07.345 0>1F08.345 0>1F09.345 0>1F0A.345 0>1F0B.345 0>1F0C.345",
  "0>1F0D.345 0>1F0E.345 0>1F0F.345 0>1F20.345 0>1F21.345 0>1F22.345 0>1F23.345 0>1F24.345",
  "0>1F25.345 0>1F26.345 0>1F27.345 0>1F28.345 0>1F29.345 0>1F2A.345 0>1F2B.345 0>1F2C.345",
  "0>1F2D.345 0>1F2E.345 0>1F2F.345 0>1F60.345 0>1F61.345 0>1F62.345 0>1F63.345 0>1F64.345",
  "0>1F65.345 0>1F66.345 0>1F67.345 0>1F68.345 0>1F69.345 0>1F6A.345 0>1F6B.345 0>1F6C.345",
  "0>1F6D.345 0>1F6E.345 0>1F6F.345 0>3B1.306 0>3B1.304 0>1F70.345 0>3B1.345 0>3AC.345",
  "1>3B1.342 0>1FB6.345 0>391.306 0>391.304 0>391.300 1>391.345 4>A8.342 0>1F74.345 0>3B7.345",
  "0>3AE.345 1>3B7.342 0>1FC6.345 0>395.300 1>397.300 1>397.345 0>1FBF.300 0>1FBF.301",
  "0>1FBF.342 0>3B9.306 0>3B9.304 0>3CA.300 3>3B9.342 0>3CA.342 0>399.306 0>399.304 0>399.300",
  "2>1FFE.300 0>1FFE.301 0>1FFE.342 0>3C5.306 0>3C5.304 0>3CB.300 1>3C1.313 0>3C1.314 0>3C5.342",
  "0>3CB.342 0>3A5.306 0>3A5.304 0>3A5.300 1>3A1.314 0>A8.300 4>1F7C.345 0>3C9.345 0>3CE.345",
  "1>3C9.342 0>1FF6.345 0>39F.300 1>3A9.300 1>3A9.345 19D>2190.338 0>2192.338 12>2194.338",
  "1E>21D0.338 0>21D4.338 0>21D2.338 34>2203.338 4>2208.338 2>220B.338 17>2223.338 1>2225.338",
  "1A>223C.338 2>2243.338 2>2245.338 1>2248.338 16>3D.338 1>2261.338 A>224D.338 0>3C.338",
  "0>3E.338 0>2264.338 0>2265.338 2>2272.338 0>2273.338 2>2276.338 0>2277.338 6>227A.338",
  "0>227B.338 2>2282.338 0>2283.338 2>2286.338 0>2287.338 22>22A2.338 0>22A8.338 0>22A9.338",
  "0>22AB.338 30>227C.338 0>227D.338 0>2291.338 0>2292.338 6>22B2.338 0>22B3.338 0>22B4.338",
  "0>22B5.338 D5E>304B.3099 1>304D.3099 1>304F.3099 1>3051.3099 1>3053.3099 1>3055.3099",
  "1>3057.3099 1>3059.3099 1>305B.3099 1>305D.3099 1>305F.3099 1>3061.3099 2>3064.3099",
  "1>3066.3099 1>3068.3099 6>306F.3099 0>306F.309A 1>3072.3099 0>3072.309A 1>3075.3099",
  "0>3075.309A 1>3078.3099 0>3078.309A 1>307B.3099 0>307B.309A 16>3046.3099 9>309D.3099",
  "D>30AB.3099 1>30AD.3099 1>30AF.3099 1>30B1.3099 1>30B3.3099 1>30B5.3099 1>30B7.3099",
  "1>30B9.3099 1>30BB.3099 1>30BD.3099 1>30BF.3099 1>30C1.3099 2>30C4.3099 1>30C6.3099",
  "1>30C8.3099 6>30CF.3099 0>30CF.309A 1>30D2.3099 0>30D2.309A 1>30D5.3099 0>30D5.309A",
  "1>30D8.3099 0>30D8.309A 1>30DB.3099 0>30DB.309A 16>30A6.3099 2>30EF.3099 0>30F0.3099",
  "0>30F1.3099 0>30F2.3099 3>30FD.3099 DF9B>11099.110BA 1>1109B.110BA E>110A5.110BA",
  "82>11131.11127 0>11132.11127 21B>11347.1133E 0>11347.11357 16E>114B9.114BA 0>114B9.114B0",
  "1>114B9.114BD FB>115B8.115AF 0>115B9.115AF 37C>11935.11930"]

/-- The full compatibility decompositions of other characters of identifiers; the members of a
longer range are mapped to consecutive code points. -/
@[irreducible]
def decompositions : List (Nat × Nat × List Nat) := mappingOf [
  "AA>61 A>3BC 4>6F 77>49.4A 0>69.6A B>4C.B7 0>6C.B7 8>2BC.6E 35>73 44>44.5A.30C 0>44.7A.30C",
  "0>64.7A.30C 0>4C.4A 0>4C.6A 0>6C.6A 0>4E.4A 0>4E.6A 0>6E.6A 24>44.5A 0>44.7A 0>64.7A BC>68",
  "0>266 0>6A 0>72 0>279 0>27B 0>281 0>77 0>79 27>263 0>6C 0>73 0>78 0>295 5B+1>300 1>313",
  "0>308.301 2F>2B9 12>B7 48>3B2 0>3B8 0>3A5 2>3C6 0>3C0 19>3BA 0+1>3C1 1>398 0>3B5 3>3A3",
  "18D>565.582 ED>627.674 0>648.674 0>6C7.674 0>64A.674 2DF>915.93C 0>916.93C 0>917.93C",
  "0>91C.93C 0>921.93C 0>922.93C 0>92B.93C 0>92F.93C 7C>9A1.9BC 0>9A2.9BC 1>9AF.9BC 53>A32.A3C",
  "2>A38.A3C 22>A16.A3C 0>A17.A3C 0>A1C.A3C 2>A2B.A3C FD>B21.B3C 0>B22.B3C 2D5>E4D.E32",
  "7F>ECD.EB2 28>EAB.E99 0>EAB.EA1 65>F42.FB7 9>F4C.FB7 4>F51.FB7 4>F56.FB7 4>F5B.FB7 C>F40.FB5",
  "9>F71.F72 1>F71.F74 0>FB2.F80 0>FB2.F71.F80 0>FB3.F80 0>FB3.F71.F80 7>F71.F80 11>F92.FB7",
  "9>F9C.FB7 4>FA1.FB7 4>FA6.FB7 4>FAB.FB7 C>F90.FB5 142>10DC C2F>41 0>C6 0>42 1+1>44 0>18E",
  "0+7>47 1>4F 0>222 0>50 0>52 0+1>54 0>57 0>61 0+1>250 0>1D02 0>62 0+1>64 0>259 0+1>25B 0>67",
  "1>6B 0>6D 0>14B 0>6F 0>254 0+1>1D16 0>70 0+1>74 0>1D1D 0>26F 0>76 0>1D25 0+2>3B2 0+1>3C6",
  "0>69 0>72 0+1>75 0+1>3B2 0>3C1 0+1>3C6 D>43D 22>252 0>63 0>255 0>F0 0>25C 0>66 0>25F 0>261",
  "0>265 0+2>268 0>1D7B 0>29D 0>26D 0>1D85 0>29F 0>271 0>270 0+3>272 0>278 0+1>282 0>1AB",
  "0+1>289 0>1D1C 0+1>28B 0>7A 0+2>290 0>3B8 DA>61.2BE D6>3B1.301 1>3B5.301 1>3B7.301 1>3B9.301",
  "1>3BF.301 1>3C5.301 1>3C9.301 3D>391.301 2>3B9 A>395.301 1>397.301 7>3B9.308.301 7>399.301",
  "7>3C5.308.301 7>3A5.301 D>39F.301 1>3A9.301 75>69 D>6E 10>61 0>65 0>6F 0>78 0>259 0>68",
  "0+3>6B 0>70 0+1>73 65>43 4>190 2>67 0>48 0>48 0>48 0>68 0>127 0>49 0>49 0>4C 0>6C 1>4E",
  "3+2>50 0>52 0>52 6>5A 1>3A9 1>5A 1>4B 0>41.30A 0+1>42 1>65 0+1>45 1>4D 0>6F 0+3>5D0 0>69",
  "2>3C0 0>3B3 0>393 0>3A0 5>44 0+1>64 0+1>69 16>49 0>49.49 0>49.49.49 0>49.56 0>56 0>56.49",
  "0>56.49.49 0>56.49.49.49 0>49.58 0>58 0>58.49 0>58.49.49 0>4C 0+1>43 0>4D 0>69 0>69.69",
  "0>69.69.69 0>69.76 0>76 0>76.69 0>76.69.69 0>76.69.69.69 0>69.78 0>78 0>78.69 0>78.69.69",
  "0>6C 0+1>63 0>6D AFC>6A 0>56 F1>2D61 2C8>5341 0+1>5344 64>3088.308A 5F>30B3.30C8 31+1>1100",
  "0>11AA 0>1102 0+1>11AC 0+2>1103 0+5>11B0 0>111A 0+2>1106 0>1121 0+9>1109 0+14>1161 0>1160",
  "0+1>1114 0+1>11C7 0>11CC 0>11CE 0>11D3 0>11D7 0>11D9 0>111C 0>11DD 0>11DF 0+1>111D 0>1120",
  "0+1>1122 0>1127 0>1129 0+4>112B 0>1132 0>1136 0>1140 0>1147 0>114C 0+1>11F1 0+2>1157",
  "0+1>1184 0>1188 0+1>1191 0>1194 0>119E 0>11A1 750D>44A 0>44C D2>A76F 81>43 0>46 0>51 3>126",
  "0>153 362>A727 0>AB37 0>26B 0>AB52 9>28D 4D96>8C48 0>66F4 0>8ECA 0>8CC8 0>6ED1 0>4E32 0>53E5",
  "0>9F9C 0>9F9C 0>5951 0>91D1 0>5587 0>5948 0>61F6 0>7669 0>7F85 0>863F 0>87BA 0>88F8 0>908F",
  "0>6A02 0>6D1B 0>70D9 0>73DE 0>843D 0>916A 0>99F1 0>4E82 0>5375 0>6B04 0>721B 0>862D 0>9E1E",
  "0>5D50 0>6FEB 0>85CD 0>8964 0>62C9 0>81D8 0>881F 0>5ECA 0>6717 0>6D6A 0>72FC 0>90CE 0>4F86",
  "0>51B7 0>52DE 0>64C4 0>6AD3 0>7210 0>76E7 0>8001 0>8606 0>865C 0>8DEF 0>9732 0>9B6F 0>9DFA",
  "0>788C 0>797F 0>7DA0 0>83C9 0>9304 0>9E7F 0>8AD6 0>58DF 0>5F04 0>7C60 0>807E 0>7262 0>78CA",
  "0>8CC2 0>96F7 0>58D8 0>5C62 0>6A13 0>6DDA 0>6F0F 0>7D2F 0>7E37 0>964B 0>52D2 0>808B 0>51DC",
  "0>51CC 0>7A1C 0>7DBE 0>83F1 0>9675 0>8B80 0>62CF 0>6A02 0>8AFE 0>4E39 0>5BE7 0>6012 0>7387",
  "0>7570 0>5317 0>78FB 0>4FBF 0>5FA9 0>4E0D 0>6CCC 0>6578 0>7D22 0>53C3 0>585E 0>7701 0>8449",
  "0>8AAA 0>6BBA 0>8FB0 0>6C88 0>62FE 0>82E5 0>63A0 0>7565 0>4EAE 0>5169 0>51C9 0>6881 0>7CE7",
  "0>826F 0>8AD2 0>91CF 0>52F5 0>5442 0>5973 0>5EEC 0>65C5 0>6FFE 0>792A 0>95AD 0>9A6A 0>9E97",
  "0>9ECE 0>529B 0>66C6 0>6B77 0>8F62 0>5E74 0>6190 0>6200 0>649A 0>6F23 0>7149 0>7489 0>79CA",
  "0>7DF4 0>806F 0>8F26 0>84EE 0>9023 0>934A 0>5217 0>52A3 0>54BD 0>70C8 0>88C2 0>8AAA 0>5EC9",
  "0>5FF5 0>637B 0>6BAE 0>7C3E 0>7375 0>4EE4 0>56F9 0>5BE7 0>5DBA 0>601C 0>73B2 0>7469 0>7F9A",
  "0>8046 0>9234 0>96F6 0>9748 0>9818 0>4F8B 0>79AE 0>91B4 0>96B8 0>60E1 0>4E86 0>50DA 0>5BEE",
  "0>5C3F 0>6599 0>6A02 0>71CE 0>7642 0>84FC 0>907C 0>9F8D 0>6688 0>962E 0>5289 0>677B 0>67F3",
  "0>6D41 0>6E9C 0>7409 0>7559 0>786B 0>7D10 0>985E 0>516D 0>622E 0>9678 0>502B 0>5D19 0>6DEA",
  "0>8F2A 0>5F8B 0>6144 0>6817 0>7387 0>9686 0>5229 0>540F 0>5C65 0>6613 0>674E 0>68A8 0>6CE5",
  "0>7406 0>75E2 0>7F79 0>88CF 0>88E1 0>91CC 0>96E2 0>533F 0>6EBA 0>541D 0>71D0 0>7498 0>85FA",
  "0>96A3 0>9C57 0>9E9F 0>6797 0>6DCB 0>81E8 0>7ACB 0>7B20 0>7C92 0>72C0 0>7099 0>8B58 0>4EC0",
  "0>8336 0>523A 0>5207 0>5EA6 0>62D3 0>7CD6 0>5B85 0>6D1E 0>66B4 0>8F3B 0>884C 0>964D 0>898B",
  "0>5ED3 0>5140 0>55C0 2>585A 1>6674 2>51DE 0>732A 0>76CA 0>793C 0>795E 0>7965 0>798F 0>9756",
  "0>7CBE 0>7FBD 1>8612 1>8AF8 2>9038 0>90FD 3>98EF 0>98FC 0>9928 0>9DB4 0>90DE 0>96B7 0>4FAE",
  "0>50E7 0>514D 0>52C9 0>52E4 0>5351 0>559D 0>5606 0>5668 0>5840 0>58A8 0>5C64 0>5C6E 0>6094",
  "0>6168 0>618E 0>61F2 0>654F 0>65E2 0>6691 0>6885 0>6D77 0>6E1A 0>6F22 0>716E 0>722B 0>7422",
  "0>7891 0>793E 0>7949 0>7948 0>7950 0>7956 0>795D 0+1>798D 0>7A40 0>7A81 0>7BC0 0>7DF4 0>7E09",
  "0>7E41 0>7F72 0>8005 0>81ED 0>8279 0>8279 0>8457 0>8910 0>8996 0>8B01 0>8B39 0>8CD3 0>8D08",
  "0>8FB6 0>9038 0>96E3 0>97FF 0>983B 0>6075 0>242EE 0>8218 2>4E26 0>51B5 0>5168 0>4F80 0>5145",
  "0>5180 0>52C7 0>52FA 0>559D 0>5555 0>5599 0>55E2 0>585A 0>58B3 0>5944 0>5954 0>5A62 0>5B28",
  "0>5ED2 0>5ED9 0>5F69 0>5FAD 0>60D8 0>614E 0>6108 0>618E 0>6160 0>61F2 0>6234 0>63C4 0>641C",
  "0>6452 0>6556 0>6674 0>6717 0>671B 0>6756 0>6B79 0>6BBA 0>6D41 0>6EDB 0>6ECB 0>6F22 0>701E",
  "0>716E 0>77A7 0>7235 0>72AF 0>732A 0>7471 0>7506 0>753B 0>761D 0>761F 0>76CA 0>76DB 0>76F4",
  "0>774A 0>7740 0>78CC 0>7AB1 0>7BC0 0>7C7B 0>7D5B 0>7DF4 0>7F3E 0>8005 0>8352 0>83EF 0>8779",
  "0>8941 0>8986 0>8996 0>8ABF 0>8AF8 0>8ACB 0>8B01 0>8AFE 0>8AED 0>8B39 0>8B8A 0>8D08 0>8F38",
  "0>9072 0>9199 0>9276 0>967C 0>96E3 0>9756 0>97DB 0>97FF 0>980B 0>983B 0>9B12 0>9F9C 0>2284A",
  "0>22844 0>233D5 0>3B9D 0>4018 0>4039 0>25249 0>25CD0 0>27ED3 0>9F43 0>9F8E 26>66.66 0>66.69",
  "0>66.6C 0>66.66.69 0>66.66.6C 0>73.74 0>73.74 C>574.576 0>574.565 0>574.56B 0>57E.576",
  "0>574.56D 5>5D9.5B4 1>5F2.5B7 0>5E2 0>5D0 0+1>5D3 0+2>5DB 0>5E8 0>5EA 1>5E9.5C1 0>5E9.5C2",
  "0>5E9.5BC.5C1 0>5E9.5BC.5C2 0>5D0.5B7 0>5D0.5B8 0>5D0.5BC 0>5D1.5BC 0>5D2.5BC 0>5D3.5BC",
  "0>5D4.5BC 0>5D5.5BC 0>5D6.5BC 1>5D8.5BC 0>5D9.5BC 0>5DA.5BC 0>5DB.5BC 0>5DC.5BC 1>5DE.5BC",
  "1>5E0.5BC 0>5E1.5BC 1>5E3.5BC 0>5E4.5BC 1>5E6.5BC 0>5E7.5BC 0>5E8.5BC 0>5E9.5BC 0>5EA.5BC",
  "0>5D5.5B9 0>5D1.5BF 0>5DB.5BF 0>5E4.5BF 0>5D0.5DC 0>671 0>671 0>67B 0>67B 0>67B 0>67B 0>67E",
  "0>67E 0>67E 0>67E 0>680 0>680 0>680 0>680 0>67A 0>67A 0>67A 0>67A 0>67F 0>67F 0>67F 0>67F",
  "0>679 0>679 0>679 0>679 0>6A4 0>6A4 0>6A4 0>6A4 0>6A6 0>6A6 0>6A6 0>6A6 0>684 0>684 0>684",
  "0>684 0>683 0>683 0>683 0>683 0>686 0>686 0>686 0+1>686 0>687 0>687 0>687 0>68D 0>68D 0>68C",
  "0>68C 0>68E 0>68E 0>688 0>688 0>698 0>698 0>691 0>691 0>6A9 0>6A9 0>6A9 0>6A9 0>6AF 0>6AF",
  "0>6AF 0>6AF 0>6B3 0>6B3 0>6B3 0>6B3 0>6B1 0>6B1 0>6B1 0>6B1 0>6BA 0+1>6BA 0>6BB 0>6BB 0>6BB",
  "0>6D5.654 0>6D5.654 0>6C1 0>6C1 0>6C1 0>6C1 0>6BE 0>6BE 0>6BE 0>6BE 0>6D2 0>6D2 0>6D2.654",
  "0>6D2.654 21>6AD 0>6AD 0>6AD 0>6AD 0>6C7 0>6C7 0>6C6 0>6C6 0>6C8 0>6C8 0>6C7.674 0>6CB 0>6CB",
  "0>6C5 0>6C5 0>6C9 0>6C9 0>6D0 0>6D0 0>6D0 0>6D0 0>649 0>649 0>64A.654.627 0>64A.654.627",
  "0>64A.654.6D5 0>64A.654.6D5 0>64A.654.648 0>64A.654.648 0>64A.654.6C7 0>64A.654.6C7",
  "0>64A.654.6C6 0>64A.654.6C6 0>64A.654.6C8 0>64A.654.6C8 0>64A.654.6D0 0>64A.654.6D0",
  "0>64A.654.6D0 0>64A.654.649 0>64A.654.649 0>64A.654.649 0>6CC 0>6CC 0>6CC 0>6CC",
  "0>64A.654.62C 0>64A.654.62D 0>64A.654.645 0>64A.654.649 0>64A.654.64A 0>628.62C 0>628.62D",
  "0>628.62E 0>628.645 0>628.649 0>628.64A 0>62A.62C 0>62A.62D 0>62A.62E 0>62A.645 0>62A.649",
  "0>62A.64A 0>62B.62C 0>62B.645 0>62B.649 0>62B.64A 0>62C.62D 0>62C.645 0>62D.62C 0>62D.645",
  "0>62E.62C 0>62E.62D 0>62E.645 0>633.62C 0>633.62D 0>633.62E 0>633.645 0>635.62D 0>635.645",
  "0>636.62C 0>636.62D 0>636.62E 0>636.645 0>637.62D 0>637.645 0>638.645 0>639.62C 0>639.645",
  "0>63A.62C 0>63A.645 0>641.62C 0>641.62D 0>641.62E 0>641.645 0>641.649 0>641.64A 0>642.62D",
  "0>642.645 0>642.649 0>642.64A 0>643.627 0>643.62C 0>643.62D 0>643.62E 0>643.644 0>643.645",
  "0>643.649 0>643.64A 0>644.62C 0>644.62D 0>644.62E 0>644.645 0>644.649 0>644.64A 0>645.62C",
  "0>645.62D 0>645.62E 0>645.645 0>645.649 0>645.64A 0>646.62C 0>646.62D 0>646.62E 0>646.645",
  "0>646.649 0>646.64A 0>647.62C 0>647.645 0>647.649 0>647.64A 0>64A.62C 0>64A.62D 0>64A.62E",
  "0>64A.645 0>64A.649 0>64A.64A 0>630.670 0>631.670 0>649.670 6>64A.654.631 0>64A.654.632",
  "0>64A.654.645 0>64A.654.646 0>64A.654.649 0>64A.654.64A 0>628.631 0>628.632 0>628.645",
  "0>628.646 0>628.649 0>628.64A 0>62A.631 0>62A.632 0>62A.645 0>62A.646 0>62A.649 0>62A.64A",
  "0>62B.631 0>62B.632 0>62B.645 0>62B.646 0>62B.649 0>62B.64A 0>641.649 0>641.64A 0>642.649",
  "0>642.64A 0>643.627 0>643.644 0>643.645 0>643.649 0>643.64A 0>644.645 0>644.649 0>644.64A",
  "0>645.627 0>645.645 0>646.631 0>646.632 0>646.645 0>646.646 0>646.649 0>646.64A 0>649.670",
  "0>64A.631 0>64A.632 0>64A.645 0>64A.646 0>64A.649 0>64A.64A 0>64A.654.62C 0>64A.654.62D",
  "0>64A.654.62E 0>64A.654.645 0>64A.654.647 0>628.62C 0>628.62D 0>628.62E 0>628.645 0>628.647",
  "0>62A.62C 0>62A.62D 0>62A.62E 0>62A.645 0>62A.647 0>62B.645 0>62C.62D 0>62C.645 0>62D.62C",
  "0>62D.645 0>62E.62C 0>62E.645 0>633.62C 0>633.62D 0>633.62E 0>633.645 0>635.62D 0>635.62E",
  "0>635.645 0>636.62C 0>636.62D 0>636.62E 0>636.645 0>637.62D 0>638.645 0>639.62C 0>639.645",
  "0>63A.62C 0>63A.645 0>641.62C 0>641.62D 0>641.62E 0>641.645 0>642.62D 0>642.645 0>643.62C",
  "0>643.62D 0>643.62E 0>643.644 0>643.645 0>644.62C 0>644.62D 0>644.62E 0>644.645 0>644.647",
  "0>645.62C 0>645.62D 0>645.62E 0>645.645 0>646.62C 0>646.62D 0>646.62E 0>646.645 0>646.647",
  "0>647.62C 0>647.645 0>647.670 0>64A.62C 0>64A.62D 0>64A.62E 0>64A.645 0>64A.647",
  "0>64A.654.645 0>64A.654.647 0>628.645 0>628.647 0>62A.645 0>62A.647 0>62B.645 0>62B.647",
  "0>633.645 0>633.647 0>634.645 0>634.647 0>643.644 0>643.645 0>644.645 0>646.645 0>646.647",
  "0>64A.645 0>64A.647 0>640.64E.651 0>640.64F.651 0>640.650.651 0>637.649 0>637.64A 0>639.649",
  "0>639.64A 0>63A.649 0>63A.64A 0>633.649 0>633.64A 0>634.649 0>634.64A 0>62D.649 0>62D.64A",
  "0>62C.649 0>62C.64A 0>62E.649 0>62E.64A 0>635.649 0>635.64A 0>636.649 0>636.64A 0>634.62C",
  "0>634.62D 0>634.62E 0>634.645 0>634.631 0>633.631 0>635.631 0>636.631 0>637.649 0>637.64A",
  "0>639.649 0>639.64A 0>63A.649 0>63A.64A 0>633.649 0>633.64A 0>634.649 0>634.64A 0>62D.649",
  "0>62D.64A 0>62C.649 0>62C.64A 0>62E.649 0>62E.64A 0>635.649 0>635.64A 0>636.649 0>636.64A",
  "0>634.62C 0>634.62D 0>634.62E 0>634.645 0>634.631 0>633.631 0>635.631 0>636.631 0>634.62C",
  "0>634.62D 0>634.62E 0>634.645 0>633.647 0>634.647 0>637.645 0>633.62C 0>633.62D 0>633.62E",
  "0>634.62C 0>634.62D 0>634.62E 0>637.645 0>638.645 0>627.64B 0>627.64B 12>62A.62C.645",
  "0>62A.62D.62C 0>62A.62D.62C 0>62A.62D.645 0>62A.62E.645 0>62A.645.62C 0>62A.645.62D",
  "0>62A.645.62E 0>62C.645.62D 0>62C.645.62D 0>62D.645.64A 0>62D.645.649 0>633.62D.62C",
  "0>633.62C.62D 0>633.62C.649 0>633.645.62D 0>633.645.62D 0>633.645.62C 0>633.645.645",
  "0>633.645.645 0>635.62D.62D 0>635.62D.62D 0>635.645.645 0>634.62D.645 0>634.62D.645",
  "0>634.62C.64A 0>634.645.62E 0>634.645.62E 0>634.645.645 0>634.645.645 0>636.62D.649",
  "0>636.62E.645 0>636.62E.645 0>637.645.62D 0>637.645.62D 0>637.645.645 0>637.645.64A",
  "0>639.62C.645 0>639.645.645 0>639.645.645 0>639.645.649 0>63A.645.645 0>63A.645.64A",
  "0>63A.645.649 0>641.62E.645 0>641.62E.645 0>642.645.62D 0>642.645.645 0>644.62D.645",
  "0>644.62D.64A 0>644.62D.649 0>644.62C.62C 0>644.62C.62C 0>644.62E.645 0>644.62E.645",
  "0>644.645.62D 0>644.645.62D 0>645.62D.62C 0>645.62D.645 0>645.62D.64A 0>645.62C.62D",
  "0>645.62C.645 0>645.62E.62C 0>645.62E.645 2>645.62C.62E 0>647.645.62C 0>647.645.645",
  "0>646.62D.645 0>646.62D.649 0>646.62C.645 0>646.62C.645 0>646.62C.649 0>646.645.64A",
  "0>646.645.649 0>64A.645.645 0>64A.645.645 0>628.62E.64A 0>62A.62C.64A 0>62A.62C.649",
  "0>62A.62E.64A 0>62A.62E.649 0>62A.645.64A 0>62A.645.649 0>62C.645.64A 0>62C.62D.649",
  "0>62C.645.649 0>633.62E.649 0>635.62D.64A 0>634.62D.64A 0>636.62D.64A 0>644.62C.64A",
  "0>644.645.64A 0>64A.62D.64A 0>64A.62C.64A 0>64A.645.64A 0>645.645.64A 0>642.645.64A",
  "0>646.62D.64A 0>642.645.62D 0>644.62D.645 0>639.645.64A 0>643.645.64A 0>646.62C.62D",
  "0>645.62E.64A 0>644.62C.645 0>643.645.645 0>644.62C.645 0>646.62C.62D 0>62C.62D.64A",
  "0>62D.62C.64A 0>645.62C.64A 0>641.645.64A 0>628.62D.64A 0>643.645.645 0>639.62C.645",
  "0>635.645.645 0>633.62E.64A 0>646.62C.64A 28>635.644.6D2 0>642.644.6D2 0>627.644.644.647",
  "0>627.643.628.631 0>645.62D.645.62F 0>635.644.639.645 0>631.633.648.644 0>639.644.64A.647",
  "0>648.633.644.645 0>635.644.649 39>5F 0>5F 18>5F 0>5F 0>5F 21>640.64B 5>640.64E 1>640.64F",
  "1>640.650 1>640.651 1>640.652 0>621 0>627.653 0>627.653 0>627.654 0>627.654 0>648.654",
  "0>648.654 0>627.655 0>627.655 0>64A.654 0>64A.654 0>64A.654 0>64A.654 0>627 0+1>627 0>628",
  "0>628 0+1>628 0+1>629 0>62A 0>62A 0+1>62A 0>62B 0>62B 0+1>62B 0>62C 0>62C 0+1>62C 0>62D",
  "0>62D 0+1>62D 0>62E 0>62E 0+1>62E 0+1>62F 0+1>630 0+1>631 0+1>632 0>633 0>633 0+1>633 0>634",
  "0>634 0+1>634 0>635 0>635 0+1>635 0>636 0>636 0+1>636 0>637 0>637 0+1>637 0>638 0>638",
  "0+1>638 0>639 0>639 0+1>639 0>63A 0>63A 0>63A 0>641 0>641 0>641 0+1>641 0>642 0>642 0+1>642",
  "0>643 0>643 0+1>643 0>644 0>644 0+1>644 0>645 0>645 0+1>645 0>646 0>646 0+1>646 0>647 0>647",
  "0+1>647 0+1>648 0+1>649 0>64A 0>64A 0>64A 0>644.627.653 0>644.627.653 0>644.627.654",
  "0>644.627.654 0>644.627.655 0>644.627.655 0>644.627 0>644.627 13+9>30 7+19>41 4>5F 1+19>61",
  "B>30F2 0>30A1 0>30A3 0>30A5 0>30A7 0>30A9 0>30E3 0>30E5 0>30E7 0>30C3 0>30FC 0>30A2 0>30A4",
  "0>30A6 0>30A8 0+1>30AA 0>30AD 0>30AF 0>30B1 0>30B3 0>30B5 0>30B7 0>30B9 0>30BB 0>30BD 0>30BF",
  "0>30C1 0>30C4 0>30C6 0>30C8 0+5>30CA 0>30D2 0>30D5 0>30D8 0>30DB 0+4>30DE 0>30E4 0>30E6",
  "0+5>30E8 0>30EF 0>30F3 0+1>3099 0>1160 0+1>1100 0>11AA 0>1102 0+1>11AC 0+2>1103 0+5>11B0",
  "0>111A 0+2>1106 0>1121 0+9>1109 3+5>1161 2+5>1167 2+5>116D 2+2>1173 7A4+1>2D0 0>E6 0>299",
  "0>253 1>2A3 0>AB66 0>2A5 0>2A4 0+1>256 0>1D91 0>258 0>25E 0>2A9 0>264 0>262 0>260 0>29B",
  "0>127 0>29C 0>267 0>284 0+1>2AA 0>26C 0>1DF04 0>A78E 0>26E 0>1DF05 0>28E 0>1DF06 0>F8",
  "0+1>276 0>71 0>27A 0>1DF08 0+1>27D 0>280 0>2A8 0>2A6 0>AB67 0>2A7 0>288 0>2C71 1>28F 0+1>2A1",
  "0>298 0+2>1C0 0>1DF0A 0>1DF1E CC45+19>41 0+19>61 0+19>41 0+6>61 1+11>69 0+19>41 0+19>61 0>41",
  "1+1>43 2>47 2+1>4A 2+3>4E 1+7>53 0+3>61 1>66 1+6>68 1+A>70 0+19>41 0+19>61 0+1>41 1+3>44",
  "2+7>4A 1+6>53 1+19>61 0+1>41 1+3>44 1+4>49 1>4F 3+6>53 1+19>61 0+19>41 0+19>61 0+19>41",
  "0+19>61 0+19>41 0+19>61 0+19>41 0+19>61 0+19>41 0+19>61 0+19>41 0+19>61 0>131 0>237 2+10>391",
  "0>398 0+6>3A3 1+18>3B1 1>3B5 0>3B8 0>3BA 0>3C6 0>3C1 0>3C0 0+10>391 0>398 0+6>3A3 1+18>3B1",
  "1>3B5 0>3B8 0>3BA 0>3C6 0>3C1 0>3C0 0+10>391 0>398 0+6>3A3 1+18>3B1 1>3B5 0>3B8 0>3BA 0>3C6",
  "0>3C1 0>3C0 0+10>391 0>398 0+6>3A3 1+18>3B1 1>3B5 0>3B8 0>3BA 0>3C6 0>3C1 0>3C0 0+10>391",
  "0>398 0+6>3A3 1+18>3B1 1>3B5 0>3B8 0>3BA 0>3C6 0>3C1 0>3C0 0+1>3DC 2+9>30 0+9>30 0+9>30",
  "0+9>30 0+9>30 1600+1>627 0>62C 0>62F 1>648 0>632 0>62D 0>637 0>64A 0+3>643 0>633 0>639 0>641",
  "0>635 0>642 0>631 0>634 0+1>62A 0>62E 0>630 0>636 0>638 0>63A 0>66E 0>6BA 0>6A1 0>66F 1>628",
  "0>62C 1>647 2>62D 1>64A 0+3>643 0>633 0>639 0>641 0>635 0>642 1>634 0+1>62A 0>62E 1>636",
  "1>63A 6>62C 4>62D 1>64A 1>644 1>646 0>633 0>639 1>635 0>642 1>634 2>62E 1>636 1>63A 1>6BA",
  "1>66F 1>628 0>62C 1>647 2>62D 0>637 0>64A 0>643 1+1>645 0>633 0>639 0>641 0>635 0>642 1>634",
  "0+1>62A 0>62E 1>636 0>638 0>63A 0>66E 1>6A1 1+1>627 0>62C 0>62F 0+1>647 0>632 0>62D 0>637",
  "0>64A 1+2>644 0>633 0>639 0>641 0>635 0>642 0>631 0>634 0+1>62A 0>62E 0>630 0>636 0>638",
  "0>63A 5>628 0>62C 0>62F 1>648 0>632 0>62D 0>637 0>64A 1+2>644 0>633 0>639 0>641 0>635 0>642",
  "0>631 0>634 0+1>62A 0>62E 0>630 0>636 0>638 0>63A D34+9>30 FC06>4E3D 0>4E38 0>4E41 0>20122",
  "0>4F60 0>4FAE 0>4FBB 0>5002 0>507A 0>5099 0>50E7 0>50CF 0>349E 0>2063A 0>514D 0>5154 0>5164",
  "0>5177 0>2051C 0>34B9 0>5167 0>518D 0>2054B 0>5197 0>51A4 0>4ECC 0>51AC 0>51B5 0>291DF",
  "0>51F5 0>5203 0>34DF 0>523B 0>5246 0>5272 0>5277 0>3515 0>52C7 0>52C9 0>52E4 0>52FA 0+1>5305",
  "0>5317 0>5349 0>5351 0>535A 0>5373 0>537D 0>537F 0>537F 0>537F 0>20A2C 0>7070 0>53CA 0>53DF",
  "0>20B63 0>53EB 0>53F1 0>5406 0>549E 0>5438 0>5448 0>5468 0>54A2 0>54F6 0>5510 0>5553 0>5563",
  "0>5584 0>5584 0>5599 0>55AB 0>55B3 0>55C2 0>5716 0>5606 0>5717 0>5651 0>5674 0>5207 0>58EE",
  "0>57CE 0>57F4 0>580D 0>578B 0>5832 0>5831 0>58AC 0>214E4 0>58F2 0>58F7 0>5906 0>591A 0>5922",
  "0>5962 0>216A8 0>216EA 0>59EC 0>5A1B 0>5A27 0>59D8 0>5A66 0>36EE 0>36FC 0>5B08 0>5B3E 0>5B3E",
  "0>219C8 0>5BC3 0>5BD8 0>5BE7 0>5BF3 0>21B18 0>5BFF 0>5C06 0>5F53 0>5C22 0>3781 0>5C60 0>5C6E",
  "0>5CC0 0>5C8D 0>21DE4 0>5D43 0>21DE6 0>5D6E 0>5D6B 0>5D7C 0+1>5DE1 0>382F 0>5DFD 0>5E28",
  "0>5E3D 0>5E69 0>3862 0>22183 0>387C 0>5EB0 0>5EB3 0>5EB6 0>5ECA 0>2A392 0>5EFE 0>22331",
  "0>22331 0>8201 0>5F22 0>5F22 0>38C7 0>232B8 0>261DA 0>5F62 0>5F6B 0>38E3 0>5F9A 0>5FCD",
  "0>5FD7 0>5FF9 0>6081 0>393A 0>391C 0>6094 0>226D4 0>60C7 0>6148 0>614C 0>614E 0>614C 0>617A",
  "0>618E 0>61B2 0>61A4 0>61AF 0>61DE 0>61F2 0>61F6 0>6210 0>621B 0>625D 0>62B1 0>62D4 0>6350",
  "0>22B0C 0>633D 0>62FC 0>6368 0>6383 0>63E4 0>22BF1 0>6422 0>63C5 0>63A9 0>3A2E 0>6469 0>647E",
  "0>649D 0>6477 0>3A6C 0>654F 0>656C 0>2300A 0>65E3 0>66F8 0>6649 0>3B19 0>6691 0>3B08 0>3AE4",
  "0>5192 0>5195 0>6700 0>669C 0>80AD 0>43D9 0>6717 0>671B 0>6721 0>675E 0>6753 0>233C3 0>3B49",
  "0>67FA 0>6785 0>6852 0>6885 0>2346D 0>688E 0>681F 0>6914 0>3B9D 0>6942 0>69A3 0>69EA 0>6AA8",
  "0>236A3 0>6ADB 0>3C18 0>6B21 0>238A7 0>6B54 0>3C4E 0>6B72 0>6B9F 0+1>6BBA 0>23A8D 0>21D0B",
  "0>23AFA 0>6C4E 0>23CBC 0>6CBF 0>6CCD 0>6C67 0>6D16 0>6D3E 0>6D77 0>6D41 0>6D69 0>6D78 0>6D85",
  "0>23D1E 0>6D34 0>6E2F 0>6E6E 0>3D33 0>6ECB 0>6EC7 0>23ED1 0>6DF9 0>6F6E 0>23F5E 0>23F8E",
  "0>6FC6 0>7039 0>701E 0>701B 0>3D96 0>704A 0>707D 0>7077 0>70AD 0>20525 0>7145 0>24263 0>719C",
  "0>243AB 0>7228 0>7235 0>7250 0>24608 0>7280 0>7295 0>24735 0>24814 0>737A 0>738B 0>3EAC",
  "0>73A5 0>3EB8 0>3EB8 0>7447 0>745C 0>7471 0>7485 0>74CA 0>3F1B 0>7524 0>24C36 0>753E 0>24C92",
  "0>7570 0>2219F 0>7610 0>24FA1 0>24FB8 0>25044 0>3FFC 0>4008 0>76F4 0>250F3 0>250F2 0>25119",
  "0>25133 0+1>771E 0>771F 0>774A 0>4039 0>778B 0>4046 0>4096 0>2541D 0>784E 0>788C 0>78CC",
  "0>40E3 0>25626 0>7956 0>2569A 0>256C5 0>798F 0>79EB 0>412F 0>7A40 0>7A4A 0>7A4F 0>2597C",
  "0>25AA7 0>25AA7 0>7AEE 0>4202 0>25BAB 0>7BC6 0>7BC9 0>4227 0>25C80 0>7CD2 0>42A0 0>7CE8",
  "0>7CE3 0>7D00 0>25F86 0>7D63 0>4301 0>7DC7 0>7E02 0>7E45 0>4334 0>26228 0>26247 0>4359",
  "0>262D9 0>7F7A 0>2633E 0>7F95 0>7FFA 0>8005 0>264DA 0>26523 0>8060 0>265A8 0>8070 0>2335F",
  "0>43D5 0>80B2 0>8103 0>440B 0>813E 0>5AB5 0>267A7 0>267B5 0>23393 0>2339C 0>8201 0>8204",
  "0>8F9E 0>446B 0>8291 0>828B 0>829D 0>52B3 0>82B1 0>82B3 0>82BD 0>82E6 0>26B3C 0>82E5 0>831D",
  "0>8363 0>83AD 0>8323 0>83BD 0>83E7 0>8457 0>8353 0>83CA 0>83CC 0>83DC 0>26C36 0>26D6B",
  "0>26CD5 0>452B 0>84F1 0>84F3 0>8516 0>273CA 0>8564 0>26F2C 0>455D 0>4561 0>26FB1 0>270D2",
  "0>456B 0>8650 0>865C 0>8667 0>8669 0>86A9 0>8688 0>870E 0>86E2 0>8779 0>8728 0>876B 0>8786",
  "0>45D7 0>87E1 0>8801 0>45F9 0>8860 0>8863 0>27667 0>88D7 0>88DE 0>4635 0>88FA 0>34BB 0>278AE",
  "0>27966 0>46BE 0>46C7 0>8AA0 0>8AED 0>8B8A 0>8C55 0>27CA8 0>8CAB 0>8CC1 0>8D1B 0>8D77",
  "0>27F2F 0>20804 0>8DCB 0>8DBC 0>8DF0 0>208DE 0>8ED4 0>8F38 0>285D2 0>285ED 0>9094 0>90F1",
  "0>9111 0>2872E 0>911B 0>9238 0+1>92D7 0>927C 0>93F9 0>9415 0>28BFA 0>958B 0>4995 0>95B7",
  "0>28D77 0>49E6 0>96C3 0>5DB2 0>9723 0>29145 0>2921A 0>4A6E 0>4A76 0>97E0 0>2940A 0>4AB2",
  "0>29496 0>980B 0>980B 0>9829 0>295B6 0>98E2 0>4B33 0>9929 0>99A7 0>99C2 0>99FE 0>4BCE",
  "0>29B30 0>9B12 0>9C40 0>9CFD 0>4CCE 0>4CED 0>9D67 0>2A0CE 0>4CF8 0>2A105 0>2A20E 0>2A291",
  "0>9EBB 0>4D56 0>9EF9 0>9EFE 0>9F05 0>9F0F 0>9F16 0>9F3B 0>2A600"]

/-- The combining classes other than zero; the members of a range share theirs. -/
@[irreducible]
def combiningClasses : List (Nat × Nat × List Nat) := mappingOf [
  "300+14>E6 0>E8 0+3>DC 0>E8 0>D8 0+4>DC 0+1>CA 0+3>DC 0+1>CA 0+A>DC 0+4>1 0+3>DC 0+7>E6 0>F0",
  "0>E6 0+2>DC 0+2>E6 0+1>DC 1+2>E6 0+3>DC 0>E6 0>E8 0+1>DC 0>E6 0>E9 0+1>EA 0>E9 0+1>EA 0>E9",
  "0+C>E6 113+4>E6 109>DC 0+3>E6 0>DC 0+2>E6 0>DE 0>DC 0+5>E6 0+5>DC 0+1>E6 0>DC 0+1>E6 0>DE",
  "0>E4 0>E6 0>A 0>B 0>C 0>D 0>E 0>F 0>10 0>11 0>12 0+1>13 0>14 0>15 0>16 1>17 1>18 0>19 1>E6",
  "0>DC 1>12 48+7>E6 0>1E 0>1F 0>20 30>1B 0>1C 0>1D 0>1E 0>1F 0>20 0>21 0>22 0+1>E6 0+1>DC",
  "0+4>E6 0>DC 0+1>E6 0>DC 10>23 65+6>E6 2+3>E6 0>DC 0>E6 2+1>E6 1>DC 0+1>E6 0>DC 23>24 1E>E6",
  "0>DC 0+1>E6 0>DC 0+1>E6 0+2>DC 0>E6 0+1>DC 0>E6 0>DC 0+2>E6 0>DC 0>E6 0>DC 0>E6 0>DC 0>E6",
  "0>DC 0+1>E6 A0+6>E6 0>DC 0>E6 9>DC 18+3>E6 1+8>E6 1+2>E6 1+4>E6 2B+2>DC 3C>E6 0+2>DC 0+3>E6",
  "2A+4>E6 0+4>DC 0+D>E6 1>DC 0+1>E6 0>DC 0+1>E6 0>DC 0+2>E6 0+2>DC 0>1B 0>1C 0>1D 0+2>E6 0>DC",
  "0+1>E6 0+1>DC 0+4>E6 3C>7 10>9 3>E6 0>DC 0+1>E6 67>7 10>9 30>E6 3D>7 10>9 6E>7 10>9 6E>7",
  "10>9 7F>9 6E>7 10>9 7>54 0>5B 65>7 10>9 6D+1>9 10>9 7C>9 6D+1>67 0>9 D+3>6B 6C+1>76 0>9",
  "D+3>7A 4C+1>DC 1B>DC 1>DC 1>D8 37>81 0>82 1>84 5+3>82 2>82 1+1>E6 0>9 1+1>E6 3E>DC 70>7",
  "1+1>9 52>DC 2CF+2>E6 3B4+1>9 1E>9 9D>9 A>E6 CB>E4 8F>DE 0>E6 0>DC DB>E6 0>DC 47>9 14+7>E6",
  "2>DC 30+4>E6 0+5>DC 0+1>E6 0>DC 1+1>DC 0+1>E6 0+1>DC 0+4>E6 0>DC 0+3>E6 65>7 F>9 26>E6 0>DC",
  "0+6>E6 36+1>9 3A>7 B+1>9 43>7 98+2>E6 1>1 0+4>DC 0+1>E6 0+3>DC 0>E6 1+6>1 4>DC 6>E6 3+1>E6",
  "C6+1>E6 0>DC 0+6>E6 0>DC 0+1>E6 0>EA 0>D6 0>DC 0>CA 0+24>E6 0>E8 0+1>E4 0>DC 0>DA 0>E6 0>E9",
  "0>DC 0>E6 0>DC 2D0+1>E6 0+1>1 0+3>E6 0+2>1 0+1>E6 4>E6 3+1>1 0>E6 0>DC 0>E6 0+1>1 0+3>DC",
  "0>E6 BFE+2>E6 8D>9 60+1F>E6 22A>DA 0>E4 0>E8 0>DE 0+1>E0 69+1>8 75D4>E6 4+9>E6 20+1>E6",
  "50+1>E6 114>9 25>9 97>9 1B+11>E6 39+2>DC 25>9 5F>7 C>9 EF>E6 1+1>E6 0>DC 2+1>E6 5+1>E6 1>E6",
  "34>9 F6>9 4F30>1A 301+6>E6 0+6>DC 0+1>E6 3CD>DC E2>DC 95+4>E6 692>DC 1>E6 28>E6 0>1 0>DC 4>9",
  "A5>E6 0>DC 23D+3>E6 183+1>E6 99+1>DC 0+2>E6 0>DC 0>E6 0+3>DC 31>E6 0>DC 0>E6 0>DC C0>9 29>9",
  "E>9 39>9 0>7 45+2>E6 30+1>9 3E>7 4C>9 9>7 6A>9 0>7 B2>7 0>9 50+1>7 10>9 18+6>E6 3+4>E6 CD>9",
  "3>7 17>E6 63>9 0>7 FB>9 0>7 7E>9 76>9 0>7 73>9 10D>9 0>7 102+1>9 4>7 9C>9 53>9 12>9 51>9",
  "1A5>9 102>7 1+1>9 51>9 4D58+4>1 3B+6>E6 4B9+1>6 4CAC>1 14C6+1>D8 0+2>1 3>E2 0+4>D8 8+7>DC",
  "2+4>E6 0+1>DC 1E+3>E6 94+2>E6 DBB+6>E6 1+10>E6 2+6>E6 1+1>E6 1+4>E6 105+6>E6 177>E6 3D+3>E6",
  "5E0+6>DC 6D+5>E6 0>7"]

end TagLint.Text
