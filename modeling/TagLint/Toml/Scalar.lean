import TagLint.Calendar.Date
import TagLint.Number.Numeral
import TagLint.Toml.Value
/-!
The written forms of single values in a settings document: strings with their escapes, numbers,
dates and times. Every reader takes the text from the first character of the form on, and gives
what was read and the text behind it.
-/

namespace TagLint.Toml

/-- Blanks inside a line. -/
def isGap (c : Char) : Bool := c == ' ' || c == '\t'

/-- The text without the blanks at its front. -/
def skipGaps (t : Text) : Text := t.dropWhile isGap

/-- Control characters, which may not stand in comments and strings; the tab may. -/
def isControl (c : Char) : Bool := (c.toNat < 0x20 && c != '\t') || c.toNat == 0x7F

/-- Control characters for a string of one line or of several, where line feeds may stand. -/
def isControlIn (lines : Bool) (c : Char) : Bool := isControl c && !(lines && c == '\n')

/-! ## Strings -/

/-- Whether a character is a hexadecimal digit. -/
def isHexDigit (c : Char) : Bool :=
  c.isDigit || ('a' ≤ c && c ≤ 'f') || ('A' ≤ c && c ≤ 'F')

/-- The value of a numeral in a base up to sixteen. -/
def valueInBase (base : Nat) (digits : Text) : Nat :=
  digits.foldl (fun n c => n * base + Text.hexValue c.toUpper) 0

/-- The character whose code is written in so many hexadecimal digits. -/
def codeEscape? (width : Nat) (t : Text) : Option (Text × Text) :=
  let digits := t.take width
  let code := valueInBase 16 digits
  if digits.length = width ∧ digits.all isHexDigit ∧
      (code < 0xD800 ∨ (0xE000 ≤ code ∧ code < 0x110000)) then
    some ([Char.ofNat code], t.drop width)
  else none

/-- A line that ends in a backslash goes on with the next character that is no blank. -/
def lineEscape? (t : Text) : Option (Text × Text) :=
  match skipGaps t with
  | '\n' :: r => some ([], r.dropWhile fun c => isGap c || c == '\n')
  | _ => none

/-- What an escape stands for; the text starts behind the backslash. -/
def escape? (lines : Bool) : Text → Option (Text × Text)
  | 'b' :: r => some (['\x08'], r)
  | 't' :: r => some (['\t'], r)
  | 'n' :: r => some (['\n'], r)
  | 'f' :: r => some (['\x0c'], r)
  | 'r' :: r => some (['\r'], r)
  | '\x22' :: r => some (['\x22'], r)
  | '\\' :: r => some (['\\'], r)
  | 'u' :: r => codeEscape? 4 r
  | 'U' :: r => codeEscape? 8 r
  | t => if lines then lineEscape? t else none

/-- The rest of a string with escapes, reading no more than `left` pieces. Three marks end a string
of several lines. -/
def basicRest (lines : Bool) : (left : Nat) → Text → Option (Text × Text)
  | 0, _ => none
  | _ + 1, [] => none
  | left + 1, c :: r =>
    if c = '\x22' ∧ (!lines || ['\x22', '\x22'].isPrefixOf r) then
      some ([], if lines then r.drop 2 else r)
    else if c = '\\' then do
      let (piece, r) ← escape? lines r
      let (rest, r) ← basicRest lines left r
      return (piece ++ rest, r)
    else if isControlIn lines c then none
    else (basicRest lines left r).map fun (rest, r) => (c :: rest, r)

/-- The rest of a string without escapes, up to `closer`. -/
def literalRest (lines : Bool) (closer t : Text) : Option (Text × Text) := do
  let i ← Text.find? closer t
  let body := t.take i
  if body.any (isControlIn lines) then none else some (body, t.drop (i + closer.length))

/-- A string of one line. -/
def lineString? : Text → Option (Text × Text)
  | '\x22' :: r => basicRest false (r.length + 1) r
  | '\x27' :: r => literalRest false ['\x27'] r
  | _ => none

/-- Up to two further marks directly behind the closing ones belong to the string. -/
def extraMarks (mark : Char) : Text × Text → Text × Text
  | (s, c :: d :: r) =>
    if c = mark ∧ d = mark then (s ++ [c, d], r)
    else if c = mark then (s ++ [c], d :: r)
    else (s, c :: d :: r)
  | (s, [c]) => if c = mark then (s ++ [c], []) else (s, [c])
  | (s, []) => (s, [])

/-- A string of several lines; a line feed right behind the opening marks does not count. -/
def linesString? (t : Text) : Option (Text × Text) :=
  let afterMarks := t.drop 3
  let body := if afterMarks.head? = some '\n' then afterMarks.drop 1 else afterMarks
  match t with
  | '\x22' :: _ => (basicRest true (body.length + 1) body).map (extraMarks '\x22')
  | '\x27' :: _ => (literalRest true ['\x27', '\x27', '\x27'] body).map (extraMarks '\x27')
  | _ => none

/-- A string of any kind. -/
def string? (t : Text) : Option (Text × Text) :=
  match t with
  | c :: d :: e :: _ => if c = d ∧ d = e then linesString? t else lineString? t
  | _ => lineString? t

/-! ## Numbers -/

/-- Digits that may be separated by single underscores, which are left out. -/
def moreDigits (isDigit : Char → Bool) : Text → Text × Text
  | '_' :: d :: r =>
    if isDigit d then
      let (ds, r) := moreDigits isDigit r
      (d :: ds, r)
    else ([], '_' :: d :: r)
  | d :: r =>
    if isDigit d then
      let (ds, r) := moreDigits isDigit r
      (d :: ds, r)
    else ([], d :: r)
  | [] => ([], [])

/-- One digit and more digits. -/
def digitRun? (isDigit : Char → Bool) : Text → Option (Text × Text)
  | d :: r =>
    if isDigit d then
      let (ds, r) := moreDigits isDigit r
      some (d :: ds, r)
    else none
  | [] => none

/-- A whole number in base sixteen, eight or two, by the letter after its zero. -/
def baseNumber? : Text → Option (Nat × Text)
  | '0' :: 'x' :: r => (digitRun? isHexDigit r).map fun (ds, r) => (valueInBase 16 ds, r)
  | '0' :: 'b' :: r =>
    (digitRun? (fun c => c == '0' || c == '1') r).map fun (ds, r) => (valueInBase 2 ds, r)
  | '0' :: 'o' :: r =>
    (digitRun? (fun c => '0' ≤ c && c ≤ '7') r).map fun (ds, r) => (valueInBase 8 ds, r)
  | _ => none

/-- The digits before the point: a single zero, or digits that start with another one. -/
def wholePart? : Text → Option (Text × Text)
  | '0' :: r => some (['0'], r)
  | t => digitRun? Char.isDigit t

/-- The digits after a point, none if there is no such part. -/
def fractionPart (t : Text) : Text × Text :=
  match t with
  | '.' :: r => (digitRun? Char.isDigit r).getD ([], t)
  | _ => ([], t)

/-- An exponent, if there is one. -/
def exponentPart (t : Text) : Option Int × Text :=
  match t with
  | c :: r =>
    if c = 'e' ∨ c = 'E' then
      let (negative, r) := Numeral.sign r
      match digitRun? Char.isDigit r with
      | some (ds, r) =>
        (some (if negative then -(Numeral.value ds : Int) else Numeral.value ds), r)
      | none => (none, t)
    else (none, t)
  | [] => (none, t)

/-- A number. A whole number in base ten may not have too many digits. -/
def number? (t : Text) : Option (Except Failure (Value × Text)) :=
  match baseNumber? t with
  | some (n, r) => some (.ok (.integer n, r))
  | none => do
    let (negative, r) := Numeral.sign t
    let (whole, r) ← wholePart? r
    let (fraction, r) := fractionPart r
    let (exponent, r) := exponentPart r
    if fraction.isEmpty && exponent.isNone then
      if Failure.digitLimit < whole.length then return .error (.longNumeral whole.length)
      else
        let n : Int := Numeral.value whole
        return .ok (.integer (if negative then -n else n), r)
    else
      let d : Numeral.Decimal := { whole, fraction, exponent := exponent.getD 0 }
      return .ok (.real (d.toBinary64 negative), r)

/-- Infinity and "not a number", with or without a sign. -/
def special? (t : Text) : Option (Value × Text) :=
  let (negative, r) := Numeral.sign t
  if "inf".toList.isPrefixOf r then some (.real (.infinite negative), r.drop 3)
  else if "nan".toList.isPrefixOf r then some (.real .nan, r.drop 3)
  else none

/-! ## Dates and times -/

/-- A number of two digits no greater than `most`. -/
def pair? (most : Nat) : Text → Option (Nat × Text)
  | c :: d :: r =>
    let n := Numeral.value [c, d]
    if c.isDigit && d.isDigit && n ≤ most then some (n, r) else none
  | _ => none

/-- The text behind a character that must stand first. -/
def after? (c : Char) : Text → Option Text
  | d :: r => if d = c then some r else none
  | [] => none

/-- The text behind a time of day. -/
def afterTime? (t : Text) : Option Text := do
  let (_, r) ← pair? 23 t
  let r ← after? ':' r
  let (_, r) ← pair? 59 r
  let r ← after? ':' r
  let (_, r) ← pair? 59 r
  match r with
  | '.' :: d :: r' => return if d.isDigit then r'.dropWhile Char.isDigit else r
  | _ => return r

/-- The text behind a distance from universal time, if there is one. -/
def afterZone (t : Text) : Text :=
  let offset? : Option Text := do
    let r ← (after? '+' t).orElse fun _ => after? '-' t
    let (_, r) ← pair? 23 r
    let r ← after? ':' r
    let (_, r) ← pair? 59 r
    return r
  match t with
  | 'Z' :: r => r
  | 'z' :: r => r
  | _ => offset?.getD t

/-- The text behind a time of day that follows a date, and what may follow that. -/
def afterDayTime (t : Text) : Text :=
  match t with
  | c :: r =>
    if c = 'T' ∨ c = 't' ∨ c = ' ' then
      match afterTime? r with
      | some r => afterZone r
      | none => t
    else t
  | [] => t

/-- The parts of a date and the text behind it. -/
def dateParts? (t : Text) : Option ((Nat × Nat × Nat) × Text) := do
  let (century, r) ← pair? 99 t
  let (year, r) ← pair? 99 r
  let r ← after? '-' r
  let (month, r) ← pair? 12 r
  let r ← after? '-' r
  let (day, r) ← pair? 31 r
  if month = 0 ∨ day = 0 then none else return ((century * 100 + year, month, day), r)

/-- A value as it is written: the text before `rest`. -/
def written (t rest : Text) : Value := .moment (t.take (t.length - rest.length))

/-- A date with or without a time of day; the calendar must have it. -/
def date? (t : Text) : Option (Except Failure (Value × Text)) := do
  let ((year, month, day), r) ← dateParts? t
  let rest := afterDayTime r
  if (Calendar.Date.ofParts? year month day).isNone then return .error .badSettings
  else return .ok (written t rest, rest)

/-- A time of day. -/
def time? (t : Text) : Option (Value × Text) :=
  (afterTime? t).map fun rest => (written t rest, rest)

end TagLint.Toml
