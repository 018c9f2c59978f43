import TagLint.Storage.FileSystem
/-!
The ways in which an operation of the library can fail.
-/

namespace TagLint

/-- Why an operation failed. -/
inductive Failure where
  /-- A file system, or another part of the system that is asked for a service, did not answer. -/
  | storage (fault : Storage.Fault)
  /-- A numeral has more digits than are read. -/
  | longNumeral (digits : Nat)
  /-- A text that should be a whole number is none; it is kept as its literal. -/
  | badNumeral (literal : Text)
  /-- A whole number is wanted where "not a number" stands. -/
  | notANumber
  /-- A number or a date is out of range. -/
  | outOfRange
  /-- A way to the empty path is asked for. -/
  | emptyPath
  /-- A name is no kind of tag. -/
  | unknownKind (literal : Text)
  /-- A source text holds the NUL character. -/
  | nulInSource
  /-- A source text is ill-formed. -/
  | badSource
  /-- A settings document is ill-formed. -/
  | badSettings
  /-- A value lacks a part that only another type of value has. -/
  | wrongShape
  /-- A value has the wrong type for what is done with it. -/
  | wrongType
deriving DecidableEq, Repr

namespace Failure

/-- How many digits a numeral may have. -/
def digitLimit : Nat := 4300

/-- The wording of the failures that have one. -/
def message? : Failure → Option Text
  | storage (.invalid why) => some why
  | storage (.broken why) => some why
  | longNumeral digits => some <|
      "Exceeds the limit (4300 digits) for integer string conversion: value has ".toList ++
        Text.ofNat digits ++
        " digits; use sys.set_int_max_str_digits() to increase the limit".toList
  | badNumeral literal =>
    some ("invalid literal for int() with base 10: ".toList ++ literal)
  | notANumber => some "cannot convert float NaN to integer".toList
  | emptyPath => some "no path specified".toList
  | unknownKind literal => some (literal ++ " is not a valid TagKind".toList)
  | nulInSource => some "source code string cannot contain null bytes".toList
  | _ => none

end Failure

end TagLint
