import TagLint.Outline.Peg
/-!
The grammar of Python 3.11 as parsing expressions. Binary operators of all levels are one level
here, and so are `and` and `or`, since only which texts belong to the language matters.
-/

namespace TagLint.Outline

/-- The rules of the grammar. Parameters are those of a function or of a `lambda`. -/
inductive Rule where
  | file | embedded
  | statement | simpleLine | simple | compound | block
  | assignment | annotatedValue | augmented | assignedValue
  | importName | importFrom | importTargets | importedName | dottedName
  | decorators | classDef | classHead | function | functionHead
  | parameters (lambda : Bool) | parameter (lambda : Bool) | plainParameter (lambda : Bool)
  | defaultParameter (lambda : Bool) | eitherParameter (lambda : Bool) | starParameter
  | starParameters (lambda : Bool) | lastParameter (lambda : Bool) | parameterEnd (lambda : Bool)
  | ifStatement | whileStatement | forStatement | withStatement | withItem | tryStatement
  | exceptBlock | exceptStarBlock | elseBlock | finallyBlock
  | matchStatement | subject | caseBlock | patterns | pattern | orPattern | closedPattern
  | literalPattern | complexNumber | signedNumber | captureTarget | attributePath
  | openSequence | maybeSequence | maybeStarPattern | starPattern
  | sequencePattern | mappingPattern | keyValuePattern | doubleStarPattern | classPattern
  | keywordPattern
  | starExpressions | starExpression | starNamed | starNamedList | assignmentExpression | named
  | expression | yieldExpression | disjunction | inversion | comparison | arithmetic | factor
  | power | awaited | primary | trailer | slices | slice | atom | strings | group | tuple
  | generator | list | listComprehension | set | setComprehension | dict | dictComprehension
  | keyValue | forClauses | lambda | plainArgument | arguments | keywordArguments | starred
  | keywordOrStarred | keywordOrDoubleStarred
  | starTargets | starTarget | starAtom | targetWithStar | singleTarget | placeTarget | place
  | opening | deleteTargets | deleteTarget
deriving DecidableEq, Hashable, Repr

namespace Rule

open Peg

/-- A parsing expression of this grammar. -/
abbrev Form := Peg Rule

/-- A reserved word, operator or bracket. -/
def w (s : String) : Form := .token (.word s.toList)

/-- A name. -/
def name : Form := .token .name

/-- The end of a line. -/
def lineEnd : Form := .token .lineEnd

/-- An opening brace. -/
def openBrace : Form := w "\x7b"

/-- A closing brace. -/
def closeBrace : Form := w "\x7d"

/-- Forms with commas between them. -/
def listed (p : Form) : Form := separated p (w ",")

/-- Forms with commas between them and perhaps one at the end. -/
def listedOpen (p : Form) : Form := .both (listed p) (optional (w ","))

/-- One of several words. -/
def oneOf (ws : List String) : Form := firstOf (ws.map w)

/-- What stands between round brackets. -/
def round (p : Form) : Form := inOrder [w "(", p, w ")"]

/-- What stands between square brackets. -/
def square (p : Form) : Form := inOrder [w "[", p, w "]"]

/-- What stands between braces. -/
def braced (p : Form) : Form := inOrder [openBrace, p, closeBrace]

/-- A rule as a form. -/
def r (x : Rule) : Form := .rule x

/-- The operators of an assignment that changes its target. -/
def augmentedOperators : List String :=
  ["+=", "-=", "*=", "@=", "/=", "%=", "&=", "|=", "^=", "<<=", ">>=", "**=", "//="]

/-- The binary operators. -/
def binaryOperators : List String :=
  ["|", "^", "&", "<<", ">>", "+", "-", "*", "//", "/", "%", "@"]

/-- A comparison operator. -/
def comparisonOperator : Form :=
  firstOf [oneOf ["==", "!=", "<=", "<", ">=", ">", "in"], inOrder [w "not", w "in"],
    inOrder [w "is", optional (w "not")]]

/-- A place that is the target of an assignment and not part of a longer one. -/
def placed : Form :=
  inOrder [r .place,
    firstOf [inOrder [w ".", name], square (r .slices)], .absent (r .opening)]

/-- The expression of a rule. -/
def form : Rule → Form
  -- texts
  | file => inOrder [.many (r .statement), .token .textEnd]
  | embedded => inOrder [r .starExpressions, lineEnd, .token .textEnd]
  -- statements
  | statement => firstOf [r .compound, r .simpleLine]
  | simpleLine => inOrder [separated (r .simple) (w ";"), optional (w ";"), lineEnd]
  | simple =>
    firstOf [r .assignment, r .starExpressions,
      inOrder [w "return", optional (r .starExpressions)],
      r .importName, r .importFrom,
      inOrder [w "raise",
        optional (inOrder [r .expression, optional (inOrder [w "from", r .expression])])],
      w "pass",
      inOrder [w "del", r .deleteTargets, .ahead (firstOf [w ";", lineEnd])],
      r .yieldExpression,
      inOrder [w "assert", r .expression, optional (inOrder [w ",", r .expression])],
      w "break", w "continue",
      inOrder [w "global", listed name],
      inOrder [w "nonlocal", listed name]]
  | compound =>
    firstOf [r .function, .hidden (r .ifStatement), r .classDef, .hidden (r .withStatement),
      .hidden (r .forStatement), .hidden (r .tryStatement), .hidden (r .whileStatement),
      .hidden (r .matchStatement)]
  | block =>
    firstOf [inOrder [lineEnd, .token .indent, oneOrMore (r .statement), .token .dedent],
      r .simpleLine]
  | assignment =>
    firstOf [
      inOrder [name, w ":", r .expression, r .annotatedValue],
      inOrder [firstOf [round (r .singleTarget), r .placeTarget], w ":", r .expression,
        r .annotatedValue],
      inOrder [oneOrMore (inOrder [r .starTargets, w "="]), r .assignedValue, .absent (w "=")],
      inOrder [r .singleTarget, r .augmented, r .assignedValue]]
  | annotatedValue => optional (inOrder [w "=", r .assignedValue])
  | augmented => oneOf augmentedOperators
  | assignedValue => firstOf [r .yieldExpression, r .starExpressions]
  | importName => inOrder [w "import", listed (inOrder [r .dottedName, r .importedName])]
  | importFrom =>
    let dots := firstOf [w ".", w "..."]
    firstOf [
      inOrder [w "from", .many dots, r .dottedName, w "import", r .importTargets],
      inOrder [w "from", oneOrMore dots, w "import", r .importTargets]]
  | importTargets =>
    let names := listed (inOrder [name, r .importedName])
    firstOf [round (.both names (optional (w ","))), inOrder [names, .absent (w ",")], w "*"]
  | importedName => optional (inOrder [w "as", name])
  | dottedName => separated name (w ".")
  -- definitions
  | decorators => oneOrMore (inOrder [w "@", r .named, lineEnd])
  | classDef => inOrder [optional (r .decorators), .item .classItem (r .classHead)]
  | classHead =>
    inOrder [w "class", name, optional (round (optional (r .arguments))), w ":", r .block]
  | function =>
    inOrder [optional (r .decorators),
      firstOf [.item .function (r .functionHead),
        .item .asyncFunction (inOrder [w "async", r .functionHead])]]
  | functionHead =>
    inOrder [w "def", name, round (optional (r (.parameters false))),
      optional (inOrder [w "->", r .expression]), w ":", r .block]
  -- parameters
  | parameters l =>
    let plain := r (.plainParameter l)
    let default := r (.defaultParameter l)
    let slash := inOrder [w "/", r (.parameterEnd l)]
    let stars := optional (r (.starParameters l))
    firstOf [
      inOrder [oneOrMore plain, slash, .many plain, .many default, stars],
      inOrder [.many plain, oneOrMore default, slash, .many default, stars],
      inOrder [oneOrMore plain, .many default, stars],
      inOrder [oneOrMore default, stars],
      r (.starParameters l)]
  | parameter l => if l then name else inOrder [name, optional (inOrder [w ":", r .expression])]
  | plainParameter l => inOrder [r (.parameter l), r (.parameterEnd l)]
  | defaultParameter l =>
    inOrder [r (.parameter l), w "=", r .expression, r (.parameterEnd l)]
  | eitherParameter l =>
    inOrder [r (.parameter l), optional (inOrder [w "=", r .expression]), r (.parameterEnd l)]
  | starParameter => inOrder [name, w ":", r .starExpression, r (.parameterEnd false)]
  | starParameters l =>
    let more := inOrder [.many (r (.eitherParameter l)), optional (r (.lastParameter l))]
    firstOf [
      inOrder [w "*", r (.plainParameter l), more],
      if l then .absent .empty else inOrder [w "*", r .starParameter, more],
      inOrder [w "*", w ",", oneOrMore (r (.eitherParameter l)),
        optional (r (.lastParameter l))],
      r (.lastParameter l)]
  | lastParameter l => inOrder [w "**", r (.plainParameter l)]
  | parameterEnd l => firstOf [w ",", .ahead (w (if l then ":" else ")"))]
  -- compound statements
  | ifStatement =>
    inOrder [w "if", r .named, w ":", r .block,
      .many (inOrder [w "elif", r .named, w ":", r .block]), optional (r .elseBlock)]
  | whileStatement => inOrder [w "while", r .named, w ":", r .block, optional (r .elseBlock)]
  | forStatement =>
    inOrder [optional (w "async"), w "for", r .starTargets, w "in", r .starExpressions, w ":",
      r .block, optional (r .elseBlock)]
  | withStatement =>
    inOrder [optional (w "async"), w "with",
      firstOf [inOrder [round (listedOpen (r .withItem)), w ":", r .block],
        inOrder [listed (r .withItem), w ":", r .block]]]
  | withItem =>
    firstOf [inOrder [r .expression, w "as", r .starTarget, .ahead (oneOf [",", ")", ":"])],
      r .expression]
  | tryStatement =>
    inOrder [w "try", w ":", r .block,
      firstOf [r .finallyBlock,
        inOrder [oneOrMore (r .exceptBlock), optional (r .elseBlock), optional (r .finallyBlock)],
        inOrder [oneOrMore (r .exceptStarBlock), optional (r .elseBlock),
          optional (r .finallyBlock)]]]
  | exceptBlock =>
    inOrder [w "except", optional (inOrder [r .expression, r .importedName]), w ":", r .block]
  | exceptStarBlock =>
    inOrder [w "except", w "*", r .expression, r .importedName, w ":", r .block]
  | elseBlock => inOrder [w "else", w ":", r .block]
  | finallyBlock => inOrder [w "finally", w ":", r .block]
  -- matching
  | matchStatement =>
    inOrder [.token (.spelled "match".toList), r .subject, w ":", lineEnd, .token .indent,
      oneOrMore (r .caseBlock), .token .dedent]
  | subject =>
    firstOf [inOrder [r .starNamed, w ",", optional (r .starNamedList)], r .named]
  | caseBlock =>
    inOrder [.token (.spelled "case".toList), r .patterns,
      optional (inOrder [w "if", r .named]), w ":", r .block]
  | patterns => firstOf [r .openSequence, r .pattern]
  | pattern =>
    firstOf [inOrder [r .orPattern, w "as", r .captureTarget], r .orPattern]
  | orPattern => separated (r .closedPattern) (w "|")
  | closedPattern =>
    firstOf [r .literalPattern, r .captureTarget, .token (.spelled ['_']),
      inOrder [r .attributePath, .absent (oneOf [".", "(", "="])],
      round (r .pattern), r .sequencePattern, r .mappingPattern, r .classPattern]
  | literalPattern =>
    firstOf [inOrder [r .signedNumber, .absent (oneOf ["+", "-"])], r .complexNumber, r .strings,
      oneOf ["None", "True", "False"]]
  | complexNumber =>
    inOrder [optional (w "-"), .token .realNumber, oneOf ["+", "-"], .token .imaginaryNumber]
  | signedNumber => inOrder [optional (w "-"), .token .number]
  | captureTarget =>
    inOrder [.absent (.token (.spelled ['_'])), name, .absent (oneOf [".", "(", "="])]
  | attributePath => inOrder [name, oneOrMore (inOrder [w ".", name])]
  | openSequence => inOrder [r .maybeStarPattern, w ",", optional (r .maybeSequence)]
  | maybeSequence => listedOpen (r .maybeStarPattern)
  | maybeStarPattern => firstOf [r .starPattern, r .pattern]
  | starPattern => inOrder [w "*", firstOf [r .captureTarget, .token (.spelled ['_'])]]
  | sequencePattern =>
    firstOf [square (optional (r .maybeSequence)), round (optional (r .openSequence))]
  | mappingPattern =>
    let pairs := listed (r .keyValuePattern)
    let comma := optional (w ",")
    firstOf [braced .empty, braced (inOrder [r .doubleStarPattern, comma]),
      braced (inOrder [pairs, w ",", r .doubleStarPattern, comma]), braced (.both pairs comma)]
  | keyValuePattern =>
    inOrder [firstOf [r .literalPattern, r .attributePath], w ":", r .pattern]
  | doubleStarPattern => inOrder [w "**", r .captureTarget]
  | classPattern =>
    let positions := listed (r .pattern)
    let keywords := listed (r .keywordPattern)
    let comma := optional (w ",")
    inOrder [r .dottedName,
      firstOf [round .empty, round (.both positions comma), round (.both keywords comma),
        round (inOrder [positions, w ",", keywords, comma])]]
  | keywordPattern => inOrder [name, w "=", r .pattern]
  -- expressions
  | starExpressions => listedOpen (r .starExpression)
  | starExpression => firstOf [inOrder [w "*", r .arithmetic], r .expression]
  | starNamed => firstOf [inOrder [w "*", r .arithmetic], r .named]
  | starNamedList => listedOpen (r .starNamed)
  | assignmentExpression => inOrder [name, w ":=", r .expression]
  | named => firstOf [r .assignmentExpression, inOrder [r .expression, .absent (w ":=")]]
  | expression =>
    firstOf [
      inOrder [r .disjunction,
        optional (inOrder [w "if", r .disjunction, w "else", r .expression])],
      r .lambda]
  | yieldExpression =>
    inOrder [w "yield",
      firstOf [inOrder [w "from", r .expression], optional (r .starExpressions)]]
  | disjunction => separated (r .inversion) (oneOf ["and", "or"])
  | inversion => inOrder [.many (w "not"), r .comparison]
  | comparison => separated (r .arithmetic) comparisonOperator
  | arithmetic => separated (r .factor) (oneOf binaryOperators)
  | factor => firstOf [inOrder [oneOf ["+", "-", "~"], r .factor], r .power]
  | power => inOrder [r .awaited, optional (inOrder [w "**", r .factor])]
  | awaited => inOrder [optional (w "await"), r .primary]
  | primary => inOrder [r .atom, .many (r .trailer)]
  | trailer =>
    firstOf [inOrder [w ".", name], r .generator, round (optional (r .arguments)),
      square (r .slices)]
  | slices =>
    firstOf [inOrder [r .slice, .absent (w ",")],
      listedOpen (firstOf [r .slice, r .starred])]
  | slice =>
    let part := optional (r .expression)
    firstOf [inOrder [part, w ":", part, optional (inOrder [w ":", part])], r .named]
  | atom =>
    firstOf [name, oneOf ["True", "False", "None"], r .strings, .token .number,
      r .tuple, r .group, r .generator, r .list, r .listComprehension,
      r .dict, r .set, r .dictComprehension, r .setComprehension, w "..."]
  | strings => oneOrMore (.token .string)
  | group => round (firstOf [r .yieldExpression, r .named])
  | tuple => round (optional (inOrder [r .starNamed, w ",", optional (r .starNamedList)]))
  | generator => round (inOrder [r .plainArgument, r .forClauses])
  | list => square (optional (r .starNamedList))
  | listComprehension => square (inOrder [r .named, r .forClauses])
  | set => braced (r .starNamedList)
  | setComprehension => braced (inOrder [r .named, r .forClauses])
  | dict =>
    braced (optional
      (listedOpen (firstOf [inOrder [w "**", r .arithmetic], r .keyValue])))
  | dictComprehension => braced (inOrder [r .keyValue, r .forClauses])
  | keyValue => inOrder [r .expression, w ":", r .expression]
  | forClauses =>
    oneOrMore (inOrder [optional (w "async"), w "for", r .starTargets, w "in", r .disjunction,
      .many (inOrder [w "if", r .disjunction])])
  | lambda =>
    inOrder [w "lambda", optional (r (.parameters true)), w ":", r .expression]
  -- arguments
  | plainArgument =>
    firstOf [r .assignmentExpression, inOrder [r .expression, .absent (w ":=")]]
  | arguments =>
    let positional := firstOf [r .starred, inOrder [r .plainArgument, .absent (w "=")]]
    inOrder [
      firstOf [
        inOrder [listed positional, optional (inOrder [w ",", r .keywordArguments])],
        r .keywordArguments],
      optional (w ","), .ahead (w ")")]
  | keywordArguments =>
    let starred := listed (r .keywordOrStarred)
    let doubleStarred := listed (r .keywordOrDoubleStarred)
    firstOf [inOrder [starred, w ",", doubleStarred], starred, doubleStarred]
  | starred => inOrder [w "*", r .expression]
  | keywordOrStarred => firstOf [inOrder [name, w "=", r .expression], r .starred]
  | keywordOrDoubleStarred =>
    firstOf [inOrder [name, w "=", r .expression], inOrder [w "**", r .expression]]
  -- targets
  | starTargets =>
    firstOf [inOrder [r .starTarget, .absent (w ",")], listedOpen (r .starTarget)]
  | starTarget =>
    firstOf [inOrder [w "*", .absent (w "*"), r .starTarget], r .targetWithStar]
  | targetWithStar => firstOf [placed, r .starAtom]
  | starAtom =>
    firstOf [name, round (r .targetWithStar),
      round (optional (firstOf [
        inOrder [r .starTarget, oneOrMore (inOrder [w ",", r .starTarget]), optional (w ",")],
        inOrder [r .starTarget, w ","]])),
      square (optional (listedOpen (r .starTarget)))]
  | singleTarget => firstOf [r .placeTarget, name, round (r .singleTarget)]
  | placeTarget => placed
  | place =>
    let more := .ahead (r .opening)
    inOrder [r .atom, more, .many (inOrder [r .trailer, more])]
  | opening => oneOf ["(", "[", "."]
  | deleteTargets => listedOpen (r .deleteTarget)
  | deleteTarget =>
    firstOf [placed, name, round (r .deleteTarget), round (optional (r .deleteTargets)),
      square (optional (r .deleteTargets))]

end Rule

end TagLint.Outline
