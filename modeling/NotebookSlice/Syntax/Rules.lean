import NotebookSlice.Grammar.Rule

/-!
# The grammar of Python cells

The rules below describe the Python that notebook cells are written in, a superset of versions 2 and
3: statements, expressions, patterns and strings as the layers of one grammar. A rule whose name
starts with an underscore leaves no node in a tree. Keywords are ordinary words here; the lexer
reads a word as a keyword only where the grammar expects that keyword.

Names of token classes that start with an underscore, such as `_newline`, are tokens of the layout.
The binding strength of operators is the usual one, from `or` (10) up to calls and attributes (22).
-/

namespace NotebookSlice.Syntax

open Grammar Grammar.Rule

/-- Two operands with a sign between them. -/
def binary (sign : String) : Rule :=
  seq [inField "left" (rule "_primaryExpression"), inField "operator" (word sign),
    inField "right" (rule "_primaryExpression")]

/-- Statements on one line, and how lines are made of them. -/
def simpleStatements : List (String × Rule) := [
  ("module", many (rule "_statement")),
  ("_statement", alt [rule "_simpleStatements", rule "_compoundStatement"]),
  ("_simpleStatements", seq [
    separated ";" (rule "_simpleStatement"), optional (word ";"), token "_newline"]),
  ("_simpleStatement", alt [
    rule "futureImportStatement", rule "importStatement", rule "importFromStatement",
    rule "printStatement", rule "assertStatement", rule "expressionStatement",
    rule "returnStatement", rule "deleteStatement", rule "raiseStatement", rule "passStatement",
    rule "breakStatement", rule "continueStatement", rule "globalStatement",
    rule "nonlocalStatement", rule "execStatement", rule "typeAliasStatement"]),
  ("importStatement", seq [word "import", rule "_importList"]),
  ("importPrefix", many1 (word ".")),
  ("relativeImport", seq [rule "importPrefix", optional (rule "dottedName")]),
  ("futureImportStatement", seq [
    word "from", word "__future__", word "import",
    alt [rule "_importList", seq [word "(", rule "_importList", word ")"]]]),
  ("importFromStatement", seq [
    word "from", inField "moduleName" (alt [rule "relativeImport", rule "dottedName"]),
    word "import",
    alt [rule "wildcardImport", rule "_importList", seq [word "(", rule "_importList", word ")"]]]),
  ("_importList", seq [
    commaSeparated (inField "name" (alt [rule "dottedName", rule "aliasedImport"])),
    optional (word ",")]),
  ("aliasedImport", seq [
    inField "name" (rule "dottedName"), word "as", inField "alias" (token "identifier")]),
  ("wildcardImport", word "*"),
  ("printStatement", alt [
    level 1 (seq [
      word "print", rule "chevron", many (seq [word ",", inField "argument" (rule "_expression")]),
      optional (word ",")]),
    level (-3) (weight (-1) (seq [
      word "print", commaSeparated (inField "argument" (rule "_expression")),
      optional (word ",")]))]),
  ("chevron", seq [word ">>", rule "_expression"]),
  ("assertStatement", seq [word "assert", commaSeparated (rule "_expression")]),
  ("expressionStatement", alt [
    rule "_expression", seq [commaSeparated (rule "_expression"), optional (word ",")],
    rule "assignment", rule "augmentedAssignment", rule "yield"]),
  ("namedExpression", seq [
    inField "name" (rule "_namedExpressionLhs"), word ":=", inField "value" (rule "_expression")]),
  ("_namedExpressionLhs", alt [token "identifier", rule "keywordIdentifier"]),
  ("returnStatement", seq [word "return", optional (rule "_expressions")]),
  ("deleteStatement", seq [word "del", rule "_expressions"]),
  ("_expressions", alt [rule "_expression", rule "expressionList"]),
  ("raiseStatement", seq [
    word "raise", optional (rule "_expressions"),
    optional (seq [word "from", inField "cause" (rule "_expression")])]),
  ("passStatement", groupLeft 0 (word "pass")),
  ("breakStatement", groupLeft 0 (word "break")),
  ("continueStatement", groupLeft 0 (word "continue"))]

/-- Statements with clauses and blocks, and the parts of their headings. -/
def compoundStatements : List (String × Rule) := [
  ("_compoundStatement", alt [
    rule "ifStatement", rule "forStatement", rule "whileStatement", rule "tryStatement",
    rule "withStatement", rule "functionDefinition", rule "classDefinition",
    rule "decoratedDefinition", rule "matchStatement"]),
  ("ifStatement", seq [
    word "if", inField "condition" (rule "_expression"), word ":",
    inField "consequence" (rule "_suite"), many (inField "alternative" (rule "elifClause")),
    optional (inField "alternative" (rule "elseClause"))]),
  ("elifClause", seq [
    word "elif", inField "condition" (rule "_expression"), word ":",
    inField "consequence" (rule "_suite")]),
  ("elseClause", seq [word "else", word ":", inField "body" (rule "_suite")]),
  ("matchStatement", seq [
    word "match", commaSeparated (inField "subject" (rule "_expression")), optional (word ","),
    word ":", inField "body" (shownAs (node "block") (rule "_matchBlock"))]),
  ("_matchBlock", alt [
    seq [token "_indent", many (inField "alternative" (rule "caseClause")), token "_dedent"],
    token "_newline"]),
  ("caseClause", seq [
    word "case", commaSeparated (rule "casePattern"), optional (word ","),
    optional (inField "guard" (rule "ifClause")), word ":", inField "consequence" (rule "_suite")]),
  ("forStatement", seq [
    optional (word "async"), word "for", inField "left" (rule "_leftHandSide"), word "in",
    inField "right" (rule "_expressions"), word ":", inField "body" (rule "_suite"),
    inField "alternative" (optional (rule "elseClause"))]),
  ("whileStatement", seq [
    word "while", inField "condition" (rule "_expression"), word ":",
    inField "body" (rule "_suite"), optional (inField "alternative" (rule "elseClause"))]),
  ("tryStatement", seq [
    word "try", word ":", inField "body" (rule "_suite"),
    alt [
      seq [
        many1 (rule "exceptClause"), optional (rule "elseClause"), optional (rule "finallyClause")],
      seq [
        many1 (rule "exceptGroupClause"), optional (rule "elseClause"),
        optional (rule "finallyClause")],
      rule "finallyClause"]]),
  ("exceptClause", seq [
    word "except",
    optional (seq [
      rule "_expression", optional (seq [alt [word "as", word ","], rule "_expression"])]),
    word ":", rule "_suite"]),
  ("exceptGroupClause", seq [
    word "except*", seq [rule "_expression", optional (seq [word "as", rule "_expression"])],
    word ":", rule "_suite"]),
  ("finallyClause", seq [word "finally", word ":", rule "_suite"]),
  ("withStatement", seq [
    optional (word "async"), word "with", rule "withClause", word ":",
    inField "body" (rule "_suite")]),
  ("withClause", alt [
    seq [commaSeparated (rule "withItem"), optional (word ",")],
    seq [word "(", commaSeparated (rule "withItem"), optional (word ","), word ")"]]),
  ("withItem", weight 1 (seq [inField "value" (rule "_expression")])),
  ("functionDefinition", seq [
    optional (word "async"), word "def", inField "name" (token "identifier"),
    inField "typeParameters" (optional (rule "typeParameter")),
    inField "parameters" (rule "parameters"),
    optional (seq [word "->", inField "returnType" (rule "type")]), word ":",
    inField "body" (rule "_suite")]),
  ("parameters", seq [word "(", optional (rule "_parameters"), word ")"]),
  ("lambdaParameters", rule "_parameters"),
  ("listSplat", seq [word "*", rule "_expression"]),
  ("dictionarySplat", seq [word "**", rule "_expression"]),
  ("globalStatement", seq [word "global", commaSeparated (token "identifier")]),
  ("nonlocalStatement", seq [word "nonlocal", commaSeparated (token "identifier")]),
  ("execStatement", seq [
    word "exec", inField "code" (alt [rule "string", token "identifier"]),
    optional (seq [word "in", commaSeparated (rule "_expression")])]),
  ("typeAliasStatement", weight 1 (seq [word "type", rule "type", word "=", rule "type"])),
  ("classDefinition", seq [
    word "class", inField "name" (token "identifier"),
    inField "typeParameters" (optional (rule "typeParameter")),
    inField "superclasses" (optional (rule "argumentList")), word ":",
    inField "body" (rule "_suite")]),
  ("typeParameter", seq [word "[", commaSeparated (rule "type"), optional (word ","), word "]"]),
  ("parenthesizedListSplat", level 1 (seq [
    word "(",
    alt [
      shownAs (node "parenthesizedExpression") (rule "parenthesizedListSplat"), rule "listSplat"],
    word ")"])),
  ("argumentList", seq [
    word "(",
    optional (commaSeparated (alt [
      rule "_expression", rule "listSplat", rule "dictionarySplat",
      shownAs (node "parenthesizedExpression") (rule "parenthesizedListSplat"),
      rule "keywordArgument"])),
    optional (word ","), word ")"]),
  ("decoratedDefinition", seq [
    many1 (rule "decorator"),
    inField "definition" (alt [rule "classDefinition", rule "functionDefinition"])]),
  ("decorator", seq [word "@", rule "_expression", token "_newline"]),
  ("_suite", alt [
    shownAs (node "block") (rule "_simpleStatements"), seq [token "_indent", rule "block"],
    shownAs (node "block") (token "_newline")]),
  ("block", seq [many (rule "_statement"), token "_dedent"]),
  ("expressionList", groupRight 0 (seq [
    rule "_expression",
    alt [word ",", seq [many1 (seq [word ",", rule "_expression"]), optional (word ",")]]])),
  ("dottedName", level 1 (separated "." (token "identifier")))]

/-- The patterns of `case` clauses. -/
def casePatterns : List (String × Rule) := [
  ("casePattern", level 1 (alt [
    shownAs (node "asPattern") (rule "_asPattern"), rule "keywordPattern", rule "_simplePattern"])),
  ("_simplePattern", level 1 (alt [
    rule "classPattern", rule "splatPattern", rule "unionPattern",
    shownAs (node "listPattern") (rule "_listPattern"),
    shownAs (node "tuplePattern") (rule "_tuplePattern"), rule "dictPattern", rule "string",
    rule "concatenatedString", rule "true", rule "false", rule "none",
    seq [optional (word "-"), alt [token "integer", token "float"]], rule "complexPattern",
    rule "dottedName", word "_"])),
  ("_asPattern", seq [rule "casePattern", word "as", token "identifier"]),
  ("unionPattern", groupRight 0 (seq [
    rule "_simplePattern", many1 (groupLeft 0 (seq [word "|", rule "_simplePattern"]))])),
  ("_listPattern", seq [
    word "[", optional (seq [commaSeparated (rule "casePattern"), optional (word ",")]), word "]"]),
  ("_tuplePattern", seq [
    word "(", optional (seq [commaSeparated (rule "casePattern"), optional (word ",")]), word ")"]),
  ("dictPattern", seq [
    word "\x7b",
    optional (seq [
      commaSeparated (alt [rule "_keyValuePattern", rule "splatPattern"]), optional (word ",")]),
    word "\x7d"]),
  ("_keyValuePattern", seq [
    inField "key" (rule "_simplePattern"), word ":", inField "value" (rule "casePattern")]),
  ("keywordPattern", seq [token "identifier", word "=", rule "_simplePattern"]),
  ("splatPattern", level 1 (seq [alt [word "*", word "**"], alt [token "identifier", word "_"]])),
  ("classPattern", seq [
    rule "dottedName", word "(",
    optional (seq [commaSeparated (rule "casePattern"), optional (word ",")]), word ")"]),
  ("complexPattern", level 1 (seq [
    optional (word "-"), alt [token "integer", token "float"], alt [word "+", word "-"],
    alt [token "integer", token "float"]]))]

/-- Parameters and the targets of assignments. -/
def targets : List (String × Rule) := [
  ("_parameters", seq [commaSeparated (rule "_parameter"), optional (word ",")]),
  ("_patterns", seq [commaSeparated (rule "_pattern"), optional (word ",")]),
  ("_parameter", alt [
    token "identifier", rule "typedParameter", rule "defaultParameter",
    rule "typedDefaultParameter", rule "listSplatPattern", rule "tuplePattern",
    rule "keywordSeparator", rule "positionalSeparator", rule "dictionarySplatPattern"]),
  ("_pattern", alt [
    token "identifier", rule "keywordIdentifier", rule "subscript", rule "attribute",
    rule "listSplatPattern", rule "tuplePattern", rule "listPattern"]),
  ("tuplePattern", seq [word "(", optional (rule "_patterns"), word ")"]),
  ("listPattern", seq [word "[", optional (rule "_patterns"), word "]"]),
  ("defaultParameter", seq [
    inField "name" (alt [token "identifier", rule "tuplePattern"]), word "=",
    inField "value" (rule "_expression")]),
  ("typedDefaultParameter", level (-1) (seq [
    inField "name" (token "identifier"), word ":", inField "type" (rule "type"), word "=",
    inField "value" (rule "_expression")])),
  ("listSplatPattern", seq [
    word "*",
    alt [token "identifier", rule "keywordIdentifier", rule "subscript", rule "attribute"]]),
  ("dictionarySplatPattern", seq [
    word "**",
    alt [token "identifier", rule "keywordIdentifier", rule "subscript", rule "attribute"]]),
  ("asPattern", groupLeft 0 (seq [
    rule "_expression", word "as",
    inField "alias" (shownAs (node "asPatternTarget") (rule "_expression"))]))]

/-- Expressions by operator, assignments, and annotations. -/
def expressions : List (String × Rule) := [
  ("_expressionWithinForInClause", alt [
    rule "_expression", shownAs (node "lambda") (rule "lambdaWithinForInClause")]),
  ("_expression", alt [
    rule "comparisonOperator", rule "notOperator", rule "booleanOperator", rule "lambda",
    rule "_primaryExpression", rule "conditionalExpression", rule "namedExpression",
    rule "asPattern"]),
  ("_primaryExpression", alt [
    rule "await", rule "binaryOperator", token "identifier", rule "keywordIdentifier",
    rule "string", rule "concatenatedString", token "integer", token "float", rule "true",
    rule "false", rule "none", rule "unaryOperator", rule "attribute", rule "subscript",
    rule "call", rule "list", rule "listComprehension", rule "dictionary",
    rule "dictionaryComprehension", rule "set", rule "setComprehension", rule "tuple",
    rule "parenthesizedExpression", rule "generatorExpression", rule "ellipsis",
    shownAs (node "listSplat") (rule "listSplatPattern")]),
  ("notOperator", level 12 (seq [word "not", inField "argument" (rule "_expression")])),
  ("booleanOperator", alt [
    groupLeft 11 (seq [
      inField "left" (rule "_expression"), inField "operator" (word "and"),
      inField "right" (rule "_expression")]),
    groupLeft 10 (seq [
      inField "left" (rule "_expression"), inField "operator" (word "or"),
      inField "right" (rule "_expression")])]),
  ("binaryOperator", alt [
    alt (["+", "-"].map fun sign => groupLeft 18 (binary sign)),
    alt (["*", "@", "/", "%", "//"].map fun sign => groupLeft 19 (binary sign)),
    groupRight 21 (binary "**"), groupLeft 14 (binary "|"), groupLeft 15 (binary "&"),
    groupLeft 16 (binary "^"), alt (["<<", ">>"].map fun sign => groupLeft 17 (binary sign))]),
  ("unaryOperator", level 20 (seq [
    inField "operator" (alt [word "+", word "-", word "~"]),
    inField "argument" (rule "_primaryExpression")])),
  ("comparisonOperator", groupLeft 13 (seq [
    rule "_primaryExpression",
    many1 (seq [
      inField "operators" (alt [
        word "<", word "<=", word "==", word "!=", word ">=", word ">", word "<>", word "in",
        shownAs (text "not in") (seq [word "not", word "in"]), word "is",
        shownAs (text "is not") (seq [word "is", word "not"])]),
      rule "_primaryExpression"])])),
  ("lambda", level (-2) (seq [
    word "lambda", inField "parameters" (optional (rule "lambdaParameters")), word ":",
    inField "body" (rule "_expression")])),
  ("lambdaWithinForInClause", seq [
    word "lambda", inField "parameters" (optional (rule "lambdaParameters")), word ":",
    inField "body" (rule "_expressionWithinForInClause")]),
  ("assignment", seq [
    inField "left" (rule "_leftHandSide"),
    alt [
      seq [word "=", inField "right" (rule "_rightHandSide")],
      seq [word ":", inField "type" (rule "type")],
      seq [
        word ":", inField "type" (rule "type"), word "=",
        inField "right" (rule "_rightHandSide")]]]),
  ("augmentedAssignment", seq [
    inField "left" (rule "_leftHandSide"),
    inField "operator" (alt [
      word "+=", word "-=", word "*=", word "/=", word "@=", word "//=", word "%=", word "**=",
      word ">>=", word "<<=", word "&=", word "^=", word "|="]),
    inField "right" (rule "_rightHandSide")]),
  ("_leftHandSide", alt [rule "_pattern", rule "patternList"]),
  ("patternList", seq [
    rule "_pattern",
    alt [word ",", seq [many1 (seq [word ",", rule "_pattern"]), optional (word ",")]]]),
  ("_rightHandSide", alt [
    rule "_expression", rule "expressionList", rule "assignment", rule "augmentedAssignment",
    rule "patternList", rule "yield"]),
  ("yield", groupRight 0 (seq [
    word "yield", alt [seq [word "from", rule "_expression"], optional (rule "_expressions")]])),
  ("attribute", level 22 (seq [
    inField "object" (rule "_primaryExpression"), word ".",
    inField "attribute" (token "identifier")])),
  ("subscript", level 22 (seq [
    inField "value" (rule "_primaryExpression"), word "[",
    commaSeparated (inField "subscript" (alt [rule "_expression", rule "slice"])),
    optional (word ","), word "]"])),
  ("slice", seq [
    optional (rule "_expression"), word ":", optional (rule "_expression"),
    optional (seq [word ":", optional (rule "_expression")])]),
  ("ellipsis", word "..."),
  ("call", level 22 (seq [
    inField "function" (rule "_primaryExpression"),
    inField "arguments" (alt [rule "generatorExpression", rule "argumentList"])])),
  ("typedParameter", level (-1) (seq [
    alt [token "identifier", rule "listSplatPattern", rule "dictionarySplatPattern"], word ":",
    inField "type" (rule "type")])),
  ("type", alt [
    rule "_expression", rule "splatType", rule "genericType", rule "unionType",
    rule "constrainedType", rule "memberType"]),
  ("splatType", level 1 (seq [alt [word "*", word "**"], token "identifier"])),
  ("genericType", level 1 (seq [token "identifier", rule "typeParameter"])),
  ("unionType", groupLeft 0 (seq [rule "type", word "|", rule "type"])),
  ("constrainedType", groupRight 0 (seq [rule "type", word ":", rule "type"])),
  ("memberType", seq [rule "type", word ".", token "identifier"]),
  ("keywordArgument", seq [
    inField "name" (alt [token "identifier", rule "keywordIdentifier"]), word "=",
    inField "value" (rule "_expression")])]

/-- Collections, comprehensions, strings and the other atoms of expressions. -/
def displays : List (String × Rule) := [
  ("list", seq [word "[", optional (rule "_collectionElements"), word "]"]),
  ("set", seq [word "\x7b", rule "_collectionElements", word "\x7d"]),
  ("tuple", seq [word "(", optional (rule "_collectionElements"), word ")"]),
  ("dictionary", seq [
    word "\x7b", optional (commaSeparated (alt [rule "pair", rule "dictionarySplat"])),
    optional (word ","), word "\x7d"]),
  ("pair", seq [
    inField "key" (rule "_expression"), word ":", inField "value" (rule "_expression")]),
  ("listComprehension", seq [
    word "[", inField "body" (rule "_expression"), rule "_comprehensionClauses", word "]"]),
  ("dictionaryComprehension", seq [
    word "\x7b", inField "body" (rule "pair"), rule "_comprehensionClauses", word "\x7d"]),
  ("setComprehension", seq [
    word "\x7b", inField "body" (rule "_expression"), rule "_comprehensionClauses", word "\x7d"]),
  ("generatorExpression", seq [
    word "(", inField "body" (rule "_expression"), rule "_comprehensionClauses", word ")"]),
  ("_comprehensionClauses", seq [
    rule "forInClause", many (alt [rule "forInClause", rule "ifClause"])]),
  ("parenthesizedExpression", level 1 (seq [
    word "(", alt [rule "_expression", rule "yield"], word ")"])),
  ("_collectionElements", seq [
    commaSeparated (alt [
      rule "_expression", rule "yield", rule "listSplat", rule "parenthesizedListSplat"]),
    optional (word ",")]),
  ("forInClause", groupLeft 0 (seq [
    optional (word "async"), word "for", inField "left" (rule "_leftHandSide"), word "in",
    inField "right" (commaSeparated (rule "_expressionWithinForInClause")), optional (word ",")])),
  ("ifClause", seq [word "if", rule "_expression"]),
  ("conditionalExpression", groupRight (-1) (seq [
    rule "_expression", word "if", rule "_expression", word "else", rule "_expression"])),
  ("concatenatedString", seq [rule "string", many1 (rule "string")]),
  ("string", seq [
    token "stringStart", many (alt [rule "interpolation", rule "stringContent"]),
    token "stringEnd"]),
  ("stringContent", groupRight 0 (many1 (alt [
    token "escapeInterpolation", token "escapeSequence", token "_backslash",
    token "_stringContent"]))),
  ("interpolation", seq [
    word "\x7b", inField "expression" (rule "_fExpression"), optional (word "="),
    optional (inField "typeConversion" (token "typeConversion")),
    optional (inField "formatSpecifier" (rule "formatSpecifier")), word "\x7d"]),
  ("_fExpression", alt [
    rule "_expression", rule "expressionList", rule "patternList", rule "yield"]),
  ("formatSpecifier", seq [
    word ":",
    many (alt [token "_formatText", shownAs (node "formatExpression") (rule "interpolation")])]),
  ("keywordIdentifier", alt [
    level (-3) (shownAs (node "identifier") (alt [
      word "print", word "exec", word "async", word "await", word "match"])),
    shownAs (node "identifier") (word "type")]),
  ("true", word "True"),
  ("false", word "False"),
  ("none", word "None"),
  ("await", level 20 (seq [word "await", rule "_primaryExpression"])),
  ("positionalSeparator", word "/"),
  ("keywordSeparator", word "*")]

/-- The whole grammar. -/
def grammar : Definition where
  rules :=
    simpleStatements ++ compoundStatements ++ casePatterns ++ targets ++ expressions ++ displays
  inlined := ["_simpleStatement", "_compoundStatement", "_suite", "_expressions", "_leftHandSide",
    "keywordIdentifier"]
  extras := ["comment", "lineContinuation"]

end NotebookSlice.Syntax
