import StartOrder.Yaml.Source

/-!
# Why a text is no document

The reasons for which a text cannot be read as one YAML document, whatever its reader expects of it,
with the sentence for each. A place is part of the reason where the sentence names one.
-/

namespace StartOrder.Yaml

/-- Why a text cannot be read as one document. -/
inductive Unreadable where
  | forbiddenCharacter
  | badDirective (at_ : Mark)
  | badAnchor (at_ : Mark)
  | badTag (at_ : Mark)
  | badBlockHeader (at_ : Mark)
  | tabInIndentation (at_ : Mark)
  | unclosedQuote (at_ : Mark)
  | documentMarkInQuote (at_ : Mark)
  | badEscape (at_ : Mark)
  | colonInFlow (at_ : Mark)
  | missingColon (at_ : Mark)
  | misplacedEntry (at_ : Mark)
  | misplacedKey (at_ : Mark)
  | misplacedValue (at_ : Mark)
  | noToken (at_ : Mark)
  | unexpectedToken (at_ : Mark)
  | undefinedTagHandle (at_ : Mark)
  | unknownAnchor (at_ : Mark)
  | severalDocuments
  | tooDeep
  | tooManyAliases
  | duplicateKey
  | integerOutOfRange
  | badCoreScalar
  deriving DecidableEq, Repr

/-- The sentence that tells a reason. -/
def Unreadable.message : Unreadable → String
  | .forbiddenCharacter => "control characters are not allowed"
  | .badDirective m => place "found an invalid directive" m
  | .badAnchor m => place "found an invalid anchor or alias" m
  | .badTag m => place "found an invalid tag" m
  | .badBlockHeader m => place "found an invalid block scalar header" m
  | .tabInIndentation m => place "found a tab where indentation is expected" m
  | .unclosedQuote m => place "found unexpected end of a quoted scalar" m
  | .documentMarkInQuote m => place "found unexpected document indicator" m
  | .badEscape m => place "found unknown escape" m
  | .colonInFlow m => place "found unexpected ':'" m
  | .missingColon m => place "could not find expected ':'" m
  | .misplacedEntry m => place "block sequence entries are not allowed in this context" m
  | .misplacedKey m => place "mapping keys are not allowed in this context" m
  | .misplacedValue m => place "mapping values are not allowed in this context" m
  | .noToken m => place "found character that cannot start any token" m
  | .unexpectedToken m => place "did not find expected node content" m
  | .undefinedTagHandle m => place "found undefined tag handle" m
  | .unknownAnchor m => place "unknown anchor" m
  | .severalDocuments => "more than one document is not supported"
  | .tooDeep => "recursion limit exceeded"
  | .tooManyAliases => "repetition limit exceeded"
  | .duplicateKey => "duplicate entry"
  | .integerOutOfRange => "integer out of range"
  | .badCoreScalar => "scalar does not match its tag"
where
  /-- A sentence with the place it is about. -/
  place (text : String) (m : Mark) : String :=
    s!"{text} at line {m.line + 1} column {m.column + 1}"

end StartOrder.Yaml
