import StartOrder.Yaml.Scalar.Quoted

/-!
# Plain scalars

Texts without quotes. They end where an indicator stands, before a comment, and where a line is
indented no further than the node they belong to. Which indicators these are depends on whether the
scalar stands within brackets (`endsPlain`).
-/

namespace StartOrder.Yaml

/-- The indicators of flow collections that may not stand behind a colon in a flow scalar. -/
def isFlowIndicator (c : Char) : Bool :=
  c = ',' || c = '?' || c = '[' || c = ']' || c = '{' || c = '}'

/-- Whether an indicator at the front of a text ends a plain scalar: a colon that ends its word, and
in a flow collection what separates or closes its items. -/
def endsPlain (flow : Bool) : List Char → Bool
  | [] => true
  | ':' :: rest => endsWord rest
  | c :: _ => flow && (c = ',' || c = '[' || c = ']' || c = '{' || c = '}')

/-- A plain scalar that was read. -/
structure PlainScalar where
  text : String
  /-- Whether a line break stands between the scalar and what follows it. -/
  hasBreak : Bool
  behind : Cursor

/-- The plain scalar with some characters, last first, that ends before a gap and a cursor. -/
def PlainScalar.ending (reversed : List Char) (gap : Gap) (c : Cursor) : PlainScalar :=
  ⟨String.ofList reversed.reverse, gap.hasBreak, c⟩

@[simp, grind =] theorem PlainScalar.behind_ending (reversed : List Char) (gap : Gap) (c : Cursor) :
    (ending reversed gap c).behind = c := rfl

/-- Read a plain scalar whose further lines are indented by at least `indent` columns, unless it
stands in a flow collection. -/
def readPlain (flow : Bool) (indent : Nat) (start : Mark) (c : Cursor) (gap : Gap := .none)
    (reversed : List Char := []) : Except Unreadable PlainScalar :=
  match _h : c.takeBreak? with
  | some (b, c') => readPlain flow indent start c' (gap.lineBreak b) reversed
  | none =>
    match _hc : c.rest with
    | [] => .ok (.ending reversed gap c)
    | x :: rest =>
      if isSpaceOrTab x then
        if x = '\t' && gap.hasBreak && c.mark.column < indent then .error (.tabInIndentation start)
        else readPlain flow indent start (c.advance 1) (gap.blank x) reversed
      else if !gap.isEmpty && (x = '#' || (!flow && c.mark.column < indent)) then
        .ok (.ending reversed gap c)
      else if c.mark.column = 0 && startsWithDocumentMark c.rest then .ok (.ending reversed gap c)
      else if flow && x = ':' && (rest.head?.map isFlowIndicator).getD false then
        .error (.colonInFlow start)
      else if endsPlain flow c.rest then .ok (.ending reversed gap c)
      else readPlain flow indent start (c.advance 1) .none (x :: (gap.fold ++ reversed))
termination_by c.rest.length
decreasing_by
  all_goals first
    | exact Cursor.length_takeBreak_lt _h
    | simp [_hc]

@[grind →] theorem length_readPlain_le {flow : Bool} {indent : Nat} {start : Mark} {c : Cursor}
    {gap : Gap} {reversed : List Char} {s : PlainScalar}
    (h : readPlain flow indent start c gap reversed = .ok s) :
    s.behind.rest.length ≤ c.rest.length := by
  fun_induction readPlain flow indent start c gap reversed <;> grind

end StartOrder.Yaml
