import ReservedWords.Grammar.Template

/-!
Repetitions taken apart: a rule body without signs of repetition. What is repeated without a bound, or
very often, gets a helper rule, which is shared by all rules that repeat the same; brackets leave gaps
where they are left out.
-/

namespace ReservedWords.Grammar

/-- A rule body of symbols, gaps, sequences, alternatives and names for alternatives. -/
inductive Expression where
  | symbol (kind : SymbolKind) (name : String)
  | gap
  | sequence (parts : List Expression)
  | choice (options : List Expression)
  | named (body : Expression) (label : String)
  deriving Inhabited

namespace Expression

mutual

/-- Whether two expressions are the same. -/
def same : Expression → Expression → Bool
  | .symbol kind name, .symbol kind' name' => kind = kind' && name = name'
  | .gap, .gap => true
  | .sequence parts, .sequence parts' => allSame parts parts'
  | .choice options, .choice options' => allSame options options'
  | .named body label, .named body' label' => label = label' && same body body'
  | _, _ => false

/-- Whether two lists of expressions are the same. -/
def allSame : List Expression → List Expression → Bool
  | [], [] => true
  | first :: rest, first' :: rest' => same first first' && allSame rest rest'
  | _, _ => false

end

instance : BEq Expression := ⟨same⟩

/-- Nothing at all. -/
def empty : Expression := .sequence []

/-- The symbol of a rule. -/
def ofRule (name : String) : Expression := .symbol .rule name

end Expression

/-- What a helper rule stands for; each is made once. -/
inductive HelperKey where
  /-- Once or more. -/
  | some (body : Expression)
  /-- So many times `target` and so many times `atom`. -/
  | times (targets atoms : Nat) (target atom : Expression)
  /-- Fewer times than that. -/
  | fewer (targets atoms : Nat) (target atom : Expression)

/-- Whether two helper rules stand for the same. -/
def HelperKey.same : HelperKey → HelperKey → Bool
  | .some body, .some body' => body == body'
  | .times a b target atom, .times a' b' target' atom' =>
    a == a' && b == b' && target == target' && atom == atom'
  | .fewer a b target atom, .fewer a' b' target' atom' =>
    a == a' && b == b' && target == target' && atom == atom'
  | _, _ => false

instance : BEq HelperKey := ⟨HelperKey.same⟩

/-- The helper rules made so far. -/
structure Helpers where
  /-- The name and the body of every helper rule, in the order in which they were made. -/
  rules : List (String × Expression) := []
  known : List (HelperKey × String) := []

/-- Repetitions from this count on are made of helper rules. -/
def manyTimes : Nat := 50

/-- No helper rule repeats more parts than this. -/
def largestFactor : Nat := 5

/-- The first way to write `n` as `r * a + b` with `a` from `factor` down to two and `a + b` at most
the largest factor. -/
def splitFactor (n : Nat) : (factor : Nat) → Nat × Nat × Nat
  | 0 => (0, 0, n)
  | factor + 1 =>
    if factor + 1 + n % (factor + 1) ≤ largestFactor then
      (n / (factor + 1), factor + 1, n % (factor + 1))
    else splitFactor n factor

/-- The steps by which a count is reached from nothing: `n` becomes `n * a + b` for each pair. -/
def smallFactors : (fuel : Nat) → Nat → List (Nat × Nat)
  | 0, n => [(n, 0)]
  | fuel + 1, n =>
    if n ≤ largestFactor then [(n, 0)]
    else
      let (rest, a, b) := splitFactor n largestFactor
      smallFactors fuel rest ++ [(a, b)]

namespace Helpers

abbrev Maker := StateM Helpers

/-- The symbol of a helper rule, which is made if it is not known. -/
def make (owner label : String) (key : HelperKey) (body : Expression → Expression)
    : Maker Expression := do
  let helpers ← get
  match helpers.known.lookup key with
  | some name => return .ofRule name
  | none =>
    let name := "__" ++ owner ++ "_" ++ label ++ "_" ++ toString helpers.rules.length
    let symbol := Expression.ofRule name
    set
      { helpers with
        rules := helpers.rules ++ [(name, body symbol)]
        known := helpers.known ++ [(key, name)] }
    return symbol

/-- The helper rule for one or more. -/
def some (owner label : String) (body : Expression) : Maker Expression :=
  make owner label (.some body) fun symbol =>
    .choice [.sequence [body], .sequence [symbol, body]]

/-- The helper rule for so many times one thing and another. -/
def times (owner : String) (a b : Nat) (target atom : Expression) : Maker Expression :=
  make owner ("repeat_a" ++ toString a ++ "_b" ++ toString b) (.times a b target atom) fun _ =>
    .choice [.sequence (List.replicate a target ++ List.replicate b atom)]

/-- The helper rule for any smaller number of times; `fewer` stands for less than one `target`. -/
def fewer (owner : String) (a b : Nat) (target fewer atom : Expression) : Maker Expression :=
  make owner ("repeat_a" ++ toString a ++ "_b" ++ toString b ++ "_opt") (.fewer a b target atom)
    fun _ =>
      .choice
        ((List.range a).map (fun i => .sequence (List.replicate i target ++ [fewer]))
          ++ (List.range b).map fun i =>
            .sequence (List.replicate a target ++ List.replicate i atom))

/-- Goes through the steps to a count. -/
def reachCount (owner : String) (atom : Expression) (target : Expression)
    : List (Nat × Nat) → Maker Expression
  | [] => return target
  | (a, b) :: steps => do
    let target ← times owner a b target atom
    reachCount owner atom target steps

/-- Goes through the steps to a count of optional parts; the last step makes only the optional
rule. -/
def reachFewer (owner : String) (atom : Expression) (target optional : Expression)
    : List (Nat × Nat) → Maker Expression
  | [] => return optional
  | (a, b) :: steps => do
    let optional ← fewer owner a b target optional atom
    if steps.isEmpty then return optional
    let target ← times owner a b target atom
    reachFewer owner atom target optional steps

/-- A counted repetition. Few repetitions are written out as alternatives. -/
def counted (owner : String) (body : Expression) (low high : Int) : Maker Expression := do
  if high < manyTimes then
    let counts := (List.range (high - low + 1).toNat).map fun i : Nat => low + i
    return .choice (counts.map fun n => .sequence (List.replicate n.toNat body))
  let least ← reachCount owner body body (smallFactors low.toNat low.toNat)
  if low = high then return least
  let more := (high - low + 1).toNat
  let optional ← reachFewer owner body body .empty (smallFactors more more)
  return .choice [.sequence [least, optional]]

end Helpers

namespace Body

/-- Whether a symbol leaves something in the result of parsing. -/
def leavesTrace (keepsTokens : Bool) (symbol : Symbol) : Bool :=
  match symbol.kind with
  | .rule => !isInlined symbol.name
  | .terminal => keepsTokens || !symbol.hidden

/-- The number of a repetition in a rule. -/
def countOf (text : String) : Int := (numberOf? text).getD 0

mutual

/-- The number of gaps that a bracket leaves: the most parts that one of its alternatives can leave in
the result. Helper rules leave none. -/
def gapCount (keepsTokens : Bool) : Body → Nat
  | .symbol name => if leavesTrace keepsTokens name then 1 else 0
  | .use template _ => if isInlined template.name then 0 else 1
  | .literal _ | .range _ _ | .reference _ => 0
  | .included body => gapCount keepsTokens body
  | .sequence parts => gapSum keepsTokens parts
  | .choice options => gapMax keepsTokens options
  | .named body _ => gapCount keepsTokens body
  | .bracket body => gapCount keepsTokens body
  | .repeated body .optional => gapCount keepsTokens body
  | .repeated _ _ => 0
  | .counted body low high =>
    let most := countOf (high.getD low)
    if most < manyTimes then most.toNat * gapCount keepsTokens body else 0

/-- The sum of the numbers of gaps. -/
def gapSum (keepsTokens : Bool) : List Body → Nat
  | [] => 0
  | body :: bodies => gapCount keepsTokens body + gapSum keepsTokens bodies

/-- The greatest of the numbers of gaps. -/
def gapMax (keepsTokens : Bool) : List Body → Nat
  | [] => 0
  | body :: bodies => max (gapCount keepsTokens body) (gapMax keepsTokens bodies)

end

mutual

/-- Whether a body gives a name to an alternative. -/
def hasAlias : Body → Bool
  | .symbol _ | .literal _ | .range _ _ | .use _ _ | .reference _ => false
  | .included body => hasAlias body
  | .sequence parts => anyAlias parts
  | .choice options => anyAlias options
  | .named _ _ => true
  | .bracket body => hasAlias body
  | .repeated body _ => hasAlias body
  | .counted body _ _ => hasAlias body

/-- Whether one of some bodies gives a name to an alternative. -/
def anyAlias : List Body → Bool
  | [] => false
  | body :: bodies => hasAlias body || anyAlias bodies

end

/-- Checks the repetitions of a rule: counts must be numbers that can be read, a range of counts must
not be empty nor negative, and no alternative in brackets may have a name. -/
def checkRepetition : Body → Except Failure Unit
  | .bracket body => if hasAlias body then .error (.rejected .visitFailed) else .ok ()
  | .counted _ low none => do discard (count low)
  | .counted _ low (some high) => do
    let least ← count low
    let most ← count high
    if most < least ∨ least < 0 then throw (.rejected .badRange)
  | _ => .ok ()

mutual

/-- The expression of the body of the rule `owner`. -/
def expression (owner : String) (keepsTokens : Bool) : Body → Helpers.Maker Expression
  | .symbol name => return .symbol name.kind name.name
  | .use template arguments => return .ofRule (Body.use template arguments).valueName
  | .literal _ | .range _ _ | .reference _ => return .empty
  | .included body => expression owner keepsTokens body
  | .sequence parts => return .sequence (← expressions owner keepsTokens parts)
  | .choice options => return .choice (← expressions owner keepsTokens options)
  | .named body label => return .named (← expression owner keepsTokens body) label.name
  | .bracket body => do
    let inner ← expression owner keepsTokens body
    return .choice [inner, .sequence (List.replicate (gapCount keepsTokens body) .gap)]
  | .repeated body .optional => do
    let inner ← expression owner keepsTokens body
    return .choice [inner, .empty]
  | .repeated body .some => do
    let inner ← expression owner keepsTokens body
    Helpers.some owner "plus" inner
  | .repeated body .many => do
    let inner ← expression owner keepsTokens body
    return .choice [← Helpers.some owner "star" inner, .empty]
  | .counted body low high => do
    let inner ← expression owner keepsTokens body
    Helpers.counted owner inner (countOf low) (countOf (high.getD low))

/-- The expressions of some bodies. -/
def expressions (owner : String) (keepsTokens : Bool) : List Body → Helpers.Maker (List Expression)
  | [] => return []
  | body :: bodies => do
    let first ← expression owner keepsTokens body
    return first :: (← expressions owner keepsTokens bodies)

end

end Body

end ReservedWords.Grammar
