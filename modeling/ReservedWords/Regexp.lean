import ReservedWords.Installation
import ReservedWords.Text.Blank
import ReservedWords.Text.CodePoint
import ReservedWords.Text.Digit
import ReservedWords.Text.Hexadecimal
import ReservedWords.Text.Identifier

/-!
Regular expressions, as far as a grammar is checked: whether an expression is well formed, how short
and how long its matches can be, and whether every look-behind has one length. `Regexp.measure` reads
an expression from left to right and keeps no tree of it.
-/

namespace ReservedWords.Regexp

open Text (CodePoint CodeText)

variable [Installation]

/-- Why an expression is refused. -/
inductive Fault where
  /-- It breaks the syntax. -/
  | malformed
  /-- A repetition count is too large to be stored. -/
  | overflow
  /-- Its flags exclude each other. -/
  | incompatible
  /-- It names a class of characters by its category. -/
  | unsupported
  /-- It names a character by a text with surrogates, which has no bytes. -/
  | unencodable
  deriving DecidableEq, Repr

/-- The lengths that matches can have. -/
structure Width where
  least : Nat
  most : Nat
  deriving DecidableEq, Repr

namespace Width

/-- Lengths from here on are not told apart. -/
def limit : Nat := 0x10000000000000000

/-- Counts from here on are refused; the count of an open repetition is this. -/
def unbounded : Nat := 0xFFFFFFFF

def cap (width : Width) : Width :=
  ⟨min width.least limit, min width.most limit⟩

/-- The width of the empty expression. -/
def zero : Width := ⟨0, 0⟩

/-- The width of a single character. -/
def one : Width := ⟨1, 1⟩

/-- One after the other. -/
def append (first second : Width) : Width :=
  cap ⟨first.least + second.least, first.most + second.most⟩

/-- One or the other. -/
def either (first second : Width) : Width :=
  ⟨min first.least second.least, max first.most second.most⟩

/-- At least `low` and at most `high` times. -/
def times (width : Width) (low high : Nat) : Width :=
  let most := if high = unbounded ∧ width.most ≠ 0 then limit else width.most * high
  cap ⟨width.least * low, most⟩

end Width

/-- What is known of a whole expression. -/
structure Measure where
  width : Width
  /-- The expression can be matched: every look-behind has one length only, and nothing is repeated
  in the template mode. -/
  usable : Bool
  deriving DecidableEq, Repr

/-- A code point, a code point with a backslash before it, or a backslash at the end. -/
inductive Sign where
  | plain (point : CodePoint)
  | escaped (point : CodePoint)
  | broken
  deriving DecidableEq, Repr

/-- The signs of an expression. -/
def signs : CodeText → List Sign
  | [] => []
  | [.char '\\'] => [.broken]
  | .char '\\' :: point :: rest => .escaped point :: signs rest
  | point :: rest => .plain point :: signs rest

/-- What has been read of an expression. -/
structure State where
  input : List Sign
  /-- The widths of the groups in the order of their opening; an open group has none. -/
  groups : List (Option Width) := []
  names : List (String × Nat) := []
  /-- Groups from this number on began inside the look-behind that is being read. -/
  lookBehind : Option Nat := none
  /-- The groups that conditions refer to. -/
  conditions : List Nat := []
  verbose : Bool := false
  ascii : Bool := false
  unicode : Bool := false
  template : Bool := false
  /-- Whether something is repeated. -/
  repeats : Bool := false
  /-- Whether every look-behind has one length. -/
  definite : Bool := true

abbrev Reader := StateT State (Except Fault)

def refuse {α : Type} : Reader α := throw .malformed

/-- The next sign, which stays. -/
def peek : Reader (Option Sign) := do
  return (← get).input.head?

/-- Goes on with the rest of an expression. A backslash at the end is refused as soon as it comes
next, whatever else would be wrong. -/
def advance (rest : List Sign) : Reader Unit := do
  if rest.head? = some .broken then refuse
  modify fun state => { state with input := rest }

/-- The next sign, which is taken. -/
def next? : Reader (Option Sign) := do
  let state ← get
  advance state.input.tail
  return state.input.head?

/-- Takes the next sign if it is the given character. -/
def accept (c : Char) : Reader Bool := do
  if (← peek) = some (.plain (.char c)) then
    discard next?
    return true
  return false

/-- Takes up to `count` characters of a class. -/
def takeWhile (allowed : Char → Bool) : (count : Nat) → Reader (List Char)
  | 0 => return []
  | count + 1 => do
    match ← peek with
    | some (.plain (.char c)) =>
      if allowed c then
        discard next?
        return c :: (← takeWhile allowed count)
      return []
    | _ => return []

/-- Cuts a list of signs at the first one that is the given character. -/
def splitAt? (stop : Char) : List Sign → Option (CodeText × List Sign)
  | [] => none
  | .plain point :: rest =>
    if point = .char stop then some ([], rest)
    else (splitAt? stop rest).map fun (text, rest) => (point :: text, rest)
  | .escaped point :: rest =>
    (splitAt? stop rest).map fun (text, rest) => (.char '\\' :: point :: text, rest)
  | .broken :: _ => none

/-- Takes a name up to the character that closes it. -/
def nameUntil (stop : Char) : Reader CodeText := do
  let state ← get
  match splitAt? stop state.input with
  | some (point :: text, rest) =>
    advance rest
    return point :: text
  | _ => refuse

def isOctal (c : Char) : Bool := '0' ≤ c && c ≤ '7'

def isDecimal (c : Char) : Bool := '0' ≤ c && c ≤ '9'

def isAsciiLetter (c : Char) : Bool := ('a' ≤ c && c ≤ 'z') || ('A' ≤ c && c ≤ 'Z')

/-- A name that a group can have. -/
def identifier? (name : CodeText) : Option String := do
  let chars ← name.chars?
  if Text.isIdentifier chars then return String.ofList chars
  failure

/-- The number of digits in some base. -/
def number (base : Nat) (digits : List Char) : Nat :=
  digits.foldl (fun total c => base * total + (Text.hexValue? c).getD 0) 0

/-- The number of a group as a condition writes it: blanks around it and a plus sign are allowed, and
single underscores between digits. -/
def groupNumber? (text : CodeText) : Option Nat := do
  let trimmed := Text.trim (← text.chars?)
  let digits := if trimmed.head? = some '+' then trimmed.tail else trimmed
  let spaced := digits.filter (· ≠ '_')
  let wellSpaced := digits.head? ≠ some '_' && digits.getLast? ≠ some '_'
    && !(digits.zip digits.tail).contains ('_', '_')
  if spaced ≠ [] ∧ spaced.all Text.isDigit ∧ wellSpaced then
    return spaced.foldl (fun total c => 10 * total + Text.digitValue c) 0
  failure

/-- Reads exactly `count` hexadecimal digits. -/
def codeOf (count : Nat) : Reader Nat := do
  let digits ← takeWhile (fun c => (Text.hexValue? c).isSome) count
  if digits.length = count then return number 16 digits
  refuse

/-- Reads the name of a character in braces. -/
def namedCharacter : Reader Char := do
  if !(← accept '\x7b') then refuse
  match (← nameUntil '\x7d').chars? with
  | none => throw .unencodable
  | some name =>
    match Installation.character? (String.ofList name) with
    | some c => return c
    | none => refuse

/-- The largest code point an octal escape may write. -/
def octalLimit : Nat := 0o377

/-- An escape of one letter that stands for a control character. -/
def control? (c : Char) : Option Nat :=
  if c = 'a' then some 7
  else if c = 'f' then some 12
  else if c = 'n' then some 10
  else if c = 'r' then some 13
  else if c = 't' then some 9
  else if c = 'v' then some 11
  else none

/-- A class of characters with an escape of its own. -/
def isClassEscape (c : Char) : Bool :=
  c = 'd' || c = 'D' || c = 's' || c = 'S' || c = 'w' || c = 'W'

/-- An escape for a place, which has no width. -/
def isAnchorEscape (c : Char) : Bool :=
  c = 'A' || c = 'b' || c = 'B' || c = 'Z'

/-- Reads the digits of an escape by code point, given its letter. -/
def codeEscape? (c : Char) : Option (Reader Nat) :=
  if c = 'x' then some (codeOf 2)
  else if c = 'u' then some (codeOf 4)
  else if c = 'U' then some do
    let code ← codeOf 8
    if code < 0x110000 then return code
    refuse
  else none

/-- The code point that an escape in a character set stands for; nothing for a class. -/
def setEscape (c : Char) : Reader (Option Nat) := do
  if isClassEscape c then return none
  if c = 'b' then return some 8
  if let some code := control? c then return some code
  if let some read := codeEscape? c then return some (← read)
  if c = 'N' then return some (← namedCharacter).toNat
  if isOctal c then
    let code := number 8 (c :: (← takeWhile isOctal 2))
    if octalLimit < code then refuse
    return some code
  if isDecimal c || isAsciiLetter c then refuse
  return some c.toNat

/-- What a sign of a character set stands for. -/
def setSign : Sign → Reader (Option Nat)
  | .plain point => return some point.toNat
  | .escaped (.char c) => setEscape c
  | .escaped (.surrogate index) => return some (CodePoint.surrogate index).toNat
  | .broken => refuse

/-- Reads the rest of a character set; a closing bracket closes it unless it comes first. -/
def setRest : (fuel : Nat) → (first : Bool) → Reader Unit
  | 0, _ => refuse
  | fuel + 1, first => do
    match ← next? with
    | none => refuse
    | some sign =>
      if sign = .plain (.char ']') ∧ !first then return
      let low ← setSign sign
      if ← accept '-' then
        match ← next? with
        | none => refuse
        | some (.plain (.char ']')) => return
        | some sign =>
          match low, ← setSign sign with
          | some low, some high => if high < low then refuse
          | _, _ => refuse
      setRest fuel false

/-- A part of a sequence, as far as a repetition after it has to know. -/
inductive Kind where
  | anchor
  | repeated
  | other
  deriving DecidableEq, Repr

/-- A sequence that is being read: the width of all but the last part, and the last part. -/
structure Line where
  before : Width := .zero
  last : Option (Kind × Width) := none

namespace Line

/-- The width of the whole sequence. -/
def width (line : Line) : Width :=
  match line.last with
  | none => line.before
  | some (_, last) => line.before.append last

/-- Adds a part. -/
def add (line : Line) (kind : Kind) (width : Width) : Line :=
  ⟨line.width, some (kind, width)⟩

end Line

/-- The width of a closed group. -/
def closedGroup? (state : State) (group : Nat) : Option Width :=
  if group = 0 then none else (state.groups[group - 1]?).join

/-- A reference inside a look-behind must be to a group that was closed before it. -/
def checkLookBehind (group : Nat) : Reader Unit := do
  let state ← get
  match state.lookBehind with
  | none => return
  | some limit =>
    if (closedGroup? state group).isNone then refuse
    if limit ≤ group then refuse

/-- A reference to a closed group. -/
def reference (group : Nat) : Reader (Kind × Width) := do
  match closedGroup? (← get) group with
  | none => refuse
  | some width =>
    checkLookBehind group
    return (.other, width)

/-- Reads an escape outside a character set. -/
def escape (c : Char) : Reader (Kind × Width) := do
  if isAnchorEscape c then return (.anchor, .zero)
  if isClassEscape c || (control? c).isSome then return (.other, .one)
  if let some read := codeEscape? c then
    discard read
    return (.other, .one)
  if c = 'N' then
    discard namedCharacter
    return (.other, .one)
  if c = '0' then
    discard (takeWhile isOctal 2)
    return (.other, .one)
  if isDecimal c then
    match ← takeWhile isDecimal 1 with
    | [d] =>
      if isOctal c && isOctal d then
        match ← takeWhile isOctal 1 with
        | [e] =>
          if octalLimit < number 8 [c, d, e] then refuse
          return (.other, .one)
        | _ => reference (number 10 [c, d])
      else reference (number 10 [c, d])
    | _ => reference (number 10 [c])
  else
    if isAsciiLetter c then refuse
    return (.other, .one)

/-- A number of repetitions. -/
def repetitionCount (digits : List Char) : Reader Nat := do
  let count := number 10 digits
  if Width.unbounded ≤ count then throw .overflow
  return count

/-- Reads the bounds of a repetition after its opening brace; without a closing brace in the right
place the opening one stands for itself, and nothing is read. -/
def bounds? : Reader (Option (Nat × Nat)) := do
  let state ← get
  if (← peek) = some (.plain (.char '\x7d')) then return none
  let length := state.input.length
  let low ← takeWhile isDecimal length
  let high ← if ← accept ',' then takeWhile isDecimal length else pure low
  if !(← accept '\x7d') then
    set state
    return none
  let low ← if low = [] then pure 0 else repetitionCount low
  if high = [] then return some (low, Width.unbounded)
  let high ← repetitionCount high
  if high < low then refuse
  return some (low, high)

/-- Repeats the last part of a sequence. A place cannot be repeated, nor can a repetition. -/
def repeatLast (line : Line) (low high : Nat) : Reader Line := do
  match line.last with
  | some (.other, width) =>
    if !(← accept '?') then discard (accept '+')
    modify fun state => { state with repeats := true }
    return ⟨line.before, some (.repeated, width.times low high)⟩
  | _ => refuse

/-- The flags that an expression may set. -/
structure Flags where
  verbose : Bool := false
  ascii : Bool := false
  unicode : Bool := false
  template : Bool := false
  seen : List Char := []

namespace Flags

def isFlag (c : Char) : Bool :=
  c = 'i' || c = 'L' || c = 'm' || c = 's' || c = 'x' || c = 'a' || c = 't' || c = 'u'

/-- Sets one flag; the two that choose an alphabet exclude each other, and the one for locales is
never allowed. -/
def add (flags : Flags) (c : Char) : Reader Flags := do
  let flags := { flags with seen := c :: flags.seen }
  if c = 'L' then refuse
  else if c = 'x' then return { flags with verbose := true }
  else if c = 'a' then
    if flags.unicode then refuse
    return { flags with ascii := true }
  else if c = 'u' then
    if flags.ascii then refuse
    return { flags with unicode := true }
  else if c = 't' then return { flags with template := true }
  else return flags

end Flags

/-- Reads flags to be set up to the sign after them, which is given back. -/
def flagsOn : (fuel : Nat) → Flags → Char → Reader (Flags × Char)
  | 0, _, _ => refuse
  | fuel + 1, flags, c => do
    let flags ← flags.add c
    match ← next? with
    | some (.plain (.char d)) =>
      if d = ')' ∨ d = '-' ∨ d = ':' then return (flags, d)
      if Flags.isFlag d then flagsOn fuel flags d else refuse
    | _ => refuse

/-- Reads flags to be cleared up to the colon after them. -/
def flagsOff : (fuel : Nat) → List Char → Char → Reader (List Char)
  | 0, _, _ => refuse
  | fuel + 1, cleared, c => do
    if c = 'a' ∨ c = 'u' ∨ c = 'L' then refuse
    match ← next? with
    | some (.plain (.char d)) =>
      if d = ':' then return c :: cleared
      if Flags.isFlag d then flagsOff fuel (c :: cleared) d else refuse
    | _ => refuse

/-- Reads the flags of a group. Nothing is given back for flags of the whole expression, else whether
the group sets or clears the verbose mode. -/
def groupFlags (fuel : Nat) (c : Char) : Reader (Option (Bool × Bool)) := do
  let (flags, stop) ← if c = '-' then pure ({}, '-') else flagsOn fuel {} c
  if stop = ')' then
    modify fun state =>
      { state with
        verbose := state.verbose || flags.verbose
        ascii := state.ascii || flags.ascii
        unicode := state.unicode || flags.unicode
        template := state.template || flags.template }
    return none
  if flags.template then refuse
  if stop = '-' then
    match ← next? with
    | some (.plain (.char d)) =>
      if !Flags.isFlag d then refuse
      let cleared ← flagsOff fuel [] d
      if cleared.contains 't' then refuse
      if cleared.any flags.seen.contains then refuse
      return some (flags.verbose, cleared.contains 'x')
    | _ => refuse
  return some (flags.verbose, false)

/-- Opens a capturing group and gives its number. -/
def openGroup (name : Option String) : Reader Nat := do
  let state ← get
  let group := state.groups.length + 1
  match name with
  | none => set { state with groups := state.groups ++ [none] }
  | some name =>
    if (state.names.lookup name).isSome then refuse
    set { state with groups := state.groups ++ [none], names := (name, group) :: state.names }
  return group

/-- Closes a capturing group. -/
def closeGroup (group : Nat) (width : Width) : Reader Unit :=
  modify fun state => { state with groups := state.groups.set (group - 1) (some width) }

/-- Takes the parenthesis that closes a group. -/
def closing : Reader Unit := do
  if !(← accept ')') then refuse

/-- Skips a comment up to its closing parenthesis. -/
def skipComment : Reader Unit := do
  let state ← get
  match splitAt? ')' state.input with
  | some (_, rest) => advance rest
  | none => refuse

/-- Skips a comment of the verbose mode up to the end of its line. -/
def skipLine : Reader Unit := do
  let state ← get
  match splitAt? '\n' state.input with
  | some (_, rest) => advance rest
  | none => if state.input.contains .broken then refuse else advance []

/-- The group that a condition refers to. -/
def conditionGroup (text : CodeText) : Reader Nat := do
  match identifier? text with
  | some name =>
    match (← get).names.lookup name with
    | some group => return group
    | none => refuse
  | none =>
    match groupNumber? text with
    | none | some 0 => refuse
    | some group =>
      modify fun state => { state with conditions := group :: state.conditions }
      return group

/-- A character that the verbose mode skips. -/
def isVerboseGap (c : Char) : Bool :=
  c = ' ' || c = '\t' || c = '\n' || c = '\r' || c = '\x0b' || c = '\x0c'

mutual

/-- Reads alternatives. `top` tells that they are those of the whole expression. -/
def alternatives : (fuel : Nat) → (verbose top first : Bool) → Reader Width
  | 0, _, _, _ => refuse
  | fuel + 1, verbose, top, first => do
    let width ← sequence fuel verbose (top && first) {}
    if ← accept '|' then
      let state ← get
      let others ← alternatives fuel (if top then state.verbose else verbose) top false
      return width.either others
    return width

/-- Reads a sequence up to a bar, a closing parenthesis or the end. `first` tells that flags of the
whole expression may still come. -/
def sequence : (fuel : Nat) → (verbose first : Bool) → Line → Reader Width
  | 0, _, _, _ => refuse
  | fuel + 1, verbose, first, line => do
    match ← peek with
    | none => return line.width
    | some .broken => refuse
    | some (.escaped (.char c)) =>
      discard next?
      let (kind, width) ← escape c
      sequence fuel verbose first (line.add kind width)
    | some (.escaped (.surrogate _)) | some (.plain (.surrogate _)) =>
      discard next?
      sequence fuel verbose first (line.add .other .one)
    | some (.plain (.char c)) =>
      if c = '|' ∨ c = ')' then return line.width
      discard next?
      if verbose && isVerboseGap c then sequence fuel verbose first line
      else if verbose && c = '#' then
        skipLine
        sequence fuel verbose first line
      else if c = '[' then
        discard (accept '^')
        setRest fuel true
        sequence fuel verbose first (line.add .other .one)
      else if c = '?' then
        sequence fuel verbose first (← repeatLast line 0 1)
      else if c = '*' then
        sequence fuel verbose first (← repeatLast line 0 Width.unbounded)
      else if c = '+' then
        sequence fuel verbose first (← repeatLast line 1 Width.unbounded)
      else if c = '\x7b' then
        match ← bounds? with
        | none => sequence fuel verbose first (line.add .other .one)
        | some (low, high) => sequence fuel verbose first (← repeatLast line low high)
      else if c = '^' ∨ c = '$' then sequence fuel verbose first (line.add .anchor .zero)
      else if c = '(' then
        if ← accept '?' then
          match ← next? with
          | some (.plain (.char mark)) => extension fuel mark verbose first line
          | _ => refuse
        else capture fuel none verbose first line
      else sequence fuel verbose first (line.add .other .one)

/-- Reads a capturing group and what follows it. -/
def capture : (fuel : Nat) → Option String → (verbose first : Bool) → Line → Reader Width
  | 0, _, _, _, _ => refuse
  | fuel + 1, name, verbose, first, line => do
    let group ← openGroup name
    let width ← alternatives fuel verbose false true
    closing
    closeGroup group width
    sequence fuel verbose first (line.add .other width)

/-- Reads a group that starts with a question mark and another character, and what follows it. -/
def extension : (fuel : Nat) → Char → (verbose first : Bool) → Line → Reader Width
  | 0, _, _, _, _ => refuse
  | fuel + 1, mark, verbose, first, line => do
    if mark = 'P' then
      if ← accept '<' then
        match identifier? (← nameUntil '>') with
        | none => refuse
        | some name => capture fuel (some name) verbose first line
      else if ← accept '=' then
        let text ← nameUntil ')'
        let names := (← get).names
        match (identifier? text).bind (names.lookup ·) with
        | none => refuse
        | some group =>
          let (kind, width) ← reference group
          sequence fuel verbose first (line.add kind width)
      else refuse
    else if mark = ':' ∨ mark = '>' then
      let width ← alternatives fuel verbose false true
      closing
      sequence fuel verbose first (line.add .other width)
    else if mark = '#' then
      skipComment
      sequence fuel verbose first line
    else if mark = '=' ∨ mark = '!' then
      discard (alternatives fuel verbose false true)
      closing
      sequence fuel verbose first (line.add .other .zero)
    else if mark = '<' then
      let known ← if ← accept '=' then pure true else accept '!'
      if !known then refuse
      let outer := (← get).lookBehind
      if outer.isNone then
        modify fun state => { state with lookBehind := some (state.groups.length + 1) }
      let width ← alternatives fuel verbose false true
      modify fun state =>
        { state with
          lookBehind := outer
          definite := state.definite && width.least == width.most
            && decide (width.least ≤ Width.unbounded) }
      closing
      sequence fuel verbose first (line.add .other .zero)
    else if mark = '(' then
      let name ← nameUntil ')'
      let group ← conditionGroup name
      checkLookBehind group
      let yes ← sequence fuel verbose false {}
      let no ← if ← accept '|' then sequence fuel verbose false {} else pure Width.zero
      closing
      sequence fuel verbose first (line.add .other (yes.either no))
    else if Flags.isFlag mark ∨ mark = '-' then
      match ← groupFlags fuel mark with
      | none => do
        if !first || line.last.isSome then refuse
        let state ← get
        sequence fuel state.verbose first line
      | some (on, off) => do
        let width ← alternatives fuel ((verbose || on) && !off) false true
        closing
        sequence fuel verbose first (line.add .other width)
    else refuse

end

/-- Reads a whole expression. -/
def whole (length : Nat) : Reader Measure := do
  let width ← alternatives (4 * length + 4) false true true
  let state ← get
  if state.ascii && state.unicode then throw .incompatible
  if state.input ≠ [] then refuse
  if state.conditions.any (state.groups.length < ·) then refuse
  return ⟨width, state.definite && !(state.template && state.repeats)⟩

/-- The measure of an expression, or why it is refused. -/
def measure (expression : CodeText) : Except Fault Measure := do
  let input := signs expression
  if input.head? = some .broken then throw .malformed
  let (measure, _) ← (whole input.length).run { input }
  return measure

/-- Whether an expression names a category of characters somewhere. -/
def namesCategory : CodeText → Bool
  | [] => false
  | point :: rest =>
    let here :=
      match point, rest with
      | .char '\\', .char 'p' :: .char '\x7b' :: name =>
        let lettered (point : CodePoint) : Bool :=
          point.char?.any fun c => isAsciiLetter c || c = '_'
        name.takeWhile lettered ≠ [] && (name.dropWhile lettered).head? == some (.char '\x7d')
      | _, _ => false
    here || namesCategory rest

/-- The lengths that matches of an expression can have. -/
def widthOf (expression : CodeText) : Except Fault Width :=
  if namesCategory expression then .error .unsupported
  else (measure expression).map Measure.width

end ReservedWords.Regexp
