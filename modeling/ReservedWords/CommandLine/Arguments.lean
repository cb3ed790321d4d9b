import ReservedWords.CommandLine.Switch

/-!
Arguments: what a command line says, given what it may hold. Words are taken from left to right; a
switch takes its value from its own word or from the next one, and any other word is the next operand.
What finds no place is left over.
-/

namespace ReservedWords.CommandLine

/-- One thing that a command line says. A switch is told by the first of its names. -/
inductive Argument where
  | switch (name : String) (value : Option String)
  | operand (name : String) (words : List String)
  deriving DecidableEq, Repr

/-- What a command line says, in order, and the words left over. -/
structure Arguments where
  said : List Argument
  leftover : List String
  deriving DecidableEq, Repr

/-- Why a command line says nothing: help is asked for, or it is refused. -/
inductive Stop where
  | help
  | refused (refusal : Refusal)
  deriving DecidableEq, Repr

/-- The switches that one word holds. -/
structure Cluster where
  /-- Those that have all they need. -/
  taken : List (Switch × Option String) := []
  /-- The last one, if its value is still to come. -/
  waiting : Option Switch := none
  /-- What no switch of one letter starts, with a hyphen before it. -/
  leftover : Option String := none
  deriving DecidableEq, Repr

namespace Cluster

/-- A switch that ends its word. -/
def ending (switch : Switch) : Cluster :=
  if switch.effect = .value then { waiting := some switch } else { taken := [(switch, none)] }

/-- A switch with a text behind an equals sign. -/
def assigned (switch : Switch) (value : List Char) : Except Refusal Cluster :=
  if switch.effect = .value then .ok { taken := [(switch, some (String.ofList value))] }
  else .error (.ignoredValue switch (String.ofList value))

/-- The same cluster with a switch before it. -/
def after (switch : Switch) (cluster : Cluster) : Cluster :=
  { cluster with taken := (switch, none) :: cluster.taken }

/-- A switch with a text right behind it: its value, or more switches of one letter. -/
def adjoining (interface : Interface) : Switch → List Char → Except Refusal Cluster
  | switch, [] => .ok (ending switch)
  | switch, letter :: rest =>
    if switch.effect = .value then
      .ok { taken := [(switch, some (String.ofList (letter :: rest)))] }
    else if letter = '-' then .error (.ignoredValue switch (String.ofList (letter :: rest)))
    else
      match interface.find? ['-', letter] with
      | none =>
        .ok { taken := [(switch, none)], leftover := some (String.ofList ('-' :: letter :: rest)) }
      | some next =>
        match rest with
        | '=' :: value => (assigned next value).map (after switch)
        | _ => (adjoining interface next rest).map (after switch)

/-- The switches that a switch and what is attached to it hold. -/
def ofAttachment (interface : Interface) (switch : Switch) : Attachment → Except Refusal Cluster
  | .nothing => .ok (ending switch)
  | .assigned value => assigned switch value
  | .adjoining text => adjoining interface switch text

/-- The switch that waits for a value takes the next word, which must be plain. -/
def supply (cluster : Cluster) (words : List Word)
    : Except Refusal (List (Switch × Option String) × List Word) :=
  match cluster.waiting, words with
  | none, _ => .ok (cluster.taken, words)
  | some switch, ⟨value, .plain⟩ :: rest => .ok (cluster.taken ++ [(switch, some value)], rest)
  | some switch, _ => .error (.missingValue switch)

/-- No words come back that were not there. -/
theorem length_of_supply {cluster : Cluster} {words rest : List Word}
    {taken : List (Switch × Option String)} (h : cluster.supply words = .ok (taken, rest))
    : rest.length ≤ words.length := by
  unfold supply at h
  split at h
  · cases h; exact Nat.le_refl _
  · cases h; exact Nat.le_succ _
  · cases h

end Cluster

namespace Operand

/-- Whether a word is a separator. -/
def isSeparator (word : Word) : Bool :=
  word.reading = .separator

/-- The words of an operand at the front of a command line: a plain word with the separators around
it, or a plain word and everything behind it. -/
def take? (operand : Operand) (words : List Word) : Option (List String × List Word) :=
  match words.dropWhile isSeparator with
  | ⟨text, .plain⟩ :: rest =>
    let before := (words.takeWhile isSeparator).map Word.text
    if operand.takesRest then some (before ++ text :: rest.map Word.text, [])
    else
      some (before ++ text :: (rest.takeWhile isSeparator).map Word.text,
        rest.dropWhile isSeparator)
  | _ => none

/-- An operand takes at least one word. -/
theorem length_of_take? {operand : Operand} {words rest : List Word} {taken : List String}
    (h : operand.take? words = some (taken, rest)) : rest.length < words.length := by
  have whole := (List.dropWhile_suffix isSeparator (l := words)).length_le
  unfold take? at h
  split at h
  · next text tail eq =>
    have part := (List.dropWhile_suffix isSeparator (l := tail)).length_le
    rw [eq, List.length_cons] at whole
    dsimp only at h
    split at h <;> cases h
    · exact Nat.lt_of_lt_of_le (Nat.succ_pos _) whole
    · exact Nat.lt_of_le_of_lt part whole
  · cases h

end Operand

namespace Arguments

/-- The same arguments with others before them. -/
def preceded (said : List Argument) (leftover : List String) (arguments : Arguments) : Arguments :=
  ⟨said ++ arguments.said, leftover ++ arguments.leftover⟩

/-- What switches say. -/
def ofSwitches (taken : List (Switch × Option String)) : List Argument :=
  taken.map fun (switch, value) => .switch (switch.names.headD "") value

/-- Whether a switch asks for help. -/
def asksHelp (taken : List (Switch × Option String)) : Bool :=
  taken.any fun (switch, _) => switch.effect = .help

/-- Takes words from left to right, with the operands that are still to come. -/
def collect (interface : Interface) (operands : List Operand) (words : List Word)
    : Except Stop Arguments :=
  match words with
  | [] => .ok ⟨[], []⟩
  | word :: rest =>
    match word.reading with
    | .known switch attachment =>
      match Cluster.ofAttachment interface switch attachment with
      | .error refusal => .error (.refused refusal)
      | .ok cluster =>
        match _supplied : cluster.supply rest with
        | .error refusal => .error (.refused refusal)
        | .ok (taken, rest) =>
          if asksHelp taken then .error .help
          else
            (collect interface operands rest).map
              (preceded (ofSwitches taken) cluster.leftover.toList)
    | .unknown => (collect interface operands rest).map (preceded [] [word.text])
    | _ =>
      match operands with
      | [] => (collect interface [] rest).map (preceded [] [word.text])
      | operand :: others =>
        match _taken : operand.take? (word :: rest) with
        | none =>
          (collect interface (operand :: others) rest).map (preceded [] [word.text])
        | some (texts, rest) =>
          (collect interface others rest).map (preceded [.operand operand.name texts] [])
termination_by words.length
decreasing_by
  all_goals first
    | exact Nat.lt_succ_of_le (Cluster.length_of_supply ‹_›)
    | exact Operand.length_of_take? ‹_›
    | exact Nat.lt_succ_self _

/-- Whether an operand is there. -/
def hasOperand (arguments : Arguments) (name : String) : Bool :=
  arguments.said.any fun
    | .operand other _ => other = name
    | .switch _ _ => false

/-- Whether a switch is there. -/
def hasSwitch (arguments : Arguments) (name : String) : Bool :=
  arguments.said.any fun
    | .switch other _ => other = name
    | .operand _ _ => false

/-- The value of a switch; of several the last counts. -/
def valueOf (arguments : Arguments) (name : String) : Option String :=
  (arguments.said.filterMap fun
    | .switch other value => if other = name then value else none
    | .operand _ _ => none).getLast?

/-- The words of an operand. -/
def wordsOf (arguments : Arguments) (name : String) : List String :=
  arguments.said.flatMap fun
    | .operand other words => if other = name then words else []
    | .switch _ _ => []

/-- The word of an operand. A separator beside it does not count, and there is nothing else if the
word itself is two hyphens. -/
def wordOf (arguments : Arguments) (name : String) : Option String :=
  ((arguments.wordsOf name).erase "--").head?

/-- What must be there and is not: operands, then switches. -/
def missing (interface : Interface) (arguments : Arguments) : List String :=
  ((interface.operands.filter fun operand => !arguments.hasOperand operand.name).map (·.name))
    ++ ((interface.switches.filter fun switch =>
      switch.required && !arguments.hasSwitch (switch.names.headD "")).map Switch.label)

/-- What a command line says. Words left over are no fault here. -/
def parse (interface : Interface) (words : List String) : Except Stop Arguments :=
  match interface.readAll words with
  | .error refusal => .error (.refused refusal)
  | .ok read =>
    match collect interface interface.operands read with
    | .error stop => .error stop
    | .ok arguments =>
      match missing interface arguments with
      | [] => .ok arguments
      | names => .error (.refused (.missing names))

end Arguments

end ReservedWords.CommandLine
