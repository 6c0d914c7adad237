import Cyclomatic.Number.Reading

/-!
Reading a command line. A word starting with `-` is an option, named exactly, with its value
attached, or by a unique prefix of a long name; a prefix of two names is refused first. A word
that looks like a negative number or holds a blank is positional, as is every word after `--`.
Positional words fill the slots in turn; a value its option or slot does not accept refuses the
line at once, a stopping option (help, version) ends the reading, and left-over words, unknown
options and a missing required slot are refused only at the end.
-/

namespace Cyclomatic

namespace Args

/-- An integer as a command line gives it: as the integer constructor reads base 10. -/
def parseInt (s : String) : Option Int :=
  (NumberText.readInt s 10).toOption

inductive ValueKind where
  | text
  | int
  | oneOf (choices : List String)
deriving Repr

def ValueKind.accepts : ValueKind → String → Bool
  | .text, _ => true
  | .int, s => (parseInt s).isSome
  | .oneOf choices, s => choices.contains s

/-- What an option does: keeps a value, sets a flag, or ends the reading. -/
inductive Action where
  | store (kind : ValueKind)
  | flag
  | stop
deriving Repr

structure OptionSpec where
  names : List String
  key : String
  action : Action
deriving Repr

structure Slot where
  name : String
  optional : Bool
  kind : ValueKind
deriving Repr

structure Spec where
  options : List OptionSpec
  slots : List Slot
deriving Repr

/-- What a command line gives: the value of each option given (flags as `"true"`), and the
positional words by slot. -/
structure Parsed where
  values : List (String × String) := []
  positionals : List (String × String) := []
deriving Repr

def Parsed.get? (p : Parsed) (key : String) : Option String :=
  (p.values.lookup key).orElse fun _ => p.positionals.lookup key

def Parsed.flag (p : Parsed) (key : String) : Bool := (p.values.lookup key).isSome

def Parsed.record (p : Parsed) (key value : String) : Parsed :=
  { p with values := (key, value) :: p.values.filter (·.1 != key) }

/-- How reading a command line ends: with its values, at a stopping option (named by its key),
or refused. -/
inductive Reading where
  | done (p : Parsed)
  | stopped (key : String)
  | refused
deriving Repr

/-- A word of a command line as classified: an option with the spelling it matched and an
attached value, a positional word, an option that is not known, or the `--` after which every
word is positional. -/
inductive Word where
  | option (spec : OptionSpec) (spelling : String) (attached : Option String)
  | positional (w : String)
  | unknown (w : String)
  | separator
deriving Repr

/-- Whether a word looks like a negative number: `-` then decimal digits of any script, or
such digits with a point and more digits; one line break may end it. -/
def isNegativeNumber (w : String) : Bool :=
  let cs := match w.toList.reverse with
    | '\n' :: rest => rest.reverse
    | _ => w.toList
  match cs with
  | '-' :: rest =>
    let ds := rest.takeWhile Unicode.isDecimal
    match rest.dropWhile Unicode.isDecimal with
    | [] => !ds.isEmpty
    | '.' :: more => !more.isEmpty && more.all Unicode.isDecimal
    | _ => false
  | _ => false

def exact (spec : Spec) (name : String) : Option OptionSpec :=
  spec.options.find? fun o => o.names.contains name

/-- Classifies one word that starts with `-`: none when it is the prefix of two names. -/
def classify (spec : Spec) (w : String) : Option Word :=
  match exact spec w with
  | some o => some (.option o w none)
  | none =>
    let (name, attached) := match w.splitOn "=" with
      | n :: v :: more => (n, some ("=".intercalate (v :: more)))
      | _ => (w, none)
    match (if attached.isSome then exact spec name else none) with
    | some o => some (.option o name attached)
    | none =>
      let candidates : List (OptionSpec × String × Option String) :=
        if w.startsWith "--" then
          spec.options.flatMap fun o =>
            (o.names.filter (·.startsWith name)).map fun n => (o, n, attached)
        else
          let short := String.ofList (w.toList.take 2)
          let rest := String.ofList (w.toList.drop 2)
          spec.options.flatMap fun o =>
            o.names.filterMap fun n =>
              if n == short then some (o, n, some rest)
              else if n.startsWith w then some (o, n, none)
              else none
      match candidates with
      | [(o, n, a)] => some (.option o n a)
      | [] =>
        if isNegativeNumber w || w.contains ' ' then some (.positional w) else some (.unknown w)
      | _ => none

def classifyAll (spec : Spec) : List String → Option (List Word)
  | [] => some []
  | w :: rest =>
    if w == "--" then some (.separator :: rest.map .positional)
    else if w.startsWith "-" && w.length > 1 then do
      let word ← classify spec w
      pure (word :: (← classifyAll spec rest))
    else do pure (.positional w :: (← classifyAll spec rest))

/-- The options one option word stands for, in order, each with its attached value: a
single-letter flag with more letters attached stands for itself and the option those letters
spell. None when a flag is given a value. -/
def expand (spec : Spec) : Nat → OptionSpec → String → Option String →
    Option (List (OptionSpec × Option String))
  | 0, _, _, _ => none
  | fuel + 1, o, spelling, attached =>
    match o.action, attached with
    | .store _, _ => some [(o, attached)]
    | _, none => some [(o, none)]
    | _, some more =>
      if more.isEmpty || spelling.startsWith "--" then none
      else
        let next := "-" ++ String.ofList (more.toList.take 1)
        let after := String.ofList (more.toList.drop 1)
        match exact spec next with
        | some o' =>
          (expand spec fuel o' next (if after.isEmpty then none else some after)).map
            ((o, none) :: ·)
        | none => none

/-- The options of one word with the value of the last one filled in from the next word when
it takes one and none is attached, and the words after them. -/
def fillValue (options : List (OptionSpec × Option String)) (rest : List Word) :
    Option (List (OptionSpec × Option String) × List Word) :=
  match options.getLast? with
  | some (o, none) =>
    match o.action, rest with
    | .store _, .positional v :: after => some (options.dropLast ++ [(o, some v)], after)
    | .store _, _ => none
    | _, _ => some (options, rest)
  | _ => some (options, rest)

def carryOut : List (OptionSpec × Option String) → Parsed → Except Reading Parsed
  | [], p => .ok p
  | (o, value) :: more, p =>
    match o.action with
    | .stop => .error (.stopped o.key)
    | .flag => carryOut more (p.record o.key "true")
    | .store kind =>
      let v := value.getD ""
      if kind.accepts v then carryOut more (p.record o.key v) else .error .refused

/-- Takes the classified words in order, with the slots still open, whether some word was left
over, and whether the word before filled a slot. -/
def collect (spec : Spec) : Nat → List Word → Parsed → List Slot → Bool → Bool → Reading
  | 0, _, _, _, _, _ => .refused
  | _ + 1, [], p, slots, leftOver, _ =>
    if leftOver || slots.any (!·.optional) then .refused else .done p
  | fuel + 1, .positional w :: rest, p, slots, leftOver, _ =>
    match slots with
    | [] => collect spec fuel rest p [] true false
    | slot :: more =>
      if slot.kind.accepts w then
        collect spec fuel rest { p with positionals := p.positionals ++ [(slot.name, w)] } more
          leftOver true
      else .refused
  | fuel + 1, .separator :: rest, p, slots, leftOver, filled =>
    collect spec fuel rest p slots (leftOver || !(filled || !slots.isEmpty)) filled
  | fuel + 1, .unknown _ :: rest, p, slots, _, _ => collect spec fuel rest p slots true false
  | fuel + 1, .option o spelling attached :: rest, p, slots, leftOver, _ =>
    match expand spec (spelling.length + 1) o spelling attached with
    | none => .refused
    | some options =>
      match fillValue options rest with
      | none => .refused
      | some (options, rest) =>
        match carryOut options p with
        | .error r => r
        | .ok p => collect spec fuel rest p slots leftOver false

def parse (spec : Spec) (words : List String) : Reading :=
  match classifyAll spec words with
  | none => .refused
  | some ws => collect spec (ws.length + 1) ws {} spec.slots false false

end Args

end Cyclomatic
