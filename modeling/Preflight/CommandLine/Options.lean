/-!
# Command-line options

A list of options describes what a command accepts.  `scan` reads words from left to right and
answers the options it met, in order, together with how it stopped: at the end, at a word that is
no option, at a request for help or the version, or at a mistake.

An option has a long name and perhaps a letter.  One that takes a value finds it after `=`, in the
rest of a cluster of letters, or in the next word, which must not look like an option itself.
-/

namespace Preflight

namespace CommandLine

/-- An option that a command accepts. -/
structure OptionSpec where
  name : String
  letter : Option Char := none
  takesValue : Bool := true
  deriving DecidableEq, Repr

/-- What a command accepts. -/
structure CommandSpec where
  options : List OptionSpec
  /-- Whether the command can be asked for the version. -/
  hasVersion : Bool := false
  deriving DecidableEq, Repr

/-- An option as it was given; a switch has no value. -/
structure Given where
  name : String
  value : Option String
  deriving DecidableEq, Repr

/-- How reading options stopped. -/
inductive Stop where
  | finished
  /-- At a word that is no option, with the words after it. -/
  | word (word : String) (rest : List String)
  | help
  | version
  | mistake
  deriving DecidableEq, Repr

/-- Whether a word can be the value of an option before it. -/
def isValueWord (word : String) : Bool := word == "-" || word.toList.head? != some '-'

/-- Cut a long option at its first `=`. -/
def splitLong (cs : List Char) : String × Option String :=
  match cs.span (· != '=') with
  | (name, _ :: value) => (String.ofList name, some (String.ofList value))
  | (name, []) => (String.ofList name, none)

/-- The options that a cluster of letters gives, or how it stops the reading.  The second
component says whether the next word is the value of the last option, which is then still
missing. -/
def scanCluster (spec : CommandSpec) : List Char → Except Stop (List Given × Option String)
  | [] => .ok ([], none)
  | c :: cs =>
    if c = 'h' then .error .help
    else if c = 'V' && spec.hasVersion then .error .version
    else
      match spec.options.find? fun o => o.letter == some c with
      | none => .error .mistake
      | some o =>
        if o.takesValue then
          match cs with
          | [] => .ok ([], some o.name)
          | '=' :: value => .ok ([⟨o.name, some (String.ofList value)⟩], none)
          | value => .ok ([⟨o.name, some (String.ofList value)⟩], none)
        else
          (scanCluster spec cs).map fun (given, pending) => (⟨o.name, none⟩ :: given, pending)

/-- The options of a cluster up to the letter that stops the reading. -/
def clusterBefore (spec : CommandSpec) (cs : List Char) : List Given :=
  (cs.takeWhile fun c =>
    spec.options.any fun o => o.letter == some c && !o.takesValue).filterMap fun c =>
      (spec.options.find? fun o => o.letter == some c).map fun o => ⟨o.name, none⟩

/-- Read options until something stops the reading. -/
def scan (spec : CommandSpec) : List String → List Given × Stop
  | [] => ([], .finished)
  | word :: words =>
    match word.toList with
    | ['-', '-'] => ([], if words.isEmpty then .finished else .mistake)
    | '-' :: '-' :: cs =>
      match splitLong cs with
      | ("help", none) => ([], .help)
      | ("version", none) => ([], if spec.hasVersion then .version else .mistake)
      | (name, value) =>
        match spec.options.find? fun o => o.name == name with
        | none => ([], .mistake)
        | some o =>
          match o.takesValue, value, words with
          | false, some _, _ => ([], .mistake)
          | false, none, words =>
            let (given, stop) := scan spec words
            (⟨name, none⟩ :: given, stop)
          | true, some value, words =>
            let (given, stop) := scan spec words
            (⟨name, some value⟩ :: given, stop)
          | true, none, [] => ([], .mistake)
          | true, none, value :: words =>
            if isValueWord value then
              let (given, stop) := scan spec words
              (⟨name, some value⟩ :: given, stop)
            else ([], .mistake)
    | '-' :: c :: cs =>
      match scanCluster spec (c :: cs) with
      | .error stop => (clusterBefore spec (c :: cs), stop)
      | .ok (given, none) =>
        let (more, stop) := scan spec words
        (given ++ more, stop)
      | .ok (given, some name) =>
        match words with
        | [] => (given, .mistake)
        | value :: words =>
          if isValueWord value then
            let (more, stop) := scan spec words
            (given ++ ⟨name, some value⟩ :: more, stop)
          else (given, .mistake)
    | _ => ([], .word word words)

/-! ## Picking options -/

/-- The values of an option, in the order given. -/
def valuesOf (name : String) (given : List Given) : List String :=
  (given.filter (·.name == name)).filterMap (·.value)

/-- The value of an option that may be given once. -/
def valueOf? (name : String) (given : List Given) : Option String := (valuesOf name given).head?

/-- Whether a switch is given. -/
def hasSwitch (name : String) (given : List Given) : Bool := given.any (·.name == name)

/-- Whether an option that may be given once only is given again. -/
def isRepeated (repeatable : List String) (given : List Given) : Bool :=
  given.any fun g => !repeatable.contains g.name && 1 < given.countP (·.name == g.name)

end CommandLine

end Preflight
