import LoadSeries.Command.Tree
import LoadSeries.Record.Encoding
import LoadSeries.Text.Integer

/-!
The arguments of a run from the words of a command line. A value is read when the next option
begins, or the words end; an option may be given once.
-/
namespace LoadSeries.Command

open Text

inductive Target where
  | file
  | stdout
deriving DecidableEq, Repr

namespace Target

def name : Target → String
  | file => "file"
  | stdout => "stdout"

def ofName? (s : String) : Option Target := [file, stdout].find? (·.name == s)

/-- The options of a target. Only a file has to be named. -/
def settings (x : Target) : List Setting :=
  Setting.all.filter fun setting => setting ≠ .output || x = .file

end Target

def commands : List Tree :=
  [.command "populate" [.command Target.file.name [], .command Target.stdout.name []]]

structure Draft where
  output : Option String := none
  dataset : Option String := none
  seed : Option Int64 := none
  userType : Option UInt32 := none
  mode : Option Mode := none
  metric : Option String := none
  separator : Option Char := none
  batchSize : Option Nat := none
  queueCapacity : Option Nat := none
  dryRun : Bool := false
deriving DecidableEq, Repr

namespace Draft

def has (x : Draft) : Setting → Bool
  | .output => x.output.isSome
  | .dataset => x.dataset.isSome
  | .seed => x.seed.isSome
  | .userType => x.userType.isSome
  | .encoding => x.mode.isSome
  | .metric => x.metric.isSome
  | .separator => x.separator.isSome
  | .batchSize => x.batchSize.isSome
  | .queueCapacity => x.queueCapacity.isSome

def path (setting : Setting) (value : String) : Except UsageError String :=
  if value == "" then .error (.invalidValue setting) else .ok value

def integer (setting : Setting) (below above : Nat) (value : String) : Except UsageError Int :=
  (readInteger below above value.toList).mapError fun _ => .unreadableValue setting none

def maxSize : Nat := 0xffffffffffffffff

/-- A size, which no minus sign may precede, not even that of a zero. -/
def size (setting : Setting) (value : String) : Except UsageError Nat :=
  if value.toList.head? == some '-' then .error (.unreadableValue setting none)
  else Int.toNat <$> integer setting 0 maxSize value

def separatorOf (value : String) : Except UsageError Char :=
  let refuse (reason : String) : Except UsageError Char :=
    .error (.unreadableValue .separator (some reason))
  match value.toList with
  | [c] =>
    match Line.checkSeparator c with
    | .ok _ => .ok c
    | .error e => refuse e.message
  | _ => refuse ("expected a single character, got '" ++ value ++ "'")

def read (x : Draft) (setting : Setting) (value : String) : Except UsageError Draft := do
  match setting with
  | .output => return { x with output := some (← path setting value) }
  | .dataset => return { x with dataset := some (← path setting value) }
  | .seed =>
    return { x with seed := some (Int64.ofInt (← integer setting 0x8000000000000000 0x7fffffffffffffff value)) }
  | .userType =>
    return { x with userType := some (← integer setting 0 0xffffffff value).toNat.toUInt32 }
  | .encoding =>
    match Mode.ofName? value with
    | some mode => return { x with mode := some mode }
    | none => throw (.invalidValue setting)
  | .metric => return { x with metric := some value }
  | .separator => return { x with separator := some (← separatorOf value) }
  | .batchSize => return { x with batchSize := some (← size setting value) }
  | .queueCapacity => return { x with queueCapacity := some (← size setting value) }

def set (x : Draft) (setting : Setting) (value : String) : Except UsageError Draft :=
  if x.has setting then .error (.repeated setting.usage) else x.read setting value

end Draft

inductive Word where
  | setting (setting : Setting) (value : Option String)
  | flag (flag : Flag) (hasValue : Bool)
  | unknown (shown : String)
  | plain

namespace Word

/-- An option by its name, with what is attached to it behind an equals sign. -/
def long (settings : List Setting) (word : String) (body : List Char) : Word :=
  let name := String.ofList (body.takeWhile (· != '='))
  let attached : Option String := match body.dropWhile (· != '=') with
    | _ :: value => some (String.ofList value)
    | [] => none
  match settings.find? (·.name == name) with
  | some found => .setting found attached
  | none =>
    match [Flag.dryRun, Flag.help].find? (·.name == name) with
    | some found => .flag found attached.isSome
    | none => .unknown (Tree.shownOption word)

/-- An option by its letter, with what is attached to it, behind an equals sign or not. -/
def short (settings : List Setting) (word : String) (letter : Char) (body : List Char) : Word :=
  match settings.find? (·.letter? == some letter) with
  | some found =>
    match body with
    | [] => .setting found none
    | '=' :: value => .setting found (some (String.ofList value))
    | value => .setting found (some (String.ofList value))
  | none =>
    if Flag.help.letter? == some letter then .flag .help false
    else .unknown (Tree.shownOption word)

def ofString (settings : List Setting) (word : String) : Word :=
  match word.toList with
  | '-' :: '-' :: body => long settings word body
  | '-' :: letter :: body => short settings word letter body
  | _ => plain

/-- Whether digits, with a point and an exponent behind the first, make up a number. -/
def isNumber (seenPoint seenExponent isFirst : Bool) : List Char → Bool
  | [] => true
  | c :: rest =>
    if isDigit c then isNumber seenPoint seenExponent false rest
    else if c == '.' then
      !isFirst && !seenPoint && !seenExponent && isNumber true seenExponent false rest
    else if c == 'e' then
      !isFirst && !seenExponent && !rest.isEmpty && isNumber seenPoint true false rest
    else false

def isNegativeNumber (word : String) : Bool :=
  match word.toList with
  | '-' :: body => !body.isEmpty && isNumber false false true body
  | _ => false

end Word

structure Parsing where
  draft : Draft
  /-- The option named last, with its value as soon as that has come. -/
  pending : Option (Setting × Option String)

namespace Parsing

def settle (x : Parsing) : Except UsageError Draft :=
  match x.pending with
  | none => .ok x.draft
  | some (setting, none) => .error (.invalidValue setting)
  | some (setting, some value) => x.draft.set setting value

/-- Whether the next word is taken for a value. A hyphen in front of a number is no option where a
seed is wanted. -/
def takesValue (x : Parsing) (word : String) (kind : Word) : Option Setting :=
  match x.pending, kind with
  | some (setting, none), .plain => some setting
  | some (.seed, none), _ => if Word.isNegativeNumber word then some .seed else none
  | _, _ => none

/-- Takes a word that begins an option, or is none. -/
def begin? (x : Parsing) (word : String) : Word → Except UsageError Parsing
  | .plain => .error (.unknownArgument word)
  | .unknown shown => .error (.unknownArgument shown)
  | .flag flag true => .error (.attachedValue flag.usage)
  | .flag .help false => x.settle >>= fun _ => .error .help
  | .flag .dryRun false => do
    let draft ← x.settle
    if draft.dryRun then .error (.repeated Flag.dryRun.usage)
    else return ⟨{ draft with dryRun := true }, none⟩
  | .setting setting none => do return ⟨← x.settle, some (setting, none)⟩
  | .setting setting (some value) => do
    let draft ← x.settle
    return ⟨← draft.set setting value, none⟩

/-- Takes all words. Behind two hyphens no word is an option, and none is wanted. -/
def words (settings : List Setting) (x : Parsing) : List String → Except UsageError Draft
  | [] => x.settle
  | word :: rest =>
    if word == "--" then
      match rest with
      | [] => x.settle
      | extra :: _ => .error (.unknownArgument extra)
    else
      let kind := Word.ofString settings word
      match x.takesValue word kind with
      | some setting => words settings ⟨x.draft, some (setting, some word)⟩ rest
      | none =>
        match x.begin? word kind with
        | .error e => .error e
        | .ok next => words settings next rest

end Parsing

structure Arguments where
  target : Target
  /-- The path of the output; empty unless the target is a file. -/
  output : String
  dataset : String
  seed : Option Int64
  userType : UInt32
  mode : Mode
  metric : Option String
  separator : Char
  batchSize : Nat
  queueCapacity : Nat
  dryRun : Bool
deriving DecidableEq, Repr

namespace Arguments

def standardBatchSize : Nat := 1000

def standardQueueCapacity : Nat := 16

def ofDraft (target : Target) (x : Draft) : Except UsageError Arguments :=
  match x.dataset, if target = .file then x.output else some "" with
  | some dataset, some output =>
    .ok {
      target, output, dataset
      seed := x.seed
      userType := x.userType.getD 0
      mode := x.mode.getD .text
      metric := x.metric
      separator := x.separator.getD Line.standardSeparator
      batchSize := x.batchSize.getD standardBatchSize
      queueCapacity := x.queueCapacity.getD standardQueueCapacity
      dryRun := x.dryRun }
  | _, _ => .error .missingRequired

def ofTargetWords (words : List String) : Except UsageError Arguments := do
  let (name, rest) ← Tree.choose (commands.flatMap Tree.parts) words
  match Target.ofName? name with
  | some target => ofDraft target (← Parsing.words target.settings ⟨{}, none⟩ rest)
  | none => throw .unknownCommand

def ofWords (words : List String) : Except UsageError Arguments := do
  let (_, rest) ← Tree.choose commands words
  ofTargetWords rest

end Arguments

end LoadSeries.Command
