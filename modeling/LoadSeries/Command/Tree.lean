import LoadSeries.Command.Usage

/-! Commands within commands, and the choice of one by the words in front. -/
namespace LoadSeries.Command

inductive Tree where
  | command (name : String) (parts : List Tree)

namespace Tree

def name : Tree → String
  | command name _ => name

def parts : Tree → List Tree
  | command _ parts => parts

def helpName : String := "help"

def hasHelp : List Tree → List String → Bool
  | _, [] => true
  | parts, word :: rest =>
    match parts.find? (·.name == word) with
    | some tree => hasHelp tree.parts rest
    | none => !parts.isEmpty && word == helpName && rest.isEmpty

def isCommand (parts : List Tree) (word : String) : Bool :=
  word == helpName || parts.any (·.name == word)

/-- The word that an unknown option is shown as: a name behind two hyphens, without a value that is
attached to it, or one letter behind one. -/
def shownOption (word : String) : String :=
  match word.toList with
  | '-' :: '-' :: rest => String.ofList ('-' :: '-' :: rest.takeWhile (· != '='))
  | '-' :: c :: _ => String.ofList ['-', c]
  | _ => word

def optionError (word : String) : UsageError :=
  match word.toList with
  | '-' :: '-' :: rest =>
    if rest.takeWhile (· != '=') == Flag.help.name.toList then
      if rest.contains '=' then .attachedValue Flag.help.usage else .help
    else .unknownArgument (shownOption word)
  | '-' :: c :: _ =>
    if Flag.help.letter? == some c then .help else .unknownArgument (shownOption word)
  | _ => .unknownCommand

def trailingError (parts : List Tree) (word : String) : UsageError :=
  if isCommand parts word then .unknownArgument word else .unknownCommand

def choose (parts : List Tree) : List String → Except UsageError (String × List String)
  | [] => .error .missingCommand
  | "--" :: rest =>
    match rest with
    | [] => .error .missingCommand
    | word :: _ => .error (trailingError parts word)
  | word :: rest =>
    if word == helpName then
      .error (if hasHelp parts rest then .help else .unknownCommand)
    else if parts.any (·.name == word) then .ok (word, rest)
    else .error (optionError word)

end Tree

end LoadSeries.Command
