import Entitlement.CommandLine.Options

-- Scripts that let a shell complete the commands and options of the program.
namespace Entitlement.CommandLine

def programName : String := "entitle"

def OptionRule.spellings (rule : OptionRule) : List String :=
  (rule.letter.map fun letter => String.ofList ['-', letter]).toList ++ ["--" ++ rule.name]

def ValueKind.words : ValueKind → List String
  | .shell => Shell.all.map Shell.name
  | _ => []

def CommandRule.words (rule : CommandRule) : List String :=
  rule.operands.flatMap (fun o => o.2.words) ++ rule.grammar.options.flatMap OptionRule.spellings

def commandNames : List String := commandRules.map (·.name)

def firstWords : List String := commandNames ++ ["help"] ++ commonRules.flatMap OptionRule.spellings

def spaced (words : List String) : String := " ".intercalate words

def branches (line : List String → String) : List String :=
  (commandRules.map fun rule => "        " ++ rule.name ++ ") " ++ line rule.words ++ " ;;")
    ++ ["        *) " ++ line firstWords ++ " ;;"]

def bashLines : List String :=
  ["_" ++ programName ++ "() \x7b",
    "    local word=\"$\x7bCOMP_WORDS[COMP_CWORD]\x7d\" command= words= i",
    "    for ((i = 1; i < COMP_CWORD; i++)); do",
    "        case \"$\x7bCOMP_WORDS[i]\x7d\" in",
    "            " ++ "|".intercalate commandNames ++ ") command=\"$\x7bCOMP_WORDS[i]\x7d\"; break ;;",
    "        esac",
    "    done",
    "    case \"$command\" in"]
    ++ branches (fun words => "words=\"" ++ spaced words ++ "\"")
    ++ ["    esac",
      "    COMPREPLY=($(compgen -W \"$words\" -- \"$word\"))",
      "\x7d",
      "complete -o default -F _" ++ programName ++ " " ++ programName]

def zshLines : List String :=
  ["#compdef " ++ programName,
    "_" ++ programName ++ "() \x7b",
    "    case \"$\x7bwords[(r)(" ++ "|".intercalate commandNames ++ ")]\x7d\" in"]
    ++ branches (fun words => "compadd -- " ++ spaced words)
    ++ ["    esac",
      "\x7d",
      "compdef _" ++ programName ++ " " ++ programName]

def fishOption (condition : String) (rule : OptionRule) : String :=
  "complete -c " ++ programName ++ condition ++ " -l " ++ rule.name
    ++ (match rule.letter with
      | some letter => " -s " ++ String.ofList [letter]
      | none => "")
    ++ if rule.value.isSome then " -r" else ""

def fishLines : List String :=
  commonRules.map (fishOption "")
    ++ [
      "complete -c " ++ programName ++ " -n __fish_use_subcommand -f -a \"" ++ spaced (commandNames ++ ["help"])
        ++ "\""]
    ++ commandRules.flatMap fun rule =>
      let condition := " -n \"__fish_seen_subcommand_from " ++ rule.name ++ "\""
      rule.options.map (fishOption condition)
        ++ rule.operands.filterMap fun o =>
          if o.2.words.isEmpty then none
          else some ("complete -c " ++ programName ++ condition ++ " -f -a \"" ++ spaced o.2.words ++ "\"")

def powershellList (words : List String) : String :=
  "@(" ++ ", ".intercalate (words.map fun word => "'" ++ word ++ "'") ++ ")"

def powershellLines : List String :=
  ["Register-ArgumentCompleter -Native -CommandName '" ++ programName ++ "' -ScriptBlock \x7b",
    "    param($wordToComplete, $commandAst, $cursorPosition)",
    "    $names = " ++ powershellList commandNames,
    "    $command = $commandAst.CommandElements | ForEach-Object \x7b $_.Extent.Text \x7d |",
    "        Where-Object \x7b $names -contains $_ \x7d | Select-Object -First 1",
    "    $words = switch ($command) \x7b"]
    ++ (commandRules.map fun rule =>
      "        '" ++ rule.name ++ "' \x7b " ++ powershellList rule.words ++ " \x7d")
    ++ ["        default \x7b " ++ powershellList firstWords ++ " \x7d",
      "    \x7d",
      "    $words | Where-Object \x7b $_ -like \"$wordToComplete*\" \x7d",
      "\x7d"]

def Shell.script (shell : Shell) : String :=
  String.join ((match shell with
    | .bash => bashLines
    | .zsh => zshLines
    | .fish => fishLines
    | .powershell => powershellLines).map (· ++ "\n"))

end Entitlement.CommandLine
