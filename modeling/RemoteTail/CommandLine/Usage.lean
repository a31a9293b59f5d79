import RemoteTail.CommandLine.Switch

/-!
# Explaining the command line

The text that is shown when an explanation is asked for, and the wording of
refusals.
-/

namespace RemoteTail

namespace Switch

/-- What a switch is for. -/
def purpose : Switch → String
  | .setting .taskPath => "nested task directory, for tasks inside a pod"
  | .setting .file => "sandbox file to read"
  | .setting .lines => "number of lines to print (default: all, or 10 with --tail)"
  | .setting .format => "text, json or sse"
  | .setting .header => "extra request header, NAME: VALUE (repeatable)"
  | .setting .endpoint => "read endpoint URL"
  | .setting .chunkSize => "bytes per read request"
  | .setting .pollInterval => "delay between polls with --follow"
  | .flag .tail => "start from the last lines instead of the beginning"
  | .flag .follow => "keep polling for appended content"
  | .flag .help => "print this text"
  | .flag .version => "print the version"

/-- The spellings of a switch and its purpose on one line. -/
def usageLine (switch : Switch) : String :=
  let letter := match switch.letter? with
    | none => "    "
    | some letter => String.ofList ['-', letter, ',', ' ']
  let value := match switch with
    | .setting _ => " VALUE"
    | .flag _ => ""
  "  " ++ letter ++ "--" ++ switch.long ++ value ++ "  " ++ switch.purpose ++ "\n"

end Switch

namespace CommandLine

/-- How the program is called. -/
def usage (program : String) : String :=
  "Usage: " ++ program ++ " [OPTIONS] AGENT FRAMEWORK EXECUTOR CONTAINER\n\n" ++
    String.join (Switch.all.map Switch.usageLine)

end CommandLine

/-- The wording of a refusal. -/
def Refusal.message : Refusal → String
  | .unknown => "unexpected argument"
  | .noValue => "a value is required"
  | .unlistedValue => "invalid value"
  | .unreadableValue => "a value cannot be read"
  | .needlessValue => "a value is given to a flag"
  | .repeated => "an option is given twice"
  | .missingCoordinate => "agent, framework, executor and container are required"
  | .help => "usage requested"
  | .version => "version requested"

end RemoteTail
