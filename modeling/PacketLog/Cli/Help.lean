import PacketLog.Cli.Request

namespace PacketLog.Cli

namespace Setting

def spelling : Setting → String
  | .config => "-c, --config <FILE>"
  | .output => "-o, --output <FILE>"
  | .header => "    --header"
  | .logLevel => "-l, --log-level <LOG_LEVEL>"
  | .help => "-h, --help"
  | .version => "-V, --version"

def purpose (scope : Scope) : Setting → String
  | .config =>
    "Path to configuration file" ++
      (match scope with
      | .replay => "; defaults apply when omitted"
      | .top | .check => "")
  | .output => "Append output to this file instead of writing to stdout"
  | .header => "Send a log header (host and application name) first"
  | .logLevel => "Log level (trace, debug, info, warn, error). Overrides config file"
  | .help => "Print help"
  | .version => "Print version"

/-- The line of a setting, with what it is for in a column of its own. -/
def helpLine (scope : Scope) (setting : Setting) : String :=
  "  " ++ String.ofList (setting.spelling.toList.rightpad 29 ' ') ++ setting.purpose scope ++ "\n"

end Setting

def Topic.about : Topic → String
  | .on .top => "Replays structured log events through the sift bridge"
  | .on .replay => "Format log events read from stdin"
  | .on .check => "Validate a configuration file"
  | .help => "Print this message or the help of the given subcommand(s)"

/-- What may follow the name of the program. -/
def Topic.usage : Topic → String
  | .on .top => "[OPTIONS] <COMMAND>"
  | .on .replay => "replay [OPTIONS]"
  | .on .check => "check [OPTIONS] --config <FILE>"
  | .help => "help [COMMAND]..."

def Topic.lists : Topic → String
  | .on scope =>
    let commands :=
      "Commands:\n" ++
      "  replay  " ++ (Topic.on .replay).about ++ "\n" ++
      "  check   " ++ (Topic.on .check).about ++ "\n" ++
      "  help    " ++ Topic.help.about ++ "\n\n"
    (if scope = .top then commands else "") ++
      "Options:\n" ++ String.join ((Setting.ofScope scope).map (Setting.helpLine scope))
  | .help => "Arguments:\n  [COMMAND]...  Print help for the subcommand(s)\n"

def Topic.text (t : Topic) : String :=
  t.about ++ "\n\nUsage: sift " ++ t.usage ++ "\n\n" ++ t.lists

end PacketLog.Cli
