import RepoWatch.CommandLine.Arguments
/-!
# Help

The texts that tell how the program is used.
-/

namespace RepoWatch.CommandLine

/-- Lines, each of them ended. -/
def lines (ls : List String) : String := String.join (ls.map (· ++ "\n"))

def about : String := "Command line arguments for the GitHub query watcher"

def CommandWord.about : CommandWord → String
  | .repositories => "Fetch the repositories of the authenticated user"
  | .detail => "Fetch the detail of a repository"
  | .commits => "Fetch the default branch commits of a repository"

def helpAbout : String := "Print this message or the help of the given subcommand(s)"

def Setting.about : Setting → String
  | .endpoint => "GraphQL endpoint [default: " ++ Graphql.defaultEndpoint ++ "]"
  | .token => "GitHub API token [env: " ++ tokenVariable ++ "]"
  | .attempts =>
    "Maximum number of attempts per network request [default: " ++ toString defaultAttempts ++ "]"
  | .retryDelay =>
    "Base delay of the exponential backoff between attempts, in milliseconds [default: "
      ++ toString defaultRetryDelay ++ "]"
  | .sinkCapacity =>
    "Number of values buffered per subscriber [default: " ++ toString Outlet.defaultCapacity ++ "]"
  | .watchDuration =>
    "How long to keep watching before cancelling, in seconds [default: "
      ++ toString defaultWatchDuration ++ "]"

def padRight (width : Nat) (text : String) : String :=
  text ++ String.ofList (List.replicate (width - text.length) ' ')

def Setting.help (s : Setting) : List String :=
  let short := (s.short?.map fun c => "-" ++ c.toString ++ ", ").getD "    "
  ["  " ++ short ++ s.display, "          " ++ s.about]

def programHelp : String :=
  lines <|
    [about, "",
      "Usage: " ++ programName ++ " [OPTIONS] " ++ Setting.token.display ++ " <COMMAND>", "",
      "Commands:"]
    ++ (CommandWord.all.map fun w => "  " ++ padRight 14 w.text ++ w.about)
    ++ ["  " ++ padRight 14 helpWord ++ helpAbout, "", "Options:"]
    ++ Setting.all.flatMap Setting.help
    ++ ["  -h, --help", "          Print help", "  -V, --version", "          Print version"]

def CommandWord.help (w : CommandWord) : String :=
  let usage := "Usage: " ++ programName ++ " " ++ w.text
  let argument := match w with
    | .repositories => [usage, ""]
    | .detail | .commits => [usage ++ " <NAME>", "", "Arguments:", "  <NAME>  Repository name", ""]
  lines ([w.about, ""] ++ argument ++ ["Options:", "  -h, --help  Print help"])

def helpWordHelp : String :=
  lines [helpAbout, "", "Usage: " ++ programName ++ " " ++ helpWord ++ " [COMMAND]...", "",
    "Arguments:", "  [COMMAND]...  Print help for the subcommand(s)"]

end RepoWatch.CommandLine
