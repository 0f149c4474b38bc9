import ScriptShell.Arguments
/-!
The commands that the shell knows, with the arguments that each of them takes and the help that it
gives.
-/
namespace ScriptShell

/-- The commands that the shell knows. -/
inductive StandardCommand where
  | pwd
  | cd
  | echo
  | exit
  | inclusion
deriving DecidableEq, Repr

namespace StandardCommand

def all : List StandardCommand := [.pwd, .cd, .echo, .exit, .inclusion]

/-- The name by which a command is called. -/
def name : StandardCommand → String
  | .pwd => "pwd"
  | .cd => "cd"
  | .echo => "echo"
  | .exit => "exit"
  | .inclusion => "include"

def help : StandardCommand → String
  | .echo => ArgumentForm.page
    ["Usage: echo [-n] [args...]",
      "",
      "write the arguments to standard output, separated by spaces. by default, a trailing " ++
        "newline is printed.",
      "",
      "Options:",
      "  -n, --no-newline  do not output the trailing newline.",
      "  --help, help      display usage information"]
  | .pwd => ArgumentForm.page
    ["Usage: pwd",
      "",
      "Print the current working directory to standard output.",
      "",
      "Options:",
      "  --help, help      display usage information"]
  | .cd => ArgumentForm.page
    ["Usage: cd [--] [<target>]",
      "",
      "Change the current working directory of the shell. If no target is provided, changes to " ++
        "the directory specified by the HOME variable.",
      "",
      "Positional Arguments:",
      "  target            directory to switch to; absolute or relative to the current",
      "                    directory. Defaults to $HOME when omitted.",
      "",
      "Options:",
      "  --help, help      display usage information"]
  | .exit => ArgumentForm.page
    ["Usage: exit [args...]",
      "",
      "Stop the shell, including any script being run.",
      "",
      "Options:",
      "  --help, help      display usage information"]
  | .inclusion => ArgumentForm.page
    ["Usage: include [--] <path>",
      "",
      "execute a script file, line by line, as if it were typed into the shell.",
      "",
      "Positional Arguments:",
      "  path              file to execute",
      "",
      "Options:",
      "  --help, help      display usage information"]

def form (c : StandardCommand) : ArgumentForm :=
  match c with
  | .pwd => { help := c.help }
  | .cd => { operands := .optional, help := c.help }
  | .echo => { switches := ["-n", "--no-newline"], operands := .greedy, help := c.help }
  | .exit => { operands := .greedy, help := c.help }
  | .inclusion => { operands := .required "path", help := c.help }

end StandardCommand

end ScriptShell
