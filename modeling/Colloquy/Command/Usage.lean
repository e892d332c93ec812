import Colloquy.Text.Basic

/-!
# Usage — what the program says about itself

The texts of the help and version requests, for the program and for each of its commands.
-/

namespace Colloquy

namespace Usage

/-- The name of the program. -/
def program : String := "parley"

/-- The version of the program. -/
def version : String := "0.1.0"

/-- What a version request prints, for a command or the program as a whole. -/
def versionText (command : Option String) : String :=
  match command with
  | some command => s!"{program}-{command} {version}\n"
  | none => s!"{program} {version}\n"

/-- The help of the program. -/
def programHelp : String := Text.paragraph [
  "Parley: check, outline, and play branching NPC dialogue",
  "",
  "Usage: parley [OPTIONS] <COMMAND>",
  "",
  "Commands:",
  "  check    Parse a script and report problems",
  "  outline  List the nodes and options of a script",
  "  play     Talk to an NPC in the terminal",
  "  help     Print this message or the help of the given subcommand(s)",
  "",
  "Options:",
  "      --hero <HERO>  Speaker name whose lines belong to the player character [default: nate]",
  "  -h, --help         Print help",
  "  -V, --version      Print version"]

/-- The help of `check`. -/
def checkHelp : String := Text.paragraph [
  "Parse a script and report problems",
  "",
  "Usage: parley check [OPTIONS] <FILE>",
  "",
  "Arguments:",
  "  <FILE>  Script file",
  "",
  "Options:",
  "      --hero <HERO>  Speaker name whose lines belong to the player character [default: nate]",
  "      --strict       Fail when there are any warnings",
  "  -h, --help         Print help",
  "  -V, --version      Print version"]

/-- The help of `outline`. -/
def outlineHelp : String := Text.paragraph [
  "List the nodes and options of a script",
  "",
  "Usage: parley outline [OPTIONS] <FILE>",
  "",
  "Arguments:",
  "  <FILE>  Script file",
  "",
  "Options:",
  "      --hero <HERO>  Speaker name whose lines belong to the player character [default: nate]",
  "      --json         Print the compiled graph as JSON",
  "      --plain        Print an indented text outline instead of a table",
  "  -h, --help         Print help",
  "  -V, --version      Print version"]

/-- The help of `play`. -/
def playHelp : String := Text.paragraph [
  "Talk to an NPC in the terminal",
  "",
  "Usage: parley play [OPTIONS] <NPC>",
  "",
  "Arguments:",
  "  <NPC>  NPC id; the script is read from `<dir>/<npc>.<ext>`",
  "",
  "Options:",
  "  -d, --dir <DIR>      Directory holding dialogue scripts [default: dialogue]",
  "      --hero <HERO>    Speaker name whose lines belong to the player character [default: nate]",
  "      --ext <EXT>      Script file extension [default: txt]",
  "  -s, --state <STATE>  JSON state file, read before and written after the conversation",
  "      --set <FLAG>     Set a flag before starting (`name` or `name=value`, repeatable)",
  "      --item <ITEM>    Put an item in the inventory before starting (repeatable)",
  "      --node <NODE>    Node to start on instead of the NPC's entry node",
  "  -h, --help           Print help",
  "  -V, --version        Print version"]

/-- The help of `help`. -/
def helpHelp : String := Text.paragraph [
  "Print this message or the help of the given subcommand(s)",
  "",
  "Usage: parley help [COMMAND]...",
  "",
  "Arguments:",
  "  [COMMAND]...  Print help for the subcommand(s)"]

end Usage

end Colloquy
