import PromptShell.Host.Options
import PromptShell.Host.Process
namespace PromptShell.Host

/-- The lines about escapes that two programs share. -/
def escapeLines : List String := [
  "  \\\\      backslash",
  "  \\a      alert (BEL)",
  "  \\b      backspace",
  "  \\c      produce no further output",
  "  \\e      escape",
  "  \\f      form feed",
  "  \\n      new line",
  "  \\r      carriage return",
  "  \\t      horizontal tab",
  "  \\v      vertical tab"]

/-- The lines about a program that shells have a command of their own for. -/
def supersededLines (name : String) : List String := [
  "",
  "NOTE: your shell may have its own version of " ++ name ++ ", which usually supersedes",
  "the version described here.  Please refer to your shell's documentation",
  "for details about the options it supports."]

/-- The lines of the help of a program, in which an at sign stands for its name. -/
def Tool.helpLines : Tool → List String
  | .cat => [
      "Usage: @ [OPTION]... [FILE]...",
      "Concatenate FILE(s) to standard output.",
      "",
      "With no FILE, or when FILE is -, read standard input.",
      "",
      "  -A, --show-all           equivalent to -vET",
      "  -b, --number-nonblank    number nonempty output lines, overrides -n",
      "  -e                       equivalent to -vE",
      "  -E, --show-ends          display $ at end of each line",
      "  -n, --number             number all output lines",
      "  -s, --squeeze-blank      suppress repeated empty output lines",
      "  -t                       equivalent to -vT",
      "  -T, --show-tabs          display TAB characters as ^I",
      "  -u                       (ignored)",
      "  -v, --show-nonprinting   use ^ and M- notation, except for LFD and TAB",
      "      --help        display this help and exit",
      "      --version     output version information and exit",
      "",
      "Examples:",
      "  @ f - g  Output f's contents, then standard input, then g's contents.",
      "  @        Copy standard input to standard output."]
  | .echo => [
      "Usage: @ [SHORT-OPTION]... [STRING]...",
      "  or:  @ LONG-OPTION",
      "Echo the STRING(s) to standard output.",
      "",
      "  -n             do not output the trailing newline",
      "  -e             enable interpretation of backslash escapes",
      "  -E             disable interpretation of backslash escapes (default)",
      "      --help        display this help and exit",
      "      --version     output version information and exit",
      "",
      "If -e is in effect, the following sequences are recognized:",
      ""] ++ escapeLines ++ [
      "  \\0NNN   byte with octal value NNN (1 to 3 digits)",
      "  \\xHH    byte with hexadecimal value HH (1 to 2 digits)"] ++ supersededLines "echo"
  | .head => [
      "Usage: @ [OPTION]... [FILE]...",
      "Print the first 10 lines of each FILE to standard output.",
      "With more than one FILE, precede each with a header giving the file name.",
      "",
      "With no FILE, or when FILE is -, read standard input.",
      "",
      "Mandatory arguments to long options are mandatory for short options too.",
      "  -c, --bytes=[-]NUM       print the first NUM bytes of each file;",
      "                             with the leading '-', print all but the last",
      "                             NUM bytes of each file",
      "  -n, --lines=[-]NUM       print the first NUM lines instead of the first 10;",
      "                             with the leading '-', print all but the last",
      "                             NUM lines of each file",
      "  -q, --quiet, --silent    never print headers giving file names",
      "  -v, --verbose            always print headers giving file names",
      "  -z, --zero-terminated    line delimiter is NUL, not newline",
      "      --help        display this help and exit",
      "      --version     output version information and exit",
      "",
      "NUM may have a multiplier suffix:",
      "b 512, kB 1000, K 1024, MB 1000*1000, M 1024*1024,",
      "GB 1000*1000*1000, G 1024*1024*1024, and so on for T, P, E, Z, Y.",
      "Binary prefixes can be used, too: KiB=K, MiB=M, and so on."]
  | .printf => [
      "Usage: @ FORMAT [ARGUMENT]...",
      "  or:  @ OPTION",
      "Print ARGUMENT(s) according to FORMAT, or execute according to OPTION:",
      "",
      "      --help        display this help and exit",
      "      --version     output version information and exit",
      "",
      "FORMAT controls the output as in C printf.  Interpreted sequences are:",
      "",
      "  \\\"      double quote"] ++ escapeLines ++ [
      "  \\NNN    byte with octal value NNN (1 to 3 digits)",
      "  \\xHH    byte with hexadecimal value HH (1 to 2 digits)",
      "  \\uHHHH  Unicode (ISO/IEC 10646) character with hex value HHHH (4 digits)",
      "  \\UHHHHHHHH  Unicode character with hex value HHHHHHHH (8 digits)",
      "  %%      a single %",
      "  %b      ARGUMENT as a string with '\\' escapes interpreted,",
      "          except that octal escapes are of the form \\0 or \\0NNN",
      "  %q      ARGUMENT is printed in a format that can be reused as shell input,",
      "          escaping non-printable characters with the proposed POSIX $'' syntax.",
      "",
      "and all C format specifications ending with one of diouxXfeEgGcs, with",
      "ARGUMENTs converted to proper type first.  Variable widths are handled."] ++
      supersededLines "printf"
  | .workingDirectory => [
      "Usage: @ [OPTION]...",
      "Print the full filename of the current working directory.",
      "",
      "  -L, --logical   use PWD from environment, even if it contains symlinks",
      "  -P, --physical  avoid all symlinks",
      "      --help        display this help and exit",
      "      --version     output version information and exit",
      "",
      "If no option is specified, -P is assumed."] ++ supersededLines "pwd"
  | .removeDirectory => [
      "Usage: @ [OPTION]... DIRECTORY...",
      "Remove the DIRECTORY(ies), if they are empty.",
      "",
      "      --ignore-fail-on-non-empty",
      "                  ignore each failure that is solely because a directory",
      "                    is non-empty",
      "  -p, --parents   remove DIRECTORY and its ancestors; e.g., 'rmdir -p a/b/c' is",
      "                    similar to 'rmdir a/b/c a/b a'",
      "  -v, --verbose   output a diagnostic for every directory processed",
      "      --help        display this help and exit",
      "      --version     output version information and exit"]
  | .sleep => [
      "Usage: @ NUMBER[SUFFIX]...",
      "  or:  @ OPTION",
      "Pause for NUMBER seconds.  SUFFIX may be 's' for seconds (the default),",
      "'m' for minutes, 'h' for hours or 'd' for days.  NUMBER need not be an",
      "integer.  Given two or more arguments, pause for the amount of time",
      "specified by the sum of their values.",
      "",
      "      --help        display this help and exit",
      "      --version     output version information and exit"]
  | .success => [
      "Usage: @ [ignored command line arguments]",
      "  or:  @ OPTION",
      "Exit with a status code indicating success.",
      "",
      "      --help        display this help and exit",
      "      --version     output version information and exit"] ++ supersededLines "true"
  | .failure => [
      "Usage: @ [ignored command line arguments]",
      "  or:  @ OPTION",
      "Exit with a status code indicating failure.",
      "",
      "      --help        display this help and exit",
      "      --version     output version information and exit"] ++ supersededLines "false"
  | .script => []

/-- The help of a program that was started under a name. -/
def Tool.help (tool : Tool) (name : String) : String :=
  let text := String.join (tool.helpLines.map (· ++ "\n"))
  name.intercalate (text.splitOn "@")

/-- The options of a program could not be read, or ask it to tell about itself. -/
def Surroundings.stop (around : Surroundings) (tool : Tool) (name : String) :
    OptionsEnd → Work Nat
  | .flawed text => around.hint name [text]
  | .help => do
      let notice := (← get).notices tool
      around.finish name 0 { output := Raw.toBytes (tool.help name ++ notice.closing) }
  | .version => do
      let notice := (← get).notices tool
      around.finish name 0 { output := Raw.toBytes notice.version }

/-- A program that knows no other options is asked to tell about itself by its only argument. -/
def OptionsEnd.ofOnly? (arguments : List String) : Option OptionsEnd :=
  match arguments with
  | ["--help"] => some .help
  | ["--version"] => some .version
  | _ => none

end PromptShell.Host
