/-!
# Usage

The texts by which the command explains itself.
-/

namespace Propositional.Command

/-- The name under which the command reports. -/
def programName : String := "propparse"

def versionNumber : String := "0.1.0"

def usageText : String := String.join [
  "usage: propparse [-h] [-f FILE] [--format \x7btree,canonical\x7d]\n",
  "                 [-o \x7bsilent,normal,verbose\x7d] [-d \x7b0,1,2,3\x7d] [--max-depth N]\n",
  "                 [--stats] [--version]\n",
  "                 [expression]\n"]

/-- What the arguments of the command mean. -/
def helpText : String := String.join [
  usageText,
  "\n",
  "propparse - parse a propositional formula built from identifiers, ( ), !, &, |\n",
  "and > into a syntax tree\n",
  "\n",
  "positional arguments:\n",
  "  expression            Proposition to parse, e.g. '((!(a&b))|(c>(!d)))'\n",
  "\n",
  "options:\n",
  "  -h, --help            show this help message and exit\n",
  "  -f FILE, --file FILE  Path to a file containing the proposition\n",
  "  --format \x7btree,canonical\x7d\n",
  "                        Print the indented syntax tree or the canonical text\n",
  "                        (default: tree)\n",
  "  -o \x7bsilent,normal,verbose\x7d, --output \x7bsilent,normal,verbose\x7d\n",
  "                        Output level (default: normal)\n",
  "  -d \x7b0,1,2,3\x7d, --debug \x7b0,1,2,3\x7d\n",
  "                        Debug level 0-3; 3 traces every token (default: 0)\n",
  "  --max-depth N         Maximum parenthesis nesting (default: parser default)\n",
  "  --stats               Print tree statistics after parsing\n",
  "  --version             show program's version number and exit\n"]

end Propositional.Command
