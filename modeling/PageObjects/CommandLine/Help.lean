import PageObjects.CommandLine.Arguments

/-!
# Help texts

What the program prints when it is asked for help, laid out for eighty columns. The commands are
those of the CLI (specification, 6).
-/

namespace PageObjects

/-- The lines of help on a topic. -/
def Topic.helpLines : Topic → List String
  | .program =>
    ["usage: pagec [-h] \x7bcompile,actions\x7d ...",
      "",
      "Compile page object documents",
      "",
      "positional arguments:",
      "  \x7bcompile,actions\x7d  Command to run",
      "    compile          Compile a directory of page objects",
      "    actions          List actions of an element interface",
      "",
      "options:",
      "  -h, --help         show this help message and exit"]
  | .compile =>
    ["usage: pagec compile [-h] [--output OUTPUT] [--module MODULE]",
      "                     [--package-root PACKAGE_ROOT] [--workers WORKERS]",
      "                     source_dir",
      "",
      "positional arguments:",
      "  source_dir            Directory containing *.utam.json files",
      "",
      "options:",
      "  -h, --help            show this help message and exit",
      "  --output OUTPUT       Output directory (default: PAGEC_OUTPUT_DIR)",
      "  --module MODULE       Module name, e.g. my-app",
      "  --package-root PACKAGE_ROOT",
      "                        Package segment after the module name",
      "  --workers WORKERS     Parallel translations"]
  | .actions =>
    ["usage: pagec actions [-h] interface",
      "",
      "positional arguments:",
      "  interface   Interface name, e.g. clickable or basic",
      "",
      "options:",
      "  -h, --help  show this help message and exit"]

/-- The help on a topic. -/
def Topic.help (t : Topic) : String := "\n".intercalate t.helpLines ++ "\n"

/-- The lines that show how a topic is used. -/
def Topic.usageLines (t : Topic) : List String := t.helpLines.takeWhile fun line => !line.isEmpty

end PageObjects
