/-!
Help on the query program and its commands.
-/
namespace Engagements.CommandLine

/-- What help is asked on. -/
inductive Topic where
  | program
  | query
  | subDomain
  | participants
  | help
  deriving DecidableEq, Repr

namespace Topic

def ofCommand? : String → Option Topic
  | "query" => some query
  | "subdomain" => some subDomain
  | "participants" => some participants
  | "help" => some help
  | _ => none

def title : Topic → String
  | program => "lodestar-query \nQuery engagement documents with the Lodestar search grammar"
  | query => "lodestar-query-query \nRun a paged, filtered query"
  | subDomain => "lodestar-query-subdomain \nCheck whether a hosting subdomain is free"
  | participants => "lodestar-query-participants \nCount Red Hat and other participants"
  | help =>
    "lodestar-query-help \nPrint this message or the help of the given subcommand(s)"

def usage : Topic → String
  | program => "<SUBCOMMAND>"
  | query => "query [OPTIONS]"
  | subDomain => "subdomain [OPTIONS] <SUBDOMAIN>"
  | participants => "participants [OPTIONS]"
  | help => "help [SUBCOMMAND]..."

/-- The parts of the help after the usage. -/
def details : Topic → List (String × List String)
  | program =>
    [("OPTIONS",
      ["    -d, --data <DATA>    JSON file holding an array of engagement documents",
       "    -h, --help           Print help information"]),
     ("SUBCOMMANDS",
      ["    help            Print this message or the help of the given subcommand(s)",
       "    participants    Count Red Hat and other participants",
       "    query           Run a paged, filtered query",
       "    subdomain       Check whether a hosting subdomain is free"])]
  | query =>
    [("OPTIONS",
      ["        --exclude <EXCLUDE>",
       "            Comma-separated fields to exclude",
       "",
       "        --group-by <GROUP_BY>",
       "            ",
       "",
       "    -h, --help",
       "            Print help information",
       "",
       "        --include <INCLUDE>",
       "            Comma-separated fields to include",
       "",
       "        --page <PAGE>",
       "            ",
       "",
       "        --per-page <PER_PAGE>",
       "            ",
       "",
       "    -s, --search <SEARCH>",
       "            ",
       "",
       "        --sort-fields <SORT_FIELDS>",
       "            Comma-separated sort fields",
       "",
       "        --sort-order <SORT_ORDER>",
       "            ASC or DESC [default: ASC]",
       "",
       "        --unwind <UNWIND>",
       "            ",
       "",
       "        --unwind-project <UNWIND_PROJECT>",
       "            Comma-separated nested fields to flatten after unwinding"])]
  | subDomain =>
    [("ARGS", ["    <SUBDOMAIN>    "]),
     ("OPTIONS",
      ["        --exclude-uuid <EXCLUDE_UUID>    Engagement allowed to own the subdomain already",
       "    -h, --help                           Print help information"])]
  | participants =>
    [("OPTIONS",
      ["    -h, --help               Print help information",
       "    -s, --search <SEARCH>    "])]
  | help =>
    [("ARGS", ["    <SUBCOMMAND>...    The subcommand whose help message to display"])]

/-- The text of the help on a topic. -/
def text (topic : Topic) : String :=
  let usage := [s!"USAGE:\n    lodestar-query --data <DATA> {topic.usage}"]
  let parts := topic.details.map fun (name, lines) => s!"{name}:\n" ++ "\n".intercalate lines
  "\n\n".intercalate (topic.title :: usage ++ parts) ++ "\n"

end Topic

end Engagements.CommandLine
