import CompactHttp.Framing

/-! # Help texts

What the program says about itself and about each of its commands.
-/

namespace CompactHttp.CommandLine

/-- What help can be had on. -/
inductive Topic where
  | program
  | get
  | send
  | inspect (kind : MessageKind)
  | help
deriving DecidableEq, Repr

namespace Topic

/-- The commands by their words. -/
def commands : List (String × Topic) :=
  [("get", .get), ("send", .send), ("inspect-request", .inspect .request),
    ("inspect-response", .inspect .response), ("help", .help)]

/-- The lines on a command that takes bytes. -/
def inspectLines (name about : String) : List String := [
  about,
  "",
  "Usage: qh-cli " ++ name ++ " [OPTIONS] <DATA>",
  "",
  "Arguments:",
  "  <DATA>  ",
  "",
  "Options:",
  "      --base64  ",
  "  -h, --help    Print help"]

/-- The lines of a help text. -/
def lines : Topic → List String
  | program => [
    "Client and wire inspector for the QH protocol",
    "",
    "Usage: qh-cli [OPTIONS] <COMMAND>",
    "",
    "Commands:",
    "  get               Send a request without a body",
    "  send              Send a request with a body",
    "  inspect-request   Annotate encoded request bytes",
    "  inspect-response  Annotate encoded response bytes",
    "  help              Print this message or the help of the given subcommand(s)",
    "",
    "Options:",
    "  -a, --addr <ADDR>      Server address [default: 127.0.0.1:8090]",
    "      --host <HOST>      Host sent in requests (defaults to the address host)",
    "  -c, --config <CONFIG>  TOML config file (falls back to QH_CONFIG)",
    "  -h, --help             Print help"]
  | get => [
    "Send a request without a body",
    "",
    "Usage: qh-cli get <PATH>",
    "",
    "Arguments:",
    "  <PATH>  ",
    "",
    "Options:",
    "  -h, --help  Print help"]
  | send => [
    "Send a request with a body",
    "",
    "Usage: qh-cli send [OPTIONS] <METHOD> <PATH> <BODY>",
    "",
    "Arguments:",
    "  <METHOD>  POST, PUT or PATCH",
    "  <PATH>    ",
    "  <BODY>    ",
    "",
    "Options:",
    "  -t, --content-type <CONTENT_TYPE>  Content-type code (0-15)",
    "  -h, --help                         Print help"]
  | inspect .request => inspectLines "inspect-request" "Annotate encoded request bytes"
  | inspect .response => inspectLines "inspect-response" "Annotate encoded response bytes"
  | help => [
    "Print this message or the help of the given subcommand(s)",
    "",
    "Usage: qh-cli help [COMMAND]...",
    "",
    "Arguments:",
    "  [COMMAND]...  Print help for the subcommand(s)"]

/-- A help text. -/
def text (topic : Topic) : String := String.join (topic.lines.map (· ++ "\n"))

end Topic

end CompactHttp.CommandLine
