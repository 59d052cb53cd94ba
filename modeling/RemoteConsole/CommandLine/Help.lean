/-!
# Help

What the program says about itself.

* `helpText` — how it is called.
* `versionText` — its name and version.
-/

namespace RemoteConsole

/-- The name and the version of the program. -/
def versionText : String :=
  "script-console 0.2.0\n"

/-- How the program is called, line by line. -/
def helpLines : List String :=
  ["Script Console - interactive client for remote script sessions",
    "",
    "Usage: script-console [OPTIONS] <HOST> [SESSION]",
    "",
    "Arguments:",
    "  <HOST>     Server host name",
    "  [SESSION]  Session to attach to",
    "",
    "Options:",
    "  -p, --port <PORT>          Server port [default: 8080]",
    "  -u, --user <USER>          Username [default: admin]",
    "  -w, --password <PASSWORD>  Password [default: geoserver]",
    "  -c, --context <CONTEXT>    Web application context [default: geoserver]",
    "      --new                  Create a new session and attach to it",
    "      --json                 Print the session list as JSON",
    "      --legacy-auth          Send the Authorization header in the legacy encoding",
    "      --config <FILE>        Path to configuration file",
    "  -v, --verbose              Enable verbose logging",
    "  -h, --help                 Print help",
    "  -V, --version              Print version"]

/-- How the program is called. -/
def helpText : String :=
  String.join (helpLines.map (· ++ "\n"))

end RemoteConsole
