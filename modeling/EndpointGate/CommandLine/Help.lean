/-!
# Help texts
-/

namespace EndpointGate.CommandLine

def helpText : String :=
  String.intercalate "\n"
    ["Check requests and routes against deprecated REST API declarations",
      "",
      "Usage: deprecated-api-gate [OPTIONS]",
      "",
      "Options:",
      "  -c, --config <CONFIG>        Path to configuration file [default: deprecated-api.yaml]",
      "  -L, --log-level <LOG_LEVEL>  Log level (trace, debug, info, warn, error) [default: info]",
      "      --print-config           Print default configuration and exit",
      "      --validate               Validate configuration and exit",
      "      --check <REQUEST>        Request to evaluate, as \"METHOD URI\" (repeatable)",
      "      --routes <FILE>          File with one \"METHOD PATH\" route per line; " ++
        "prints the routes the gate disables",
      "  -h, --help                   Print help",
      "  -V, --version                Print version"]

/-- The name of the program with its version. -/
def versionText : String := "deprecated-api-gate 0.1.0"

/-- What is said about arguments that cannot be understood. -/
def usageText : String := "Usage: deprecated-api-gate [OPTIONS]"

end EndpointGate.CommandLine
