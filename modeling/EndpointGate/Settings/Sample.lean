/-!
# The sample of a settings document
-/

namespace EndpointGate.Settings

/-- A settings document that shows what can be set. -/
def sample : String :=
  String.intercalate "\n"
    ["# Deprecated API gate configuration",
      "#",
      "# Each pattern is an Ant-style path followed by an optional method list.",
      "# Without a method list every method is declined.",
      "#",
      "# Environment overrides:",
      "#   DEPRECATED_API_DISABLED=true",
      "#   DEPRECATED_API_PATTERNS=\"/api/v1/** [GET POST]; /api/v0/**\"",
      "",
      "deprecated:",
      "  api:",
      "    disabled: false",
      "    patterns:",
      "      - \"/deprecated-api/v1/** [POST GET DELETE]\"",
      "      - \"/deprecated-api/v2/**\"",
      ""]

end EndpointGate.Settings
