/-
# The default pack of rules

The rules that apply when none are configured: enumerations do not hide in interfaces or transfer
types, payloads of events have their folder, leftovers are removed, namespaces mirror folders, the
clock is read in one place, and types, shapes and enumerations do not come twice.
-/
import Conformance.Rule.Basic

namespace Conformance

/-- The endings of names of types that carry a shape. -/
def shapeSuffixes : List String :=
  ["Dto", "Model", "Response", "Request", "Options", "Config", "Configuration", "Settings", "Entry"]

/-- The pattern of names that end so. -/
def shapePattern : String :=
  "(?:" ++ "|".intercalate shapeSuffixes ++ ")$"

/-- A rule of which an enforcing error is made. -/
def enforcing (id description : String) (body : RuleBody) (message : String := "") : RuleSpec :=
  ⟨{ id := id, description := description, message := message }, body⟩

/-- A rule of which an advisory warning is made. -/
def advisory (id description : String) (body : RuleBody) : RuleSpec :=
  ⟨{ id := id, description := description, severity := .warning, mode := .advisory }, body⟩

/-- The default pack. -/
def defaultRules : List RuleSpec := [
  enforcing "enum-in-interface" "Enums must not be declared inside interfaces"
    (.placement
      { kinds := ["enum"], forbiddenContainer := ["interface"], containerScope := "any" }),
  enforcing "enum-in-dto" "Enums must not be declared inside DTO types"
    (.placement
      { kinds := ["enum"], forbiddenContainer := ["class", "record", "struct"],
        containerPattern := some "Dto$", containerScope := "any" }),
  enforcing "event-payload-location" "Event payload types live in an Events folder"
    (.placement { kinds := ["event_payload"], requiredPath := some "/Events/" }),
  enforcing "no-legacy-types" "Legacy and deprecated types are removed, not kept alongside"
    (.placement { pattern := "(?:Legacy|Deprecated)", kinds := ["type", "interface", "enum"] })
    "\x7bkind\x7d \x7bname\x7d looks like leftover legacy code",
  advisory "type-has-namespace" "Every type is declared inside a namespace"
    (.placement { kinds := ["type", "interface", "enum"], requireNamespace := true }),
  advisory "namespace-matches-folder" "File namespace mirrors its folder under src/"
    (.nameSpace { sourcePrefix := "src/" }),
  enforcing "no-direct-clock" "Read time through ISystemClock, not DateTime.UtcNow"
    (.usage
      { pattern := "\\bDateTime(?:Offset)?\\.UtcNow\\b",
        exemptPaths := ["/Communication/", "/tests/", ".Tests/"],
        exemptIfContains := [": ISystemClock"] }),
  enforcing "duplicate-types" "One type per concept; no Impl/V2/Old/New/Legacy twins"
    (.duplicate {}),
  advisory "shape-suffix-family"
    "One model per concept across the Dto/Options/Config suffix family"
    (.duplicate
      { kinds := ["type"], suffixes := shapeSuffixes, requireDistinctSuffixes := true }),
  advisory "enum-overlap" "Enums sharing most of their members shadow each other"
    (.similarity { kinds := ["enum"] }),
  advisory "shape-overlap" "DTO and options types with near-identical properties"
    (.similarity { kinds := ["type"], subjectPattern := some shapePattern })]

end Conformance
