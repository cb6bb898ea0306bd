import QrlBackend.Configuration
import QrlBackend.JsMap
import QrlBackend.Json
import QrlBackend.RpcService

/-!
# The dependency audit gate

`scripts/audit-gate.mjs` : it reads the allowlist, runs `npm audit`, collects the advisories
of the report and decides whether the build may go on. `fail` is an `Except.error` with its
message and ends the program with code 2.

The objects of a report hold their properties in the order in which `Object.entries`
enumerates them. What the disk and the `npm` process answer are arguments, and so is the
text `JSON.stringify` makes of a value that is only printed.
-/

set_option autoImplicit false

namespace QrlBackend

namespace AuditGate

/-! ## Constants and checks -/

def severities : List String := ["info", "low", "moderate", "high", "critical"]

def entryKeys : List String := ["id", "package", "reason", "expires"]

def maxExceptionDays : ℤ := 90

def dayMs : ℤ := 24 * 60 * 60 * 1000

/-- `GHSA_ID`. -/
def isGhsaId (s : String) : Bool :=
  match s.toList.splitOn '-' with
  | [ghsa, a, b, c] =>
    ghsa = "GHSA".toList ∧ [a, b, c].all fun group =>
      group.length = 4 ∧ group.all fun x => x ∈ "23456789cfghjmpqrvwx".toList
  | _ => false

/-- `isNonEmptyString`, of a text. -/
def isNonEmptyString (value : String) : Bool := (jsTrim value).length > 0

structure Options where
  level : String := "high"
  dir : String := "."
  allowlist : String := "audit-allowlist.json"
  deriving DecidableEq

/-- The loop of `parseArgs`. -/
def parseFlags : List String → Options → Except String Options
  | [], options => .ok options
  | [flag], _ => .error s!"unknown or incomplete argument: {flag}"
  | flag :: value :: argv, options =>
    if flag ∉ ["--level", "--dir", "--allowlist"] ∨ ¬ isNonEmptyString value then
      .error s!"unknown or incomplete argument: {flag}"
    else
      parseFlags argv
        (if flag = "--level" then { options with level := value }
        else if flag = "--dir" then { options with dir := value }
        else { options with allowlist := value })

def parseArgs (argv : List String) : Except String Options :=
  match parseFlags argv {} with
  | .error message => .error message
  | .ok options =>
    if options.level ∉ severities then .error s!"unknown level: {options.level}" else .ok options

/-- An unknown severity counts as critical. -/
def severityRank (severity : String) : ℕ :=
  (severities.idxOf? severity).getD (severities.length - 1)

/-! ## Dates -/

/-- The days from the epoch to a day of the proleptic Gregorian calendar. A day past the end
of its month counts on into the next one, as in `Date.parse`. -/
def daysFromCivil (y m d : ℤ) : ℤ :=
  let y := if m ≤ 2 then y - 1 else y
  let era := y / 400
  let yearOfEra := y - era * 400
  let dayOfYear := (153 * (if 2 < m then m - 3 else m + 9) + 2) / 5 + d - 1
  era * 146097 + (yearOfEra * 365 + yearOfEra / 4 - yearOfEra / 100 + dayOfYear) - 719468

/-- The year, the month and the day of a day counted from the epoch. -/
def civilFromDays (days : ℤ) : ℤ × ℤ × ℤ :=
  let z := days + 719468
  let era := z / 146097
  let dayOfEra := z - era * 146097
  let yearOfEra :=
    (dayOfEra - dayOfEra / 1460 + dayOfEra / 36524 - dayOfEra / 146096) / 365
  let dayOfYear := dayOfEra - (365 * yearOfEra + yearOfEra / 4 - yearOfEra / 100)
  let mp := (5 * dayOfYear + 2) / 153
  let m := if mp < 10 then mp + 3 else mp - 9
  (yearOfEra + era * 400 + (if m ≤ 2 then 1 else 0), m, dayOfYear - (153 * mp + 2) / 5 + 1)

def padded (width : ℕ) (n : ℤ) : String :=
  String.ofList (List.leftpad width '0' (Nat.toDigits 10 n.toNat))

/-- The first ten characters of `toISOString`, which writes the years outside of 0 to 9999
with a sign and six digits. -/
def isoDay (timeMs : ℤ) : String :=
  let (y, m, d) := civilFromDays (timeMs / dayMs)
  let year :=
    if 0 ≤ y ∧ y ≤ 9999 then padded 4 y
    else (if y < 0 then "-" else "+") ++ padded 6 y.natAbs
  String.ofList ((s!"{year}-{padded 2 m}-{padded 2 d}".toList).take 10)

/-- `ISO_DATE`, with the numbers of its groups. -/
def isoDate? (value : String) : Option (ℤ × ℤ × ℤ) :=
  match value.toList with
  | [y₁, y₂, y₃, y₄, '-', m₁, m₂, '-', d₁, d₂] =>
    if [y₁, y₂, y₃, y₄, m₁, m₂, d₁, d₂].all Char.isDigit then
      some (decimalValue (String.ofList [y₁, y₂, y₃, y₄]),
        decimalValue (String.ofList [m₁, m₂]), decimalValue (String.ofList [d₁, d₂]))
    else none
  | _ => none

/-- The time of midnight, nothing for a month or a day out of range. -/
def parseDay (y m d : ℤ) : Option ℤ :=
  if 1 ≤ m ∧ m ≤ 12 ∧ 1 ≤ d ∧ d ≤ 31 then some (daysFromCivil y m d * dayMs) else none

/-- `Date.parse` rolls 2026-02-30 over to March, and the round trip rejects it. -/
def isCalendarDate (value : String) : Bool :=
  match isoDate? value with
  | none => false
  | some (y, m, d) =>
    match parseDay y m d with
    | none => false
    | some time => isoDay time = value

example : isCalendarDate "2026-02-28" = true ∧ isCalendarDate "2026-02-29" = false ∧
    isCalendarDate "2024-02-29" = true := by decide +kernel

/-! ## The allowlist -/

/-- Advisories are matched by their GHSA id, and an entry may give the id or its URL. -/
def advisoryId (idOrUrl : String) : String :=
  let last := String.ofList ((idOrUrl.toList.splitOn '/').getLastD [])
  if isGhsaId last then last else idOrUrl

/-- An exception of the allowlist. -/
structure AllowlistEntry where
  id : String
  pkg : String
  reason : String
  expires : String
  expired : Bool
  deriving DecidableEq

def isHttps (id : String) : Bool := "https://".toList.isPrefixOf id.toList

/-- One entry of `exceptions`, named `place` in the messages. -/
def loadException (place today latestExpiry : String) (entry : Json) :
    Except String AllowlistEntry :=
  match entry with
  | .object fields =>
    match fields.find? fun field => field.1 ∉ entryKeys with
    | some (unknownKey, _) => .error s!"{place} has an unknown key \"{unknownKey}\""
    | none =>
      match entry.field? "id" with
      | some (.string id) =>
        if ¬ (isGhsaId id ∨ isHttps id) then
          .error s!"{place}.id must be a GHSA id or the advisory URL"
        else
          match entry.field? "package" with
          | some (.string pkg) =>
            if ¬ isNonEmptyString pkg then
              .error s!"{place}.package must name the affected package"
            else
              match entry.field? "reason" with
              | some (.string reason) =>
                if ¬ isNonEmptyString reason ∨ utf16Length (jsTrim reason) < 20 then
                  .error s!"{place}.reason must explain the exception"
                else
                  match entry.field? "expires" with
                  | some (.string expires) =>
                    if ¬ isCalendarDate expires then
                      .error s!"{place}.expires must be a valid YYYY-MM-DD date"
                    else if latestExpiry < expires then
                      .error (s!"{place}.expires may be at most {maxExceptionDays} days ahead " ++
                        s!"({latestExpiry})")
                    else
                      .ok {
                        id := advisoryId id
                        pkg
                        reason := jsTrim reason
                        expires
                        expired := expires < today }
                  | _ => .error s!"{place}.expires must be a valid YYYY-MM-DD date"
              | _ => .error s!"{place}.reason must explain the exception"
          | _ => .error s!"{place}.package must name the affected package"
      | _ => .error s!"{place}.id must be a GHSA id or the advisory URL"
  | _ => .error s!"{place} must be an object"

/-- The file : absent, not JSON with the message of the exception, or parsed. -/
abbrev File := Option (Except String Json)

def loadAllowlist (label : String) (file : File) (today latestExpiry : String) :
    Except String (List AllowlistEntry) :=
  match file with
  | none => .ok []
  | some (.error message) => .error s!"{label} is not valid JSON: {message}"
  | some (.ok (.object [("exceptions", .array exceptions)])) =>
    exceptions.zipIdx.mapM fun (entry, index) =>
      loadException s!"{label} exceptions[{index}]" today latestExpiry entry
  | some (.ok _) =>
    .error s!"{label} must be an object with one key, \"exceptions\", holding an array"

/-! ## The report -/

/-- What `spawnSync` returns of `npm audit` : the message of its error, the exit code and the
output, parsed if it is JSON. -/
structure SpawnResult where
  error : Option String
  status : Option ℕ
  stdout : Option Json
  stderr : String

/-- `slice(0, n)`, with a pair that is cut in two as it is printed. -/
def utf16Take : ℕ → List Char → List Char
  | 0, _ => []
  | _, [] => []
  | n + 1, c :: cs =>
    if c.toNat < 0x10000 then c :: utf16Take n cs
    else if n = 0 then ['\uFFFD']
    else c :: utf16Take (n - 1) cs

def slice (n : ℕ) (s : String) : String := String.ofList (utf16Take n s.toList)

/-- The entries of the report, by package. -/
abbrev Vulnerabilities := List (String × Json)

/-- `metadata.vulnerabilities.total`. -/
def total? (report : Json) : Option Json := do
  let metadata ← report.field? "metadata"
  let totals ← metadata.field? "vulnerabilities"
  totals.field? "total"

def unsupportedFormat : String :=
  "unsupported npm audit report format (expected auditReportVersion 2)"

def totalsMismatch : String := "npm audit report totals do not match its vulnerability entries"

def runAudit (stringify : Json → String) (result : SpawnResult) :
    Except String Vulnerabilities :=
  match result.error, result.stdout with
  | some message, _ => .error s!"could not run npm audit: {message}"
  | none, none =>
    let status := (result.status.map Nat.repr).getD "null"
    .error s!"npm audit did not return JSON (exit {status}): {slice 500 result.stderr}"
  | none, some report =>
    if ¬ report.isRecord then .error "npm audit returned an unexpected shape"
    else
      match report.field? "error" with
      | some error =>
        let message := match report.field? "message" with
          | some (.string message) => s!"{message} "
          | _ => ""
        .error s!"npm audit failed: {message}{slice 500 (stringify error)}"
      | none =>
        match report.field? "auditReportVersion", report.field? "vulnerabilities" with
        | some (.number version), some (.object vulnerabilities) =>
          if version ≠ 2 then .error unsupportedFormat
          else
            match total? report with
            | some (.number total) =>
              if total ≠ vulnerabilities.length then .error totalsMismatch
              else .ok vulnerabilities
            | _ => .error totalsMismatch
        | _, _ => .error unsupportedFormat

structure Advisory where
  id : String
  pkg : String
  severity : String
  title : String
  url : String
  deriving DecidableEq

/-- The key of an advisory in the map of those collected. -/
def Advisory.key (advisory : Advisory) : String := s!"{advisory.id} {advisory.pkg}"

/-- The advisory of a record of a `via` list. -/
def advisoryOf (url name : String) (via : Json) : Advisory where
  id := advisoryId url
  pkg := name
  severity := match via.field? "severity" with
    | some (.string severity) => severity
    | _ => "unknown"
  title := match via.field? "title" with
    | some (.string title) => title
    | _ => "(no title)"
  url := url

/-- One element of the `via` list of the entry of `name`. A text names another vulnerable
package, whose own entry lists the advisory. -/
def collectVia (vulnerabilities : Vulnerabilities) (name : String)
    (advisories : JsMap String Advisory) (via : Json) : Except String (JsMap String Advisory) :=
  match via with
  | .string other =>
    if vulnerabilities.any fun entry => entry.1 = other then .ok advisories
    else .error s!"audit entry {name} points at {other}, which has no entry of its own"
  | .object _ =>
    match via.field? "url", via.field? "name" with
    | some (.string url), some (.string pkg) =>
      if ¬ isNonEmptyString url ∨ ¬ isNonEmptyString pkg then
        .error s!"unexpected advisory record under {name}"
      else
        let advisory := advisoryOf url pkg via
        .ok (advisories.setIfNew advisory.key advisory)
    | _, _ => .error s!"unexpected advisory record under {name}"
  | _ => .error s!"unexpected advisory record under {name}"

def collectEntry (vulnerabilities : Vulnerabilities) (advisories : JsMap String Advisory) :
    String × Json → Except String (JsMap String Advisory)
  | (name, entry) =>
    match entry.field? "via" with
    | some (.array (via :: rest)) =>
      (via :: rest).foldlM (collectVia vulnerabilities name) advisories
    | _ => .error s!"unexpected audit entry for {name}"

def collectAdvisories (vulnerabilities : Vulnerabilities) : Except String (List Advisory) := do
  let advisories ← vulnerabilities.foldlM (collectEntry vulnerabilities) .empty
  return advisories.values

/-! ## The decision -/

/-- The entry is about the advisory. -/
def AllowlistEntry.covers (entry : AllowlistEntry) (advisory : Advisory) : Bool :=
  entry.id = advisory.id ∧ entry.pkg = advisory.pkg

/-- What the loop over the advisories at or above the level has found : entries are told
apart by their place in the allowlist, and printed lines are kept in order. -/
structure Review where
  blocking : List Advisory := []
  usedEntries : List ℕ := []
  expired : ℕ := 0
  lines : List String := []

def reviewAdvisory (allowlist : List AllowlistEntry) (review : Review) (advisory : Advisory) :
    Review :=
  let label := s!"{advisory.id} {advisory.severity} {advisory.pkg}: {advisory.title}"
  match allowlist.zipIdx.find? fun item => item.1.covers advisory with
  | none =>
    { review with
      blocking := review.blocking ++ [advisory]
      lines := review.lines ++ [s!"  BLOCK  {label} ({advisory.url})"] }
  | some (entry, index) =>
    if entry.expired then
      { review with
        usedEntries := index :: review.usedEntries
        expired := review.expired + 1
        lines := review.lines ++
          [s!"  EXPIRED {label}: allowlist entry expired {entry.expires}, review it again"] }
    else
      { review with
        usedEntries := index :: review.usedEntries
        lines := review.lines ++ [s!"  ALLOW  {label}: until {entry.expires}, {entry.reason}"] }

def relevantAdvisories (level : String) (advisories : List Advisory) : List Advisory :=
  advisories.filter fun advisory => severityRank level ≤ severityRank advisory.severity

/-- The warnings about the entries that no advisory used. -/
def unusedWarnings (inActions : Bool) (allowlist : List AllowlistEntry) (review : Review) :
    List String :=
  let start := if inActions then "::warning::audit-gate:" else "audit-gate: warning:"
  allowlist.zipIdx.filterMap fun (entry, index) =>
    if index ∈ review.usedEntries then none
    else some
      s!"{start} allowlist entry {entry.id} ({entry.pkg}) matches no current advisory; remove it"

/-- How the program ends : its code and what it has printed. -/
structure Outcome where
  exitCode : ℕ
  out : List String
  err : List String

def gate (inActions : Bool) (options : Options) (allowlist : List AllowlistEntry)
    (advisories : List Advisory) : Outcome :=
  let relevant := relevantAdvisories options.level advisories
  let review := relevant.foldl (reviewAdvisory allowlist) {}
  let place := if options.dir = "." then "root" else options.dir
  let summary := s!"audit-gate: {place}: {advisories.length} production advisories, " ++
    s!"{relevant.length} at {options.level} or above, {review.blocking.length} blocking, " ++
    s!"{review.expired} expired exceptions"
  let out := review.lines ++ unusedWarnings inActions allowlist review ++ [summary]
  if review.blocking.length > 0 ∨ review.expired > 0 then
    { exitCode := 1
      out
      err := ["audit-gate: FAIL. Update the dependency, or add a dated entry with a reason " ++
        "to audit-allowlist.json."] }
  else { exitCode := 0, out := out ++ ["audit-gate: OK"], err := [] }

/-- What the program finds around it : `GITHUB_ACTIONS`, the clock, the files by name and
`npm audit` by directory. -/
structure Surroundings where
  inActions : Bool
  now : ℤ
  file : String → File
  npmAudit : String → SpawnResult
  stringify : Json → String

/-- The part of the program that `fail` may end. -/
def check (around : Surroundings) (argv : List String) : Except String Outcome := do
  let options ← parseArgs argv
  let today := isoDay around.now
  let latestExpiry := isoDay (around.now + maxExceptionDays * dayMs)
  let allowlist ←
    loadAllowlist options.allowlist (around.file options.allowlist) today latestExpiry
  let vulnerabilities ← runAudit around.stringify (around.npmAudit options.dir)
  let advisories ← collectAdvisories vulnerabilities
  return gate around.inActions options allowlist advisories

def main (around : Surroundings) (argv : List String) : Outcome :=
  match check around argv with
  | .error message => { exitCode := 2, out := [], err := [s!"audit-gate: {message}"] }
  | .ok outcome => outcome

end AuditGate

end QrlBackend
