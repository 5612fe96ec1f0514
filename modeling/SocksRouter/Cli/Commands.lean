import SocksRouter.Cli.Arguments
import SocksRouter.Cli.Outcome
import SocksRouter.Console.Table
import SocksRouter.Engine.Loading
import SocksRouter.FileTree
import SocksRouter.Text.Integer

/-!
# Commands

The command line of the router: `proxy` starts the server, `check` shows how hosts would be routed,
and `rules` lists the rules of a file. Every run first prints the name and the version. A setting
that is not given as an option is taken from its environment variable, if that is not empty.
-/

namespace SocksRouter.Cli

open Console Text

/-- The version of the router. -/
def version : String := "0.1.0"

/-- What every run prints first. -/
def banner : List Char :=
  s!"ACL SOCKS Proxy v{version}\n".toList

/-- What a command finds around it. -/
structure Surrounding where
  /-- What the paths lead to. -/
  read : String → FileContent
  /-- The environment variables. -/
  environment : List (String × String) := []
  /-- The name services. -/
  names : NameService
  /-- Why starting the server fails, if it does. -/
  serveFailure : Option Failure := none

/-! ### Settings -/

/-- The environment variable of a setting. -/
def Key.variableName? : Key → Option String
  | config => some "ACL_PROXY_CONFIG"
  | database => some "ACL_PROXY_GEOIP_DB"
  | port => some "ACL_PROXY_PORT"
  | forward => some "ACL_PROXY_FORWARD"
  | _ => none

/-- The options for the rule file. -/
def configForms : List Form :=
  [⟨"--config", .config, .takesValue⟩, ⟨"-c", .config, .takesValue⟩]

/-- The options for the country database. -/
def databaseForms : List Form :=
  [⟨"--geoip-db", .database, .takesValue⟩, ⟨"-g", .database, .takesValue⟩]

/-- The option that asks for help. -/
def helpForm : Form :=
  ⟨"--help", .help, .turns true⟩

/-- The options of `proxy`. -/
def proxyForms : List Form :=
  configForms ++ databaseForms ++
    [⟨"--host", .host, .takesValue⟩, ⟨"--port", .port, .takesValue⟩,
      ⟨"--forward-proxy", .forward, .takesValue⟩, ⟨"-f", .forward, .takesValue⟩,
      ⟨"--debug", .debug, .turns true⟩, ⟨"--no-debug", .debug, .turns false⟩, helpForm]

/-- The options of `check`. -/
def checkForms : List Form :=
  configForms ++ databaseForms ++ [helpForm]

/-- The options of `rules`. -/
def rulesForms : List Form :=
  configForms ++ [⟨"--raw", .raw, .turns true⟩, ⟨"--no-raw", .raw, .turns false⟩, helpForm]

namespace Surrounding

/-- The value of an environment variable, if it is not empty. -/
def environment? (around : Surrounding) (name : String) : Option String :=
  (around.environment.lookup name).filter fun value ↦ !value.isEmpty

/-- The value of a setting. -/
def setting? (around : Surrounding) (arguments : Arguments) (key : Key) : Option String :=
  (arguments.value? key).or (key.variableName?.bind around.environment?)

/-- The value of a setting that has to be given. -/
def required (around : Surrounding) (arguments : Arguments) (key : Key) :
    Except UsageError String :=
  match around.setting? arguments key with
  | some value => .ok value
  | none => .error (.missingOption key)

/-- The path of the rule file, which has to lead to a file that may be read. -/
def configPath (around : Surrounding) (arguments : Arguments) : Except UsageError String := do
  let path ← around.required arguments .config
  if !isPath path then throw (.badValue .config path)
  match around.read path with
  | .missing _ | .directory | .locked => throw (.badValue .config path)
  | .failing _ | .bytes .. => return tidyPath path

/-- The path of the country database. -/
def databasePath (around : Surrounding) (arguments : Arguments) : Except UsageError String := do
  let path ← around.required arguments .database
  if !isPath path then throw (.badValue .database path)
  return tidyPath path

/-- The port to listen on. -/
def port (around : Surrounding) (arguments : Arguments) : Except UsageError Int :=
  match around.setting? arguments .port with
  | none => .ok 1080
  | some text =>
    match readInteger? text.toList with
    | some n => .ok n
    | none => .error (.badValue .port text)

end Surrounding

/-! ### Tables -/

/-- A text of a table, which may hold markup. -/
def tableText (text : String) : Except MarkupError Styled :=
  ofMarkup text.toList

/-- The heading of a column at the left. -/
def leftColumn (heading : String) : Column :=
  ⟨heading.toList, .left⟩

/-- Prints a table behind what was printed before. The texts of the columns are read first, one
column after the other, and the styles in all texts are looked at when all are read. -/
def showTable (before : List Char) (title : String) (columns : List Column)
    (rows : List (List String)) : Outcome :=
  let columnTexts := (List.range columns.length).flatMap fun i ↦ rows.filterMap fun row ↦ row[i]?
  let allTexts := title :: columnTexts
  let table : Except MarkupError Console.Table := do
    columnTexts.forM fun text ↦ discard (tableText text)
    let title ← tableText title
    let rows ← rows.mapM fun row ↦ row.mapM tableText
    allTexts.forM fun text ↦ checkStyles text.toList
    return ⟨title, columns, rows⟩
  match table with
  | .ok table => .done (before ++ table.printed)
  | .error cause => .crashed before (.markup cause)

/-- The row of a rule in the list of rules. -/
def ruleRow (number : String) (rule : Rule) : List String :=
  [number, rule.kind.token, rule.patternText, rule.action.token]

/-- The rows of a rule set, its rules numbered from one on. -/
def ruleRows (set : RuleSet) : List (List String) :=
  (set.rules.zipIdx 1).map (fun (rule, number) ↦ ruleRow (toString number) rule) ++
    [ruleRow "" set.finalRule]

/-! ### Commands -/

/-- Starts the server. -/
def runProxy (around : Surrounding) (arguments : Arguments) : Except UsageError Outcome := do
  if let word :: _ := arguments.operands then throw (.unexpectedOperand word)
  let config ← around.configPath arguments
  let database ← around.databasePath arguments
  let port ← around.port arguments
  let host := (around.setting? arguments .host).getD "127.0.0.1"
  let forward := (around.setting? arguments .forward).filter fun text ↦ !text.isEmpty
  let logging := Call.configureLogging (arguments.isOn .debug) true
  match forward.mapM ForwardProxy.parse with
  | .error cause => return (Outcome.failed banner cause.message).withCalls [logging]
  | .ok target =>
    let outcome : Outcome := match around.serveFailure with
      | none => .done banner
      | some cause =>
        if cause.kind.isSystem ∨ cause.kind = .countryData then .failed banner cause.text
        else .crashed banner (.failure cause)
    return outcome.withCalls [logging, .serve host port config database target]

/-- Decides for each host. -/
def routeAll (engine : Engine) (hosts : List String) : Deciding (List (List String)) :=
  hosts.mapM fun host ↦ do
    let rule ← engine.findRule host
    return [host, rule.action.token, rule.line]

/-- Shows how hosts would be routed. -/
def runCheck (around : Surrounding) (arguments : Arguments) : Except UsageError Outcome := do
  if arguments.operands.isEmpty then throw .missingOperand
  let config ← around.configPath arguments
  let path ← around.databasePath arguments
  match (openDatabase path (around.read path)).value with
  | .error cause => return .failed banner cause.message
  | .ok database =>
    let engine := Engine.ofDatabase around.names database
    match (engine.load config (around.read config)).value with
    | (.error cause, _) => return .crashed banner (.fault cause)
    | (.ok _, loaded) =>
      match (routeAll loaded arguments.operands).run.value with
      | .error cause => return .crashed banner (.fault cause)
      | .ok rows =>
        return showTable banner s!"Routing ({pathName config})"
          [leftColumn "Host", leftColumn "Action", leftColumn "Rule"] rows

/-- Lists the rules of a file. -/
def runRules (around : Surrounding) (arguments : Arguments) : Except UsageError Outcome := do
  if let word :: _ := arguments.operands then throw (.unexpectedOperand word)
  let config ← around.configPath arguments
  match (around.read config).readText config with
  | .error cause => return .failed banner cause.message
  | .ok text =>
    let set := parseConfig text
    if arguments.isOn .raw then
      return .done (banner ++ printed (ofPlain set.dump.toList))
    else
      return showTable banner s!"Rules ({set.size})"
        [⟨"#".toList, .right⟩, leftColumn "Type", leftColumn "Pattern", leftColumn "Action"]
        (ruleRows set)

/-- Runs a command with its arguments, unless they ask for help. -/
def runCommand (forms : List Form) (command : Arguments → Except UsageError Outcome)
    (arguments : List String) : Except UsageError Outcome := do
  let arguments ← readArguments forms arguments
  if arguments.isOn .help then return .done banner
  command arguments

/-- Runs the command line. Without a command only the banner is printed. -/
def run (around : Surrounding) (arguments : List String) : Outcome :=
  let outcome : Except UsageError Outcome := do
    match ← splitCommand arguments with
    | none => return .done banner
    | some ("proxy", arguments) => runCommand proxyForms (runProxy around) arguments
    | some ("check", arguments) => runCommand checkForms (runCheck around) arguments
    | some ("rules", arguments) => runCommand rulesForms (runRules around) arguments
    | some (word, _) => throw (.unknownCommand word)
  match outcome with
  | .ok outcome => outcome
  | .error _ => .refused

end SocksRouter.Cli
