import SocksRouter.Address.Block
import SocksRouter.Fault
import SocksRouter.Rule.Config

/-!
# Notices

Everything that the router reports about its work, as data. A notice says what happened; its level
and its wording are functions of it, so a statement about the log is a statement about notices.
-/

namespace SocksRouter

open Text

/-- How important a log record is. -/
inductive Level
  /-- The finest detail. -/
  | trace
  /-- Detail. -/
  | debug
  /-- Regular work. -/
  | info
  /-- Good news. -/
  | success
  /-- Trouble that was handled. -/
  | warning
  /-- Trouble that was not. -/
  | error
  /-- Trouble that stops everything. -/
  | critical
  deriving DecidableEq, Repr

namespace Level

/-- All levels, from least to most important. -/
def all : List Level :=
  [trace, debug, info, success, warning, error, critical]

/-- The word for the level in a log. -/
def token : Level → String
  | trace => "TRACE"
  | debug => "DEBUG"
  | info => "INFO"
  | success => "SUCCESS"
  | warning => "WARNING"
  | error => "ERROR"
  | critical => "CRITICAL"

/-- The level that a word stands for. -/
def ofToken? (word : String) : Option Level :=
  all.find? fun level ↦ level.token = word

/-- The importance of a level as a number. -/
def rank : Level → Nat
  | trace => 5
  | debug => 10
  | info => 20
  | success => 25
  | warning => 30
  | error => 40
  | critical => 50

end Level

/-- Why the country database cannot be used. -/
inductive DatabaseError
  /-- There is no database at all. -/
  | absent
  /-- What should be the path of the file is none. -/
  | nullInPath (path : String)
  /-- The file is missing. -/
  | missing (path : String) (cause : Absence)
  /-- The file may not be read. -/
  | locked (path : String)
  /-- The file holds no database. -/
  | unreadable (path : String)
  /-- The database is about something else than countries. -/
  | wrongType (path type : String)
  deriving DecidableEq, Repr

/-- The wording of a database error. -/
def DatabaseError.message : DatabaseError → String
  | .absent => "A country lookup is required, GEOIP rules cannot be evaluated without it"
  | .nullInPath path => s!"Init GeoIP database failed: {path}: {nullMessage}"
  | .missing path cause =>
    s!"Init GeoIP database failed: {path}: {cause.message}: " ++
      quoteBytes (encodeUtf8 path.toList)
  | .locked path =>
    s!"Init GeoIP database failed: {path}: {lockedMessage}: " ++
      quoteBytes (encodeUtf8 path.toList)
  | .unreadable path =>
    s!"Init GeoIP database failed: {path}: Error opening database file ({path}). " ++
      "Is this a valid MaxMind DB file?"
  | .wrongType path type => s!"{path} is a {type} database, expected Country or City"

/-- Something that happened. -/
inductive Notice
  /-- Something about a rule file. -/
  | parse (what : ParseNotice)
  /-- Rules were put in force. -/
  | rulesLoaded (count : Nat) (final : Action)
  /-- A rule file is being read. -/
  | fileOpened (path : String)
  /-- A rule file could not be read. -/
  | fileFailed (cause : FileError)
  /-- The country database cannot be used. -/
  | databaseFailed (cause : DatabaseError)
  /-- The country database is in use. -/
  | databaseOpened (type path : String)
  /-- The operating system did not find a name. -/
  | systemNamesFailed (host : String) (cause : Fault)
  /-- The configured name servers did not find a name. -/
  | serversFailed (host : String) (cause : Fault)
  /-- One fallback name server did not find a name. -/
  | fallbackFailed (nameserver host : String) (cause : Fault)
  /-- Nobody found a name. -/
  | unresolved (host : String)
  /-- Looking up a name for a decision failed. -/
  | resolveFailed (host : String) (cause : Fault)
  /-- The address that a decision goes by. -/
  | addressKnown (host address : String)
  /-- The country of an address could not be looked up. -/
  | lookupFailed (address : String) (cause : Fault)
  /-- The country of the address is the one of a rule. -/
  | countryMatched (code pattern : String)
  /-- A rule could not be evaluated. -/
  | ruleSkipped (rule : Rule) (cause : Block.ParseError)
  /-- There are no rules to decide by. -/
  | noRules
  /-- A rule decided. -/
  | ruleUsed (rule : Rule)
  /-- No rule applied. -/
  | finalUsed (action : Action)
  /-- A session goes through the forward proxy. -/
  | sessionVia (id : Nat) (target : ForwardProxy) (host : String) (port : Nat)
  /-- A session was refused by the rules. -/
  | sessionRejected (id : Nat) (host : String) (port : Nat)
  /-- No tunnel came about. -/
  | tunnelFailed (cause : Fault)
  /-- The destination could not be reached. -/
  | connectFailed (host : String) (port : Nat) (cause : Fault)
  /-- Relaying stopped at a fault. -/
  | relayFailed (cause : Fault)
  /-- A session stopped at a fault. -/
  | sessionEnded (id : Nat) (cause : Fault)
  /-- A session stopped at a fault that nobody handles. -/
  | sessionFailed (id : Nat)
  /-- A session was registered. -/
  | sessionOpened (id count : Nat)
  /-- A session was removed. -/
  | sessionClosed (id count : Nat)
  /-- All sessions were closed. -/
  | sessionsClosed (count : Nat)
  /-- The server starts without rules. -/
  | startsWithoutRules
  /-- The forward proxy of the server. -/
  | forwardProxy (target : ForwardProxy)
  /-- The server listens. -/
  | serverStarted (host : String) (port : Int)
  /-- The server was interrupted. -/
  | serverStopped
  /-- The server has released everything. -/
  | serverClosed
  /-- The rules are to be read again. -/
  | reloadAsked (path : String)
  deriving DecidableEq, Repr

namespace Notice

/-- How important a notice is. -/
def level : Notice → Level
  | parse (.rejected ..) => .debug
  | parse (.invalid ..) => .warning
  | fileOpened .. | databaseOpened .. | systemNamesFailed .. | serversFailed .. | fallbackFailed ..
  | unresolved .. | countryMatched .. | sessionVia .. | connectFailed .. | relayFailed ..
  | sessionEnded .. => .debug
  | resolveFailed .. | lookupFailed .. | ruleSkipped .. | tunnelFailed .. | startsWithoutRules =>
    .warning
  | fileFailed .. | databaseFailed .. | sessionFailed .. => .error
  | _ => .info

/-- The wording of a notice. -/
def message : Notice → String
  | parse (.rejected line cause) => s!"[acl] Rejected rule {quote line}: {cause.message}"
  | parse (.invalid number line) => s!"[acl] Invalid rule at line {number}: {line}"
  | rulesLoaded count final => s!"[acl] Load rule ok, count:{count} final:{final.token}"
  | fileOpened path => s!"[acl] Load rule file {path}..."
  | fileFailed cause => s!"[acl] Load config file failed: {cause.message}"
  | databaseFailed cause => cause.message
  | databaseOpened type path => s!"[geoip] Opened {type} database {path}"
  | systemNamesFailed host cause => s!"System DNS resolution failed for {host}: {cause.message}"
  | serversFailed host cause => s!"Configured resolver failed for {host}: {cause.message}"
  | fallbackFailed nameserver host cause =>
    s!"Alternative nameserver {nameserver} failed for {host}: {cause.message}"
  | unresolved host => s!"Could not resolve {host} using any available method"
  | resolveFailed host cause => s!"[acl] Resolving {host} failed: {cause.message}"
  | addressKnown host address => s!"[acl] host: {host} {address}"
  | lookupFailed address cause => s!"[acl] Country lookup failed for {address}: {cause.message}"
  | countryMatched code pattern => s!"[acl] country {code}, {pattern}"
  | ruleSkipped rule cause => s!"[acl] Skipping rule {rule.line}: {cause.message}"
  | noRules => "[acl] global mode or no rules"
  | ruleUsed rule => s!"[acl] use rule: {rule.description}"
  | finalUsed action => s!"[acl] use rule: final {action.token}"
  | sessionVia id target host port => s!"[socks] Session {id} via {target} to {host}:{port}"
  | sessionRejected id host port => s!"[socks] Session {id} rejected {host}:{port}"
  | tunnelFailed cause => s!"[socks] {cause.message}"
  | connectFailed host port cause => s!"[socks] Connect to {host}:{port} failed: {cause.message}"
  | relayFailed cause => s!"[socks] Forward error: {cause.message}"
  | sessionEnded id cause => s!"[socks] Session {id} ended: {cause.message}"
  | sessionFailed id => s!"[socks] Session {id} failed"
  | sessionOpened id count => s!"[socks] New session {id}, count:{count}"
  | sessionClosed id count => s!"[socks] Disconnect session {id}, count:{count}"
  | sessionsClosed count => s!"[socks] Closed {count} sessions"
  | startsWithoutRules => "[acl] Starting without rules, all traffic uses the forward proxy"
  | forwardProxy target => s!"[socks] Forward proxy {target}"
  | serverStarted host port => s!"[socks] Start socks proxy on {host}:{port} ok"
  | serverStopped => "[socks] Stop socks proxy server"
  | serverClosed => "Server closed"
  | reloadAsked path => s!"[acl] SIGHUP received, reloading {path}"

end Notice

end SocksRouter
