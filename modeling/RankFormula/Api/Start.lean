import RankFormula.Api.Config
import RankFormula.Api.Service
import RankFormula.Service.Connection

/-!
# Starting the service

The start of the service up to the moment when it listens: reading the
configuration, connecting to the document store, checking the origins that browsers
may call from, and in debug mode listing the routes. What follows depends on the
host, which may refuse the certificates or let nobody listen.

The origins are only checked here, as a start fails over a bad one. What a browser
is told about them is left out: the headers that name allowed origins, and the
answers to the requests by which a browser asks for them or comes from elsewhere.
-/

namespace RankFormula

/-- What the host makes of the service's wish to listen. -/
structure ListenHost where
  /-- Why the certificates cannot be loaded. -/
  certificateFault : Option String
  /-- Why the service cannot listen. -/
  listenFault : Option String

/-- The service after it ended. -/
structure ServiceEnd where
  /-- The exit status and the records written. -/
  program : ProgramEnd
  /-- The list of routes that was written. -/
  routeFile : Option String

/-- Whether browsers may be given an origin: it has a wildcard or a scheme of the web. -/
def isOrigin (origin : String) : Bool :=
  let cs := origin.toList
  cs.contains '*' || "http://".toList.isPrefixOf cs || "https://".toList.isPrefixOf cs

/-- Whether origins can be configured: there is one, and all of them are origins. -/
def areOrigins (origins : List String) : Bool := !origins.isEmpty && origins.all isOrigin

/-- The records of clients without a key. -/
def keylessClients (clients : List ApiClient) : List LogRecord :=
  (clients.filter fun client => client.key.isEmpty).map fun client =>
    ⟨.warn, "API client without key will be ignored", [("client", .string client.name)]⟩

/-- The records of the end of the service. -/
def listenRecords (listen : ListenSection) (host : ListenHost) : List LogRecord :=
  let failure (message : String) (fault : String) : LogRecord :=
    ⟨.error, message, [("error", .string fault)]⟩
  match listen.mutualTls, host.certificateFault, host.listenFault with
  | true, some fault, _ => [failure "Error loading TLS config." fault]
  | _, _, some fault => [failure "Exited Ranking API" fault]
  | _, _, none => []

namespace ServiceConfig

/-- Runs the service once it is connected. -/
def listenOn (config : ServiceConfig) (host : ListenHost) (logger : Logger)
    (reports : List LogRecord) : ServiceEnd :=
  if areOrigins (config.listen.allowOrigins.getD []) then
    let starting : LogRecord :=
      ⟨.info, "Starting Ranking API", [("port", .string config.listen.listenPort)]⟩
    ⟨⟨0, logger.writeAll (reports ++ starting :: listenRecords config.listen host)⟩,
      if config.listen.debugMode then some serviceRouteList else none⟩
  else ⟨⟨startFailed, logger.writeAll reports⟩, none⟩

/-- Connects and runs the service of a configuration. -/
def run (config : ServiceConfig) (host : ListenHost) (logger : Logger) (started : List LogRecord) :
    Exchange ServiceEnd :=
  let allowed : LogRecord :=
    ⟨.info, "Ranking variables allowed", [("variables", namesJson config.whitelist.names)]⟩
  let reports := started ++ keylessClients config.clients ++ [allowed]
  match config.rankingDB.settings config.allowedInstances with
  | .error fault => pure ⟨⟨startFailed, logger.writeAll (reports ++ [fault.report])⟩, none⟩
  | .ok settings => do
    let (_, made) ← Connection.start settings
    pure (config.listenOn host logger (reports ++ made))

end ServiceConfig

/-- Runs the service on a host. -/
def runService (host : Host) (listenHost : ListenHost) : Exchange ServiceEnd :=
  match readConfig ServiceConfig.decode host.configPath host.configFile with
  | .error _ => pure ⟨⟨startFailed, []⟩, none⟩
  | .ok config =>
    match config.logging.start host.buildInfo with
    | .error _ => pure ⟨⟨startFailed, []⟩, none⟩
    | .ok (logger, started) =>
      (config.withSecrets host.environment).run listenHost logger started

end RankFormula
