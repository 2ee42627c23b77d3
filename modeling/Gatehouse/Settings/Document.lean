import Gatehouse.Json.Members
import Gatehouse.Settings

/-!
# Settings in documents

How settings are written as documents, and how some of them are read from them.
-/

namespace Gatehouse

namespace Settings

def Server.document (server : Server) : Json :=
  .object [
    ("host", .text server.host),
    ("port", .ofNumber server.port),
    ("maxConnections", .ofNumber server.maxConnections),
    ("maxConsecutiveErrors", .ofNumber server.maxErrors),
    ("idleTimeoutMs", .ofNumber server.idleTimeout)]

def Protocol.document (protocol : Protocol) : Json :=
  .object [
    ("integrityCheck", .text protocol.codec.check.name),
    ("maxFrameSize", .ofNumber protocol.codec.maxSize),
    ("grantDisplaySeconds", .ofNumber protocol.seconds.grant),
    ("denyDisplaySeconds", .ofNumber protocol.seconds.deny)]

def Turnstiles.document (turnstiles : Turnstiles) : Json :=
  .object [
    ("rotationTimeoutMs", .ofNumber turnstiles.rotationTimeout),
    ("historyLimit", .ofNumber turnstiles.historyLimit)]

def Authority.document (authority : Authority) : Json :=
  .object ([
    ("url", .text authority.url),
    ("timeoutMs", .ofNumber authority.timeout),
    ("retries", .ofNumber authority.retries),
    ("retryDelayMs", .ofNumber authority.pause)] ++
    Json.optionalMember "apiKey" (authority.apiKey.map Json.text))

def Validation.document (validation : Validation) : Json :=
  .object [
    ("mode", .text validation.mode.name),
    ("antiPassbackWindowMs", .ofNumber validation.window),
    ("logDenials", .truth validation.logDenials),
    ("online", validation.authority.document)]

def Store.document (store : Store) : Json :=
  .object ([("driver", .text store.kind.name)] ++
    Json.optionalMember "seedFile" (store.seedFile.map Json.text))

namespace Database

def document (database : Database) : Json :=
  .object [
    ("host", .text database.host),
    ("port", .ofNumber database.port),
    ("user", .text database.user),
    ("password", .text database.password),
    ("database", .text database.name),
    ("ssl", .truth database.ssl)]

def ofDocument (document : Json) : Database :=
  { host := document.textAt "host"
    port := document.numberAt "port" .nan
    user := document.textAt "user"
    password := document.textAt "password"
    name := document.textAt "database"
    ssl := document.flagAt "ssl" }

end Database

namespace Web

def document (web : Web) : Json :=
  .object ([
    ("enabled", .truth web.enabled),
    ("port", .ofNumber web.port),
    ("basePath", .text web.basePath),
    ("historySize", .ofNumber web.historySize)] ++
    Json.optionalMember "apiKey" (web.apiKey.map Json.text))

def ofDocument (document : Json) : Web :=
  { enabled := document.flagAt "enabled"
    port := document.numberAt "port" .nan
    basePath := document.textAt "basePath"
    apiKey := document.textAt? "apiKey"
    historySize := document.numberAt "historySize" .nan }

end Web

def environment (document : Json) : Environment :=
  document.textAt?

def document (settings : Settings) : Json :=
  .object [
    ("logLevel", .text settings.verbosity.name),
    ("server", settings.server.document),
    ("protocol", settings.protocol.document),
    ("turnstile", settings.turnstiles.document),
    ("validation", settings.validation.document),
    ("store", settings.store.document),
    ("db", settings.database.document),
    ("webInterface", settings.web.document)]

end Settings

end Gatehouse
