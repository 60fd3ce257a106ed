import RankFormula.Api.Expressions
import RankFormula.Config.Host

/-!
# Configuration of the service

How the service logs, listens, ranks and reaches the document store, and who may
use it. Keys and credentials may come from the environment instead of the file.
-/

namespace RankFormula

/-- Where the certificates are. -/
structure CertificatePaths where
  /-- The certificate of the server. -/
  serverCert : String
  /-- The key of the server. -/
  serverKey : String
  /-- The certificate that signs those of the clients. -/
  caCert : String
  deriving DecidableEq, Repr

/-- How the service listens. -/
structure ListenSection where
  /-- Whether the routes are written to a file. -/
  debugMode : Bool
  /-- The origins from which browsers may call. -/
  allowOrigins : Option (List String)
  /-- Where it listens. -/
  listenPort : String
  /-- Whether clients must present a certificate. -/
  mutualTls : Bool
  /-- Where the certificates are. -/
  certificates : CertificatePaths

/-- How the service ranks. -/
structure RankingSection where
  /-- The variables that formulas may read; the standard ones if there are none. -/
  allowedVariables : Option (List String)
  /-- The fields of posts stored as dates. -/
  dateFields : Option (List String)
  /-- The field that receives the score. -/
  scoreField : String

/-- The configuration of the service. -/
structure ServiceConfig where
  /-- How it logs. -/
  logging : LoggingSection
  /-- How it listens. -/
  listen : ListenSection
  /-- The key that signs management tokens. -/
  signKey : String
  /-- The programs that may read. -/
  clients : List ApiClient
  /-- How it reaches the document store. -/
  rankingDB : DatabaseSection
  /-- The instances served. -/
  allowedInstances : Option (List String)
  /-- How it ranks. -/
  ranking : RankingSection

/-- The paths of a service that has none. -/
def CertificatePaths.blank : CertificatePaths := ⟨"", "", ""⟩

/-- The fields of the paths. -/
def CertificatePaths.fields : List (Yaml.Field CertificatePaths) := [
  .of "server_cert_path" Yaml.decodeText fun s v => { s with serverCert := v },
  .of "server_key_path" Yaml.decodeText fun s v => { s with serverKey := v },
  .of "ca_cert_path" Yaml.decodeText fun s v => { s with caCert := v }]

namespace ListenSection

/-- A section in which nothing is set. -/
def blank : ListenSection := ⟨false, none, "", false, .blank⟩

/-- The fields about certificates. -/
def certificateFields : List (Yaml.Field ListenSection) := [
  .of "use" Yaml.decodeBool fun s v => { s with mutualTls := v },
  .within "certificate_paths" (Yaml.decodeSection CertificatePaths.fields .blank)
    ListenSection.certificates fun s v => { s with certificates := v }]

/-- The fields of the section. -/
def fields : List (Yaml.Field ListenSection) := [
  .of "debug_mode" Yaml.decodeBool fun s v => { s with debugMode := v },
  .of "allow_origins" (Yaml.decodeList Yaml.decodeText) fun s v => { s with allowOrigins := v },
  .of "port" Yaml.decodeText fun s v => { s with listenPort := v },
  .group "mtls" certificateFields fun s =>
    { s with mutualTls := false, certificates := .blank }]

end ListenSection

namespace RankingSection

/-- A section in which nothing is set. -/
def blank : RankingSection := ⟨none, none, ""⟩

/-- The fields of the section. -/
def fields : List (Yaml.Field RankingSection) := [
  .of "allowed_variables" (Yaml.decodeList Yaml.decodeText) fun s v =>
    { s with allowedVariables := v },
  .of "date_fields" (Yaml.decodeList Yaml.decodeText) fun s v => { s with dateFields := v },
  .of "score_field" Yaml.decodeText fun s v => { s with scoreField := v }]

end RankingSection

/-- The fields of a client. -/
def ApiClient.fields : List (Yaml.Field ApiClient) := [
  .of "name" Yaml.decodeText fun s v => { s with name := v },
  .of "key" Yaml.decodeText fun s v => { s with key := v }]

/-- A client in a tree. -/
def ApiClient.decode : Yaml.Tree → Option ApiClient :=
  Yaml.decodeSection ApiClient.fields ⟨"", ""⟩ ⟨"", ""⟩

namespace ServiceConfig

/-- A configuration in which nothing is set. -/
def blank : ServiceConfig := ⟨.blank, .blank, "", [], .blank, none, .blank⟩

/-- The fields of the configuration. -/
def fields : List (Yaml.Field ServiceConfig) := [
  .within "logging" LoggingSection.decode ServiceConfig.logging fun c v =>
    { c with logging := v },
  .within "gin_config" (Yaml.decodeSection ListenSection.fields .blank) ServiceConfig.listen
    fun c v => { c with listen := v },
  .group "management_user_jwt_config"
    [.of "sign_key" Yaml.decodeText fun c v => { c with signKey := v }]
    fun c => { c with signKey := "" },
  .of "api_clients" (Yaml.decodeList ApiClient.decode) fun c v => { c with clients := v.getD [] },
  .group "db_configs"
    [.within "ranking_db" DatabaseSection.decode ServiceConfig.rankingDB fun c v =>
      { c with rankingDB := v }]
    fun c => { c with rankingDB := .blank },
  .of "allowed_instance_ids" (Yaml.decodeList Yaml.decodeText) fun c v =>
    { c with allowedInstances := v },
  .within "ranking_config" (Yaml.decodeSection RankingSection.fields .blank) ServiceConfig.ranking
    fun c v => { c with ranking := v }]

/-- The configuration in a tree. -/
def decode : Yaml.Tree → Option ServiceConfig := Yaml.decodeSection fields blank blank

/-- The configuration with the keys and credentials of the environment. -/
def withSecrets (config : ServiceConfig) (environment : Environment) : ServiceConfig :=
  { config with
    rankingDB := config.rankingDB.withSecrets environment
    signKey := environment.override "MANAGEMENT_USER_JWT_SIGN_KEY" config.signKey
    clients := config.clients.map fun client =>
      { client with key := environment.override (clientKeyVariable client.name) client.key } }

/-- The variables that formulas may read. -/
def whitelist (config : ServiceConfig) : Whitelist := whitelistOf config.ranking.allowedVariables

/-- The settings of the service. -/
def api (config : ServiceConfig) : Api where
  access := ⟨config.signKey, config.clients, config.allowedInstances.getD []⟩
  whitelist := config.whitelist
  dateFields := config.ranking.dateFields.getD []
  scoreField := config.ranking.scoreField

end ServiceConfig
end RankFormula
