import RankFormula.Text.Percent

/-!
# Connection to the document store

The section of a configuration that describes the connection, and the settings
that follow from it. Credentials are percent-encoded into the URI; numbers that
are missing or not positive fall back to defaults.
-/

namespace RankFormula

/-- The connection as a configuration file describes it. -/
structure DatabaseSection where
  /-- Host and options of the URI. -/
  connectionStr : String
  /-- The user's name. -/
  username : String
  /-- The user's password. -/
  password : String
  /-- What follows the scheme's name. -/
  connectionPrefix : String
  /-- Seconds until an operation is given up. -/
  timeout : Int
  /-- Seconds until an idle connection is closed. -/
  idleConnTimeout : Int
  /-- The largest number of connections. -/
  maxPoolSize : Int
  /-- Whether cursors live on without use. -/
  useNoCursorTimeout : Bool
  /-- What the names of all databases start with. -/
  dbNamePrefix : String
  /-- Whether indexes are made at the start. -/
  runIndexCreation : Bool
  deriving DecidableEq, Repr

/-- A section in which nothing is set. -/
def DatabaseSection.blank : DatabaseSection := ⟨"", "", "", "", 0, 0, 0, false, "", false⟩

/-- The settings of a connection. -/
structure DatabaseSettings where
  /-- The URI to connect to. -/
  uri : String
  /-- What the names of all databases start with. -/
  dbNamePrefix : String
  /-- Seconds until an operation is given up. -/
  timeout : Int
  /-- Whether cursors live on without use. -/
  noCursorTimeout : Bool
  /-- The largest number of connections. -/
  maxPoolSize : Int
  /-- Seconds until an idle connection is closed. -/
  idleConnTimeout : Int
  /-- The instances served, if they are known. -/
  instanceIDs : Option (List String)
  /-- Whether indexes are made at the start. -/
  runIndexCreation : Bool
  deriving DecidableEq, Repr

/-- Why a section has no settings. -/
inductive DatabaseFault where
  /-- There is no connection string. -/
  | connectionMissing
  deriving DecidableEq, Repr

/-- The words of a fault. -/
def DatabaseFault.message : DatabaseFault → String
  | .connectionMissing => "DB connection string missing"

namespace DatabaseSection

/-- The URI of a connection; credentials appear if one of them is not empty. -/
def uri (s : DatabaseSection) : String :=
  let credentials :=
    if s.username.isEmpty && s.password.isEmpty then []
    else formEncode s.username.toList ++ ':' :: (formEncode s.password.toList ++ ['@'])
  "mongodb" ++ s.connectionPrefix ++ "://" ++ String.ofList credentials ++ s.connectionStr

/-- A positive number, or else a default. -/
def positiveOr (fallback n : Int) : Int := if 0 < n then n else fallback

/-- The settings of a section; there are none without a connection string. -/
def settings (s : DatabaseSection) (instanceIDs : Option (List String)) :
    Except DatabaseFault DatabaseSettings :=
  if s.connectionStr.isEmpty then .error .connectionMissing
  else .ok
    { uri := s.uri
      dbNamePrefix := s.dbNamePrefix
      timeout := positiveOr 30 s.timeout
      noCursorTimeout := s.useNoCursorTimeout
      maxPoolSize := positiveOr 8 s.maxPoolSize
      idleConnTimeout := positiveOr 45 s.idleConnTimeout
      instanceIDs := instanceIDs
      runIndexCreation := s.runIndexCreation }

end DatabaseSection
end RankFormula
