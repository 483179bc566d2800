import RequestSchema.Json.Basic

set_option autoImplicit false

/-!
# Settings

The settings of the server, the conversion and the log, with their defaults.
-/

namespace RequestSchema

structure ServerSettings where
  host : Text
  port : Int
  path : Text
  maxBodyBytes : Int
  successStatus : Int
deriving DecidableEq

structure ConversionSettings where
  strict : Bool
deriving DecidableEq

structure LoggingSettings where
  level : Text
  format : Text
  file : Option Text
deriving DecidableEq

structure Settings where
  server : ServerSettings
  conversion : ConversionSettings
  logging : LoggingSettings
deriving DecidableEq

def ServerSettings.default : ServerSettings := ⟨"127.0.0.1", 3000, "/", 1024 * 1024, 201⟩

def ConversionSettings.default : ConversionSettings := ⟨false⟩

def LoggingSettings.default : LoggingSettings := ⟨"INFO", "json", none⟩

def Settings.default : Settings := ⟨.default, .default, .default⟩

inductive SettingsGroup where
  | server
  | conversion
  | logging
deriving DecidableEq

namespace SettingsGroup

def key : SettingsGroup → Text
  | server => "server"
  | conversion => "conversion"
  | logging => "logging"

def fields : SettingsGroup → List Text
  | server => ["host", "port", "path", "max_body_bytes", "success_status"]
  | conversion => ["strict"]
  | logging => ["level", "format", "file"]

def all : List SettingsGroup := [server, conversion, logging]

end SettingsGroup

def ServerSettings.toJson (s : ServerSettings) : Json :=
  .obj [("host", .str s.host), ("port", .int s.port), ("path", .str s.path),
    ("max_body_bytes", .int s.maxBodyBytes), ("success_status", .int s.successStatus)]

def ConversionSettings.toJson (s : ConversionSettings) : Json := .obj [("strict", .bool s.strict)]

def LoggingSettings.toJson (s : LoggingSettings) : Json :=
  .obj [("level", .str s.level), ("format", .str s.format), ("file", s.file.elim .null .str)]

def Settings.toJson (s : Settings) : Json :=
  .obj [("server", s.server.toJson), ("conversion", s.conversion.toJson),
    ("logging", s.logging.toJson)]

end RequestSchema
