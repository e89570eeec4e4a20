import PackageInstall.Persona

namespace PackageInstall

open Reading

structure Logging where
  level : String
  json : Bool
  deriving DecidableEq

namespace Logging

def default : Logging := ⟨"info", false⟩

def record : Record Logging :=
  Record.make Logging.mk
  |>.field (.withDefault "level" text default.level)
  |>.field (.withDefault "json" bool default.json)

def read : Json → Except ReadFault Logging := record.read "LoggingConfig"

def write (l : Logging) : Json := .ofFields [("level", .text l.level), ("json", .bool l.json)]

end Logging

structure Settings where
  executorImage : String
  rolePrefix : String
  logging : Logging
  deriving DecidableEq

namespace Settings

def default : Settings := ⟨"crossplane/crossplane:latest", Persona.defaultRolePrefix, .default⟩

def record : Record Settings :=
  Record.make Settings.mk
  |>.field (.withDefault "executor_image" text default.executorImage)
  |>.field (.withDefault "role_prefix" text default.rolePrefix)
  |>.field (.withDefault "logging" Logging.read .default)

def read : Json → Except ReadFault Settings := record.read "InstallConfig"

def write (s : Settings) : Json :=
  .ofFields [("executor_image", .text s.executorImage), ("role_prefix", .text s.rolePrefix),
    ("logging", s.logging.write)]

end Settings

end PackageInstall
