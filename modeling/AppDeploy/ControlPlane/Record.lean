import AppDeploy.AppName
import AppDeploy.Config.Encode
import AppDeploy.Ident
import AppDeploy.Json.Decode
import AppDeploy.Time.Timestamp

/-! The records that are exchanged with the control plane. -/
namespace AppDeploy

open Record (Fields Reader Source record)

variable {δ : Type} [Source δ]

/-- The organization that an app belongs to. -/
structure Organization where
  slug : String
deriving DecidableEq, Repr

/-- What the control plane knows of an app. -/
structure AppSummary where
  name : AppName
  organization : Organization
  platform : Option Platform
  deployed : Bool
deriving DecidableEq, Repr

/-- Whether an organization deploys new apps to machines. -/
structure OrgSettings where
  machinesDefaultOn : Bool
deriving DecidableEq, Repr

/-- A release of an app. -/
structure Release where
  id : ReleaseId
  version : Nat
  deploymentStrategy : String
  evaluationId : EvaluationId
  status : String
  createdAt : Option Timestamp
deriving DecidableEq, Repr

/-- A command that runs before a release goes live. -/
structure ReleaseCommand where
  id : ReleaseCommandId
  command : String
  status : String
deriving DecidableEq, Repr

/-- The answer to the creation of a release. -/
structure CreatedRelease where
  release : Release
  releaseCommand : Option ReleaseCommand
deriving DecidableEq, Repr

/-- The answer to the start of a rollout. -/
structure CreatedRollout where
  id : RolloutId
deriving DecidableEq, Repr

/-- Where something that the control plane runs stands. -/
structure StatusReport where
  status : String
  message : Option String
deriving DecidableEq, Repr

/-- The image that a deploy rolls out. -/
structure DeploymentImage where
  tag : String
  id : Option String
  digest : Option String
  size : Nat
  labels : Table String
deriving DecidableEq, Repr

/-- A point in time in a record. -/
def Timestamp.read : Reader δ Timestamp :=
  Record.parsedText "an RFC 3339 formatted date and time string" fun s =>
    (Timestamp.ofText s).mapError fun e => .refused e.message

namespace Organization

def read : Reader δ Organization :=
  record "Organization" (Organization.mk <$> .required "slug" Record.text)

def toJson (o : Organization) : Json :=
  .object [("slug", .str o.slug)]

end Organization

namespace AppSummary

def read : Reader δ AppSummary :=
  record "AppSummary" <|
    AppSummary.mk <$> .required "name" AppName.read <*>
      .required "organization" Organization.read <*>
      .default "platform_version" Platform.readMarker none <*>
      .default "deployed" Record.flag false

def toJson (s : AppSummary) : Json :=
  .object [("name", .str s.name.text), ("organization", s.organization.toJson),
    ("platform_version", .ofOption Platform.toJson s.platform), ("deployed", .bool s.deployed)]

end AppSummary

namespace OrgSettings

def read : Reader δ OrgSettings :=
  record "OrgSettings" (OrgSettings.mk <$> .default "machines_default_on" Record.flag false)

def toJson (s : OrgSettings) : Json :=
  .object [("machines_default_on", .bool s.machinesDefaultOn)]

end OrgSettings

namespace Release

def read : Reader δ Release :=
  record "Release" <|
    Release.mk <$> .required "id" Ident.read <*> .required "version" Record.word32 <*>
      .default "deployment_strategy" Record.text "" <*>
      .required "evaluation_id" Ident.read <*> .default "status" Record.text "" <*>
      .default "created_at" (Record.option Timestamp.read) none

def toJson (r : Release) : Json :=
  .object [("id", r.id.toJson), ("version", .nat r.version),
    ("deployment_strategy", .str r.deploymentStrategy),
    ("evaluation_id", r.evaluationId.toJson), ("status", .str r.status),
    ("created_at", .ofOption (fun t => .str t.text) r.createdAt)]

/-- The strategy of a release that goes live at once, with nothing to watch. -/
def immediateStrategy : String := "IMMEDIATE"

def isImmediate (r : Release) : Bool :=
  r.deploymentStrategy == immediateStrategy

end Release

namespace ReleaseCommand

def read : Reader δ ReleaseCommand :=
  record "ReleaseCommand" <|
    ReleaseCommand.mk <$> .required "id" Ident.read <*> .required "command" Record.text <*>
      .default "status" Record.text ""

def toJson (c : ReleaseCommand) : Json :=
  .object [("id", c.id.toJson), ("command", .str c.command), ("status", .str c.status)]

end ReleaseCommand

def CreatedRelease.read : Reader δ CreatedRelease :=
  record "CreatedRelease" <|
    CreatedRelease.mk <$> .required "release" Release.read <*>
      .default "release_command" (Record.option ReleaseCommand.read) none

def CreatedRollout.read : Reader δ CreatedRollout :=
  record "CreatedRollout" (CreatedRollout.mk <$> .required "id" Ident.read)

namespace StatusReport

def read : Reader δ StatusReport :=
  record "StatusReport" <|
    StatusReport.mk <$> .required "status" Record.text <*>
      .default "message" (Record.option Record.text) none

def toJson (r : StatusReport) : Json :=
  .object [("status", .str r.status), ("message", .ofOption .str r.message)]

end StatusReport

namespace DeploymentImage

/-- Sizes are kept in 64 bits. -/
def readSize : Reader δ Nat := fun path d =>
  Record.located path (Source.natural "u64" (Nat.pow 2 64) d)

def read : Reader δ DeploymentImage :=
  record "DeploymentImage" <|
    DeploymentImage.mk <$> .required "tag" Record.text <*> optionalText "id" <*>
      optionalText "digest" <*> .required "size" readSize <*> textTable "labels"

def toJson (i : DeploymentImage) : Json :=
  .object <|
    [("tag", .str i.tag)] ++ textField "id" i.id ++ textField "digest" i.digest ++
    [("size", .nat i.size)] ++ tableField "labels" .str i.labels

end DeploymentImage

end AppDeploy
