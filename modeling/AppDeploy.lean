import AppDeploy.Advisory
import AppDeploy.AppName
import AppDeploy.Assignment
import AppDeploy.CommandLine.Arguments
import AppDeploy.CommandLine.Failure
import AppDeploy.CommandLine.Program
import AppDeploy.CommandLine.Reading
import AppDeploy.CommandLine.Usage
import AppDeploy.Config.Basic
import AppDeploy.Config.Decode
import AppDeploy.Config.Discovery
import AppDeploy.Config.Encode
import AppDeploy.Config.Error
import AppDeploy.Config.Machines
import AppDeploy.Config.Validation
import AppDeploy.Console
import AppDeploy.ControlPlane.Client
import AppDeploy.ControlPlane.Error
import AppDeploy.ControlPlane.Order
import AppDeploy.ControlPlane.Progress
import AppDeploy.ControlPlane.Record
import AppDeploy.ControlPlane.Resource
import AppDeploy.Deploy.Acquisition
import AppDeploy.Deploy.Carried
import AppDeploy.Deploy.Course
import AppDeploy.Deploy.Error
import AppDeploy.Deploy.Releasing
import AppDeploy.Deploy.Resolution
import AppDeploy.Deploy.Rollout
import AppDeploy.Deploy.Selection
import AppDeploy.Deploy.Service
import AppDeploy.Deploy.Watch
import AppDeploy.FilePath
import AppDeploy.Files
import AppDeploy.Heartbeat
import AppDeploy.Http.Message
import AppDeploy.Http.Url
import AppDeploy.Ident
import AppDeploy.Image.BuildFile
import AppDeploy.Image.Builder
import AppDeploy.Image.Command
import AppDeploy.Image.Daemon
import AppDeploy.Image.Error
import AppDeploy.Image.Request
import AppDeploy.Image.Tag
import AppDeploy.Json.Basic
import AppDeploy.Json.Decode
import AppDeploy.Json.Document
import AppDeploy.Json.Literal
import AppDeploy.Json.Text
import AppDeploy.Main
import AppDeploy.Number.Binary64
import AppDeploy.Number.Shortest
import AppDeploy.Options
import AppDeploy.Outside
import AppDeploy.Plan
import AppDeploy.Platform
import AppDeploy.Proofs.Plan.Rewording
import AppDeploy.Proofs.Plan.Runs
import AppDeploy.Record.Fault
import AppDeploy.Record.Fields
import AppDeploy.Record.Source
import AppDeploy.Settings
import AppDeploy.Size
import AppDeploy.Table
import AppDeploy.Text.Blank
import AppDeploy.Text.Case
import AppDeploy.Text.Percent
import AppDeploy.Text.Quoted
import AppDeploy.Time.Span
import AppDeploy.Time.Timestamp
import AppDeploy.Yaml.Cursor
import AppDeploy.Yaml.Decode
import AppDeploy.Yaml.Lexer
import AppDeploy.Yaml.Node
import AppDeploy.Yaml.Plain
import AppDeploy.Yaml.Scalar
import AppDeploy.Yaml.Tag
import AppDeploy.Yaml.Token
import AppDeploy.Yaml.Tree
import AppDeploy.Proofs.Deploy.Stages
import AppDeploy.Proofs.Deploy.Course
import AppDeploy.Proofs.Deploy.Findings
import AppDeploy.Proofs.Deploy.CallOrder
import AppDeploy.Proofs.Assignment
import AppDeploy.Proofs.Config.Settled
import AppDeploy.Proofs.Deploy.Payload
import AppDeploy.Proofs.Deploy.FirstFailure
import AppDeploy.Proofs.Deploy.Watch
import AppDeploy.Proofs.Deploy.Polling
import AppDeploy.Proofs.ControlPlane.Client
import AppDeploy.Proofs.Deploy.Success
import AppDeploy.Proofs.Deploy.ErrorKind
import AppDeploy.Proofs.Plan.Lockstep
import AppDeploy.Proofs.Plan.Notes
import AppDeploy.Proofs.FilePath
import AppDeploy.Proofs.Image.CommandLine
import AppDeploy.Proofs.Image.Build
import AppDeploy.Proofs.Image.BuildFile
import AppDeploy.Proofs.Deploy.Indifference
import AppDeploy.Proofs.Deploy.IgnoredDockerfile
import AppDeploy.Proofs.Table
import AppDeploy.Proofs.Text.Digits
import AppDeploy.Proofs.Text.Trim
import AppDeploy.Proofs.Time.Span
import AppDeploy.Proofs.Time.Timestamp
import AppDeploy.Proofs.Record.Reading
import AppDeploy.Proofs.Config.RoundTrip
import AppDeploy.Proofs.Config.Stored
import AppDeploy.Proofs.ControlPlane.RoundTrip
import AppDeploy.Proofs.Deploy.Redeploy
import AppDeploy.Proofs.Plan.Within
import AppDeploy.Proofs.Deploy.Posts
import AppDeploy.Proofs.Deploy.Detach
import AppDeploy.Proofs.Deploy.Parts
import AppDeploy.Proofs.Deploy.CutShort
import AppDeploy.Proofs.Deploy.Secrets
import AppDeploy.Proofs.Deploy.Overrides
import AppDeploy.Proofs.Settings
import AppDeploy.Proofs.Deploy.Schedule
import AppDeploy.Proofs.Deploy.Timely
import AppDeploy.Proofs.Deploy.OutputModes
import AppDeploy.Proofs.Assignment.Spelling
import AppDeploy.Proofs.Config.Validity
import AppDeploy.Proofs.Deploy.Resolution
import AppDeploy.Proofs.Json.Text
import AppDeploy.Proofs.Plan.Voiced
import AppDeploy.Proofs.Deploy.EffectiveRelease
import AppDeploy.Proofs.Deploy.ImageRequest
import AppDeploy.Proofs.Image.Publication
import AppDeploy.Proofs.Image.Reference
import AppDeploy.Proofs.FilePath.NormalForm
import AppDeploy.Proofs.Image.Anchoring
import AppDeploy.Proofs.Deploy.DockerfileRemark
import AppDeploy.Proofs.Image.CommandIdentity
import AppDeploy.Proofs.Image.SecretBinding
import AppDeploy.Proofs.Assignment.LastWins
import AppDeploy.Proofs.Config.Machines
import AppDeploy.Proofs.Config.Routing
import AppDeploy.Proofs.AppName
import AppDeploy.Proofs.Deploy.Bounds
import AppDeploy.Proofs.Deploy.AppScope
import AppDeploy.Proofs.CommandLine.Checks
import AppDeploy.Proofs.CommandLine.Launch
import AppDeploy.Proofs.Text.Percent
import AppDeploy.Proofs.ControlPlane.Resource
import AppDeploy.Proofs.FilePath.Components
import AppDeploy.Proofs.Image.AbsolutePath
import AppDeploy.Proofs.AppName.Label
import AppDeploy.Proofs.Number.Rounding
import AppDeploy.Proofs.Size.Quantity
import AppDeploy.Proofs.Size.Doubles
import AppDeploy.Proofs.Heartbeat.Step
import AppDeploy.Proofs.Heartbeat.History
import AppDeploy.Proofs.Heartbeat.Release
