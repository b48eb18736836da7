import PackageRelease.Files.Tree
import PackageRelease.Main
import PackageRelease.Run.Series
import PackageRelease.Proofs.Settings
import PackageRelease.Proofs.Artifact
import PackageRelease.Proofs.Text.Charset
import PackageRelease.Proofs.Service.Conversation
import PackageRelease.Proofs.Service.Publish
import PackageRelease.Proofs.Upload
import PackageRelease.Proofs.Run.Ways
import PackageRelease.Proofs.Run.Success
import PackageRelease.Proofs.Run.Path
import PackageRelease.Proofs.Run.Attribution
import PackageRelease.Proofs.Run.Trace
import PackageRelease.Proofs.Run.Effects
import PackageRelease.Proofs.Run.Composition
import PackageRelease.Proofs.Coordinates.Filename
import PackageRelease.Proofs.Run.Resemblance
import PackageRelease.Proofs.Secrecy.Password
import PackageRelease.Proofs.Secrecy.Token
import PackageRelease.Proofs.Text.Base64
import PackageRelease.Proofs.Text.Blank
import PackageRelease.Proofs.Service.Classification
import PackageRelease.Proofs.Service.Request
import PackageRelease.Proofs.Json.Record
import PackageRelease.Proofs.Coordinates.Payload
import PackageRelease.Proofs.Run.Publication
import PackageRelease.Proofs.Artifact.ListingOrder
import PackageRelease.Proofs.Upload.Destination
import PackageRelease.Proofs.CommandLine.Inspect
import PackageRelease.Proofs.Run.Isolation
import PackageRelease.Proofs.Text.Replacement
import PackageRelease.Proofs.Secrecy.Masking
import PackageRelease.Proofs.Secrecy.Unstarted
import PackageRelease.Proofs.Run.Afresh
import PackageRelease.Proofs.Run.EmptyVariables
import PackageRelease.Proofs.Run.LostOutput
import PackageRelease.Proofs.Secrecy.Settings
import PackageRelease.Proofs.Service.Address
import PackageRelease.Proofs.Text.Occurrence
import PackageRelease.Proofs.Secrecy.Arguments
import PackageRelease.Proofs.Secrecy.Exactness
import PackageRelease.Proofs.Text.Interchange
import PackageRelease.Proofs.Secrecy.Order
import PackageRelease.Proofs.Json.Spelling
import PackageRelease.Proofs.Json.Rendering
import PackageRelease.Proofs.Json.Passing
import PackageRelease.Proofs.Json.Reading
import PackageRelease.Proofs.Json.Continuation
import PackageRelease.Proofs.Service.Acknowledgement
