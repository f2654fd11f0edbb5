import Switchboard.Main
import Switchboard.Sample.Inventory
import Switchboard.Sample.Session
import Switchboard.Proofs.Route.Shape
import Switchboard.Proofs.Catalogue.Validity
import Switchboard.Proofs.Catalogue.Collision
import Switchboard.Proofs.Catalogue.Acceptance
import Switchboard.Proofs.Catalogue.Grouping
import Switchboard.Proofs.Dispatch.Registry
import Switchboard.Proofs.Dispatch.Services
import Switchboard.Proofs.Dispatch.Turns
import Switchboard.Proofs.Dispatch.Resolution
import Switchboard.Proofs.Dispatch.Ending
import Switchboard.Proofs.Dispatch.Arena
import Switchboard.Proofs.Dispatch.Mirror
import Switchboard.Proofs.Dispatch.Ledger
import Switchboard.Proofs.Dispatch.Isolation
import Switchboard.Proofs.Service.Assembly
import Switchboard.Proofs.Http.Places
import Switchboard.Proofs.Service.Answering
import Switchboard.Proofs.Service.Routing
import Switchboard.Proofs.Catalogue.Rearrangement
import Switchboard.Proofs.Route.Joining
import Switchboard.Proofs.Catalogue.Prefix
import Switchboard.Proofs.Service.Faults
import Switchboard.Proofs.Service.Handling
import Switchboard.Proofs.Service.Authorization
import Switchboard.Proofs.Endpoint.Spelling
import Switchboard.Proofs.Service.PathParameters
import Switchboard.Proofs.Service.Mounting
import Switchboard.Proofs.Catalogue.Arguments
import Switchboard.Proofs.Catalogue.Writing
import Switchboard.Proofs.Manifest
import Switchboard.Proofs.CommandLine
import Switchboard.Proofs.Catalogue.RequestParameter
import Switchboard.Proofs.Catalogue.Report
import Switchboard.Proofs.Catalogue.Clash
import Switchboard.Proofs.Catalogue.Finding
import Switchboard.Proofs.Route.NormalForm
import Switchboard.Proofs.Service.Capturing
import Switchboard.Proofs.Service.Filling
import Switchboard.Proofs.Catalogue.ResultType
import Switchboard.Proofs.Route.Slashes
import Switchboard.Proofs.Text.Kebab
import Switchboard.Proofs.Catalogue.Location
import Switchboard.Proofs.Dispatch.Registration
import Switchboard.Proofs.Settings.Layering
import Switchboard.Proofs.Settings.Variable
import Switchboard.Proofs.Configuration.Sources
import Switchboard.Proofs.Configuration.Texts
import Switchboard.Proofs.Service.Agreement
