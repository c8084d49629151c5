import Warden.Access.Backends
import Warden.Access.Claims
import Warden.Access.Error
import Warden.Access.Gateway
import Warden.Access.Input
import Warden.Access.Login
import Warden.Access.Operation
import Warden.Access.Policy
import Warden.Access.Profiles
import Warden.Access.Settings
import Warden.Access.WebKey
import Warden.Account.Field
import Warden.Account.Page
import Warden.Account.Role
import Warden.Account.Secret
import Warden.Account.Session
import Warden.Account.User
import Warden.Cli.Grammar
import Warden.Cli.Help
import Warden.Cli.Parse
import Warden.Cli.Program
import Warden.Cli.Run
import Warden.Host.Files
import Warden.Json.Decode
import Warden.Json.Error
import Warden.Json.Reader
import Warden.Json.Value
import Warden.Main
import Warden.Model.Catalog
import Warden.Model.Provider
import Warden.Proofs.Run
import Warden.Number.Binary64
import Warden.Number.Shortest
import Warden.Relaxed.Decode
import Warden.Relaxed.Grammar
import Warden.Relaxed.Message
import Warden.Settings.Config
import Warden.Settings.Files
import Warden.Settings.Load
import Warden.Simulation.Fakes
import Warden.Simulation.Faults
import Warden.Simulation.Report
import Warden.Simulation.Scenario
import Warden.Simulation.Workspace
import Warden.Simulation.World
import Warden.Store.Open
import Warden.Store.Sessions
import Warden.Store.Tree
import Warden.Store.TreeFile
import Warden.Store.Users
import Warden.Text.Base64
import Warden.Text.Blank
import Warden.Text.CaseData
import Warden.Text.Lower
import Warden.Text.NameData
import Warden.Text.PrintData
import Warden.Text.Quoted
import Warden.Text.Similarity
import Warden.Text.Table
import Warden.Text.Utf8
import Warden.Time.Duration
import Warden.Time.Timestamp
import Warden.Proofs.Policy
import Warden.Proofs.Frame
import Warden.Proofs.Guarded
import Warden.Proofs.SignIn
import Warden.Proofs.Directory
import Warden.Proofs.FailedSignIn
import Warden.Proofs.Roles
import Warden.Proofs.Grants
import Warden.Proofs.SessionStores
import Warden.Proofs.Utf8
import Warden.Proofs.JsonRead
import Warden.Proofs.JsonRecords
import Warden.Proofs.SessionRecords
import Warden.Proofs.UserHistory
import Warden.Proofs.Owners
import Warden.Proofs.RoleAssignment
import Warden.Proofs.DeadlineRace
import Warden.Proofs.SessionLifetime
import Warden.Proofs.Calendar
import Warden.Proofs.UserRecords
import Warden.Proofs.DurableDirectory
import Warden.Proofs.UserListing
import Warden.Proofs.OwnProfile
import Warden.Proofs.CatalogAdmin
import Warden.Proofs.Base64Url
import Warden.Proofs.Rounding
import Warden.Proofs.ShortestDigits
import Warden.Proofs.NumberText
import Warden.Proofs.FloatText
import Warden.Proofs.JsonValues
import Warden.Proofs.TokenClaims
import Warden.Proofs.StoredRecords
import Warden.Proofs.AsciiCase
import Warden.Proofs.LenientNames
import Warden.Proofs.RelaxedSteps
import Warden.Proofs.RelaxedPretty
import Warden.Proofs.ExactIntegers
import Warden.Proofs.ConfigRoundTrip
import Warden.Proofs.RelaxedRefusal
import Warden.Proofs.LowercaseStable
import Warden.Proofs.AdminAddresses
