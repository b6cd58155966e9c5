import Entitlement.Host.Script
import Entitlement.Host.Shell
import Entitlement.Main
import Entitlement.Registration.Script
import Entitlement.Proofs.Registration.Runs
import Entitlement.Proofs.Product.Tree
import Entitlement.Proofs.Registration.Services
import Entitlement.Proofs.Registration.Rollback
import Entitlement.Proofs.Registration.Migration
import Entitlement.Proofs.Registration.MigrationCourse
import Entitlement.Proofs.Registration.Restoration
import Entitlement.Proofs.Registration.Deregister
import Entitlement.Proofs.Loops
import Entitlement.Proofs.Product.Walk
import Entitlement.Proofs.Product.Occurrences
import Entitlement.Proofs.Registration.Failures
import Entitlement.Proofs.Registration.Turns
import Entitlement.Proofs.Registration.Upgrades
import Entitlement.Proofs.Registration.Cleanup
import Entitlement.Proofs.Registration.Departure
import Entitlement.Proofs.Registration.DepartureOrder
import Entitlement.Proofs.Registration.Activation
import Entitlement.Proofs.Registration.ActivationOrder
import Entitlement.Proofs.Registration.Introduction
import Entitlement.Proofs.Registration.RegisterOrder
import Entitlement.Proofs.Registration.Repetition
import Entitlement.Proofs.Credentials.File
import Entitlement.Proofs.Text.Utf8
import Entitlement.Proofs.Host.FileSystem
import Entitlement.Proofs.Credentials.Store
import Entitlement.Proofs.Server.Token
import Entitlement.Proofs.Server.Session
import Entitlement.Proofs.Registration.Operations
import Entitlement.Proofs.Registration.Holdings
import Entitlement.Proofs.Registration.SharedService
import Entitlement.Proofs.Registration.Causes
import Entitlement.Proofs.Registration.Guards
import Entitlement.Proofs.Host.Elsewhere
import Entitlement.Proofs.Credentials.Writing
import Entitlement.Proofs.Credentials.Separation
import Entitlement.Proofs.Credentials.Keyring
import Entitlement.Proofs.Credentials.Registry
import Entitlement.Proofs.Toml.Quotation
import Entitlement.Proofs.Settings.Rendering
import Entitlement.Proofs.Server.Sending
import Entitlement.Proofs.Registration.Announcement
import Entitlement.Proofs.Product.Arrangement
import Entitlement.Proofs.Registration.Planning
import Entitlement.Proofs.CommandLine.Choice
import Entitlement.Proofs.CommandLine.Desk
import Entitlement.Proofs.CommandLine.ExitCode
import Entitlement.Proofs.Host.Discretion
import Entitlement.Proofs.CommandLine.Conduct
import Entitlement.Proofs.CommandLine.Persistence
import Entitlement.Proofs.CommandLine.Listing
import Entitlement.Proofs.CommandLine.Selection
import Entitlement.Proofs.Json.Nodes
import Entitlement.Proofs.Json.RoundTrip
import Entitlement.Proofs.Product.Documents
import Entitlement.Proofs.Product.RoundTrip
import Entitlement.Proofs.Product.Pass
import Entitlement.Proofs.Product.Tour
import Entitlement.Proofs.Registration.Views
import Entitlement.Proofs.CommandLine.Extensions
import Entitlement.Proofs.Registration.Clearance
import Entitlement.Proofs.Edition.Order
import Entitlement.Proofs.Edition.Numerals
import Entitlement.Proofs.Registration.Weeding
import Entitlement.Proofs.Registration.Sparing
import Entitlement.Proofs.Registration.Synchronization
import Entitlement.Proofs.Registration.Release
import Entitlement.Proofs.Credentials.RoundTrip
import Entitlement.Proofs.Json.Values
import Entitlement.Proofs.Text.Base64
import Entitlement.Proofs.Credentials.RegistryEdits
import Entitlement.Proofs.Packages.Discipline
import Entitlement.Proofs.Json.Fields
import Entitlement.Proofs.Product.Omissions
import Entitlement.Proofs.Server.Refusal
import Entitlement.Proofs.Text.Occurrences
import Entitlement.Proofs.CommandLine.FailureLine
import Entitlement.Proofs.Product.Sorting
import Entitlement.Proofs.Product.Identity
