import VyosFabric.Review.Agreement
import VyosFabric.Review.Snapshots
import VyosFabric.Review.Restaging
import VyosFabric.Interaction.Serial
import VyosFabric.Review.History
import VyosFabric.Review.ErrorPaths
import VyosFabric.Client.Tray
import VyosFabric.Review.Operators
import VyosFabric.Diff.Entities
import VyosFabric.Model.LiveConfig
import VyosFabric.Diff.Regions
import VyosFabric.Interaction.Answers
import VyosFabric.Routes.Entities
import VyosFabric.Review.Sequences
import VyosFabric.Review.Superseding
import VyosFabric.Review.Convergence
import VyosFabric.Routes.Nat44
import VyosFabric.Client.NatForms
import VyosFabric.Client.Renumbering
import VyosFabric.Client.Fields
import VyosFabric.Diff.Parts
import VyosFabric.Client.Reopening
import VyosFabric.Client.Lifting
import VyosFabric.Review.Refreshing
import VyosFabric.Interaction.Contracts
import VyosFabric.Model.Fabric
import VyosFabric.Review.Footprints
import VyosFabric.Routes.Routers
import VyosFabric.Access.Keys
import VyosFabric.Access.Passwords
import VyosFabric.Access.Revocation
import VyosFabric.Access.Scopes
import VyosFabric.Access.Grants
import VyosFabric.Access.Views
import VyosFabric.Access.Isolation
import VyosFabric.Model.Shapes
import VyosFabric.PathTree.Effective
import VyosFabric.Diff.Settings
import VyosFabric.Routes.Partition
import VyosFabric.Routes.Readers
import VyosFabric.Diff.Readback
import VyosFabric.Diff.InterfaceSettings
import VyosFabric.Diff.RuleSettings
import VyosFabric.Diff.StaticSettings
import VyosFabric.Diff.GlobalSettings
import VyosFabric.Diff.SystemSettings
import VyosFabric.Diff.Checks
import VyosFabric.Review.Staged
import VyosFabric.Routes.Interfaces
import VyosFabric.Client.InterfaceForms
import VyosFabric.Client.VlanEditor
import VyosFabric.Client.Pages
import VyosFabric.Review.Moves
import VyosFabric.Review.Effects
import VyosFabric.Boxes.Placing
import VyosFabric.Boxes.FirstFit
import VyosFabric.Dashboard.Layout
import VyosFabric.Dashboard.Grid
import VyosFabric.Dashboard.Page
import VyosFabric.Dashboard.FreeCells
import VyosFabric.Tabular.Lines
import VyosFabric.Show.Interfaces
import VyosFabric.Show.Storage
import VyosFabric.Tabular.Runs
import VyosFabric.Tabular.FixedWidth
import VyosFabric.Show.Leases
import VyosFabric.Dashboard.DataTable
import VyosFabric.Dashboard.NetworkSpeed
import VyosFabric.Sorting.Arranging
import VyosFabric.Dashboard.ColumnLayout
import VyosFabric.Client.SiteRoutes
import VyosFabric.Review.Emission
import VyosFabric.Polling.Statuses
import VyosFabric.Interaction.Masking
import VyosFabric.Polling.Unseen
import VyosFabric.Pages.Listing
import VyosFabric.Pages.Dhcp
import VyosFabric.Interaction.LastWrite
import VyosFabric.Client.AccessEditor
import VyosFabric.Polling.Edits
import VyosFabric.Client.DeviceEditor
import VyosFabric.Dashboard.ColumnResize
import VyosFabric.Formats.Format
import VyosFabric.Pages.Leaves
import VyosFabric.Pages.Interfaces
import VyosFabric.Pages.Services
import VyosFabric.Access.Cookies
import VyosFabric.Pages.Nat
import VyosFabric.Show.SystemInfo
import VyosFabric.Interaction.Ledger
import VyosFabric.Review.Replay
