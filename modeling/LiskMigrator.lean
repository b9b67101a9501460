import LiskMigrator.Library.Sorting
import LiskMigrator.Library.PrefixCode
import LiskMigrator.Library.Paging
import LiskMigrator.Library.Collections
import LiskMigrator.Library.Keyed
import LiskMigrator.Constants
import LiskMigrator.Types
import LiskMigrator.Library.Latin1
import LiskMigrator.Packages
import LiskMigrator.Utils.Block
import LiskMigrator.Assets.Auth
import LiskMigrator.Assets.Interoperability
import LiskMigrator.Assets.Legacy
import LiskMigrator.Assets.Pos
import LiskMigrator.Assets.Token
import LiskMigrator.CreateAsset
import LiskMigrator.Snapshot
import LiskMigrator.Pipeline
import LiskMigrator.Tables
import LiskMigrator.Stores
import LiskMigrator.Supply
import LiskMigrator.Staking
import LiskMigrator.InitValidators
import LiskMigrator.KeyScan
import LiskMigrator.ValidatorKeys
import LiskMigrator.History
import LiskMigrator.RecordOrder
import LiskMigrator.Library.Words
import LiskMigrator.Utils.StartFlags
import LiskMigrator.FlagTable
import LiskMigrator.Library.Runs
import LiskMigrator.Library.Json
import LiskMigrator.Utils.Config
import LiskMigrator.Utils.TarBall
import LiskMigrator.Extraction
import LiskMigrator.ConfigMigration
import LiskMigrator.Library.Interaction
import LiskMigrator.Utils.Exception
import LiskMigrator.Utils.Path
import LiskMigrator.Requests
import LiskMigrator.Utils.Network
import LiskMigrator.Utils.GenesisBlock
import LiskMigrator.Utils.Commands
import LiskMigrator.Utils.Download
import LiskMigrator.Utils.Files
import LiskMigrator.Utils.Node
import LiskMigrator.Run
import LiskMigrator.Milestones
import LiskMigrator.Recovery
import LiskMigrator.RecoveryCommands
import LiskMigrator.FailureReport
import LiskMigrator.RoundBoundary
import LiskMigrator.StartCommand
import LiskMigrator.AutoStart
import LiskMigrator.Library.FileTree
import LiskMigrator.Disk
import LiskMigrator.ManualRecovery
import LiskMigrator.LockedBalances
import LiskMigrator.Library.Numerals
import LiskMigrator.Increment
import LiskMigrator.KeyOrder
import LiskMigrator.AccountContents
import LiskMigrator.Utils.ChainHeight
import LiskMigrator.ChainObservation
import LiskMigrator.DirectoryCopy
import LiskMigrator.OutputPath
import LiskMigrator.Library.Monitor
import LiskMigrator.Protocol
import LiskMigrator.ProtocolRun
import LiskMigrator.RunOrder
import LiskMigrator.Provenance
import LiskMigrator.Checksums
import LiskMigrator.Confinement
import LiskMigrator.Events
import LiskMigrator.ForgingCapture
import LiskMigrator.ForgingCommands
import LiskMigrator.PageSize
import LiskMigrator.Lossless
import LiskMigrator.NodeClients
import LiskMigrator.Transfers
import LiskMigrator.ComposedCommands
