import Calld.Effect.Program
import Calld.Effect.Rules
import Calld.Effect.Observed
import Calld.Effect.Machine
import Calld.Transfers.Transfer
import Calld.Transfers.System
import Calld.Transfers.Storage
import Calld.Transfers.AriHelpers
import Calld.Transfers.State
import Calld.Transfers.Services
import Calld.Transfers.Stasis
import Calld.Transfers.Quiet
import Calld.Transfers.Life
import Calld.Transfers.Outcome
import Calld.Transfers.Memory
import Calld.Transfers.Refinement
import Calld.Transfers.Graph
import Calld.Transfers.Handlers
import Calld.Transfers.Calls
import Calld.Transfers.Creation
import Calld.Transfers.Run
import Calld.Transfers.Exclusivity
import Calld.Transfers.Simulation
import Calld.Transfers.Announcements
import Calld.Transfers.AllOrNothing
import Calld.Transfers.Routing
import Calld.Transfers.Totality
import Calld.Transfers.Hangups
import Calld.Transfers.Recovery
import Calld.Transfers.Repeats
import Calld.Transfers.StateLock
import Calld.Transfers.Races
import Calld.Transfers.Losses
import Calld.Transfers.InitiatorLoss
import Calld.Transfers.JsonText
import Calld.Transfers.Dialplan
import Calld.Transfers.GlobalVariables
import Calld.Transfers.Persistor
import Calld.Transfers.Moving
import Calld.Transfers.EarlyCompletion
import Calld.Calls.Recording
import Calld.Calls.RecordRequests
import Calld.Calls.RecordMachine
import Calld.Effect.Dict
import Calld.Effect.Changes
import Calld.DialMobile.Service
import Calld.DialMobile.Handlers
import Calld.DialMobile.Machine
import Calld.DialMobile.Sections
import Calld.DialMobile.Registries
import Calld.DialMobile.Dials
import Calld.DialMobile.Closing
import Calld.DialMobile.Legs
import Calld.DialMobile.Teardown
import Calld.DialMobile.Pushes
import Calld.DialMobile.Timers
import Calld.DialMobile.Fallbacks
import Calld.DialMobile.ContactDialer
import Calld.DialMobile.Contacts
import Calld.DialMobile.Ringing
import Calld.DialMobile.Refusals
import Calld.Effect.Moves
import Calld.Relocates.Relocate
import Calld.Relocates.Service
import Calld.Relocates.Steps
import Calld.Relocates.Sound
import Calld.Relocates.Endings
import Calld.Relocates.Starts
import Calld.Relocates.Methods
import Calld.Relocates.Completions
import Calld.Relocates.Channels
import Calld.Relocates.Recipients
import Calld.Ari.CoreAri
import Calld.Ari.Caching
import Calld.Ari.Eviction
import Calld.Ari.Channel
import Calld.Ari.Snapshots
import Calld.Ari.GlobalVariables
import Calld.Calls.Serializers
import Calld.Calls.Stats
import Calld.Calls.StatBalance
import Calld.Effect.Timedelta
import Calld.Calls.Durations
import Calld.Calls.DialEcho
import Calld.Calls.Waiters
import Calld.Endpoints.ConfdCache
import Calld.Endpoints.TrunkIndexes
import Calld.Endpoints.EventHandler
import Calld.Effect.Assignments
import Calld.Endpoints.Loading
import Calld.Endpoints.Counting
import Calld.Endpoints.Tracking
import Calld.Endpoints.StatusEvents
import Calld.Effect.Interactive
import Calld.Switchboards.ConfdClientCache
import Calld.Switchboards.Services
import Calld.Switchboards.Machine
import Calld.Switchboards.Phases
import Calld.Switchboards.Answering
import Calld.Switchboards.Operators
import Calld.Switchboards.Fallbacks
import Calld.Switchboards.Delays
import Calld.Effect.Diffs
import Calld.Voicemails.Storage
import Calld.Voicemails.InfoParser
import Calld.Voicemails.Cache
import Calld.Voicemails.Replay
import Calld.Voicemails.BusConsume
import Calld.Voicemails.Notified
import Calld.Voicemails.Listing
import Calld.Voicemails.Windows
import Calld.Voicemails.Services
import Calld.Voicemails.Pages
import Calld.Parkings.Cache
import Calld.Parkings.Lookups
import Calld.Parkings.Negative
import Calld.Parkings.Invalidation
import Calld.Parkings.Services
import Calld.Parkings.Full
import Calld.Parkings.Removals
import Calld.Parkings.Listing
import Calld.Applications.Services
import Calld.Applications.Caches
import Calld.Applications.Nodes
import Calld.Effect.Dialogues
import Calld.Applications.Snoops
import Calld.Applications.SnoopChanges
import Calld.Applications.Variables
import Calld.Effect.Sorting
import Calld.Effect.Texts
import Calld.Effect.Binary64
import Calld.AdhocConferences.Services
import Calld.AdhocConferences.Reports
import Calld.AdhocConferences.Creation
import Calld.AdhocConferences.Operations
import Calld.AdhocConferences.Arrivals
import Calld.AdhocConferences.Stasis
import Calld.AdhocConferences.Departures
import Calld.Effect.Runs
import Calld.Voicemails.Messages
import Calld.Voicemails.Told
