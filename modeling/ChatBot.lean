import ChatBot.Platform.Memory
import ChatBot.Platform.Scripted
import ChatBot.Main
import ChatBot.Wire
import ChatBot.Proofs.Cache.Recency
import ChatBot.Proofs.Dispatch.Calls
import ChatBot.Proofs.Dispatch.Steps
import ChatBot.Proofs.Dispatch.Ledger
import ChatBot.Proofs.Loop.Dispatched
import ChatBot.Proofs.Session.Maintained
import ChatBot.Proofs.Session.Correlation
import ChatBot.Proofs.Dispatch.Chat
import ChatBot.Proofs.Dispatch.Mirror
import ChatBot.Proofs.Dispatch.Retention
import ChatBot.Proofs.Loop.Ignored
import ChatBot.Proofs.Loop.Endings
import ChatBot.Proofs.Session.Course
import ChatBot.Proofs.Session.Ending
import ChatBot.Proofs.Session.Identity
import ChatBot.Proofs.Cache.KnownUsers
import ChatBot.Proofs.Dispatch.Attendance
import ChatBot.Proofs.Session.Sources
import ChatBot.Proofs.Session.Independence
import ChatBot.Proofs.Dispatch.Answers
import ChatBot.Proofs.Dispatch.Wording
import ChatBot.Proofs.Session.Abreast
import ChatBot.Proofs.Session.Metadata
import ChatBot.Proofs.Dispatch.Composition
import ChatBot.Proofs.Session.Revisions
import ChatBot.Proofs.Dispatch.Threads
import ChatBot.Proofs.Session.Stages
import ChatBot.Proofs.Session.Threads
import ChatBot.Proofs.Dispatch.Reports
import ChatBot.Proofs.Session.Reports
import ChatBot.Proofs.Json.RoundTrip
import ChatBot.Proofs.Json.Record
import ChatBot.Proofs.Wire.Events
import ChatBot.Proofs.Wire.MemberOrder
import ChatBot.Proofs.Cache.UserLookups
import ChatBot.Proofs.Session.Lockstep
import ChatBot.Proofs.Session.UserCaches
import ChatBot.Proofs.Table.Lookup
import ChatBot.Proofs.Json.Overlay
import ChatBot.Proofs.Toml.Keys
import ChatBot.Proofs.Config.Variables
import ChatBot.Proofs.Config.Filters
import ChatBot.Proofs.Config.Layers
import ChatBot.Proofs.Json.Parts
import ChatBot.Proofs.Config.Reading
import ChatBot.Proofs.Config.Merges
import ChatBot.Proofs.Json.Sorted
import ChatBot.Proofs.Wire.Values
import ChatBot.Proofs.Dispatch.Requests
import ChatBot.Proofs.Cache.Replacement
import ChatBot.Proofs.Dispatch.Edits
import ChatBot.Proofs.Dispatch.Deletions
import ChatBot.Proofs.Cache.History
import ChatBot.Proofs.Config.Rules
import ChatBot.Proofs.Session.Capacities
import ChatBot.Proofs.Cache.Inclusion
import ChatBot.Proofs.Text.Trimming
import ChatBot.Proofs.Message.Envelopes
import ChatBot.Proofs.Session.Spoken
import ChatBot.Proofs.Scheduler.Timing
import ChatBot.Proofs.Scheduler.Shutdown
import ChatBot.Proofs.Help.Listing
import ChatBot.Proofs.Help.Requests
import ChatBot.Proofs.Text.Numerals
import ChatBot.Proofs.Schedule.Texts
import ChatBot.Proofs.Registry.Registration
import ChatBot.Proofs.Platform.Records
import ChatBot.Proofs.Session.Performed
import ChatBot.Proofs.Console.Clock
import ChatBot.Proofs.Console.Turns
import ChatBot.Proofs.Console.Reading
import ChatBot.Proofs.Console.Stamps
