import ScriptedChat.Bot.Basic
import ScriptedChat.Bot.Loop
import ScriptedChat.Calendar.Date
import ScriptedChat.Calendar.Layout
import ScriptedChat.Calendar.Zone
import ScriptedChat.Chat.Basic
import ScriptedChat.Chat.Menu
import ScriptedChat.Chat.Play
import ScriptedChat.Chat.World
import ScriptedChat.Clock
import ScriptedChat.Console.Arguments
import ScriptedChat.Console.Environment
import ScriptedChat.Console.Help
import ScriptedChat.Console.LogFilter
import ScriptedChat.Console.Overview
import ScriptedChat.Console.Program
import ScriptedChat.Console.Report
import ScriptedChat.Console.Service
import ScriptedChat.Console.Settings
import ScriptedChat.Decimal.Shortest
import ScriptedChat.Disk
import ScriptedChat.Duration
import ScriptedChat.Json.Basic
import ScriptedChat.Json.Decode
import ScriptedChat.Json.Diagnosis
import ScriptedChat.Json.Reader
import ScriptedChat.Json.Token
import ScriptedChat.Json.Writer
import ScriptedChat.Keyed
import ScriptedChat.Main
import ScriptedChat.Proofs.Action
import ScriptedChat.Proofs.Bot.Acting
import ScriptedChat.Proofs.Bot.Beside
import ScriptedChat.Proofs.Bot.Closing
import ScriptedChat.Proofs.Bot.Dealing
import ScriptedChat.Proofs.Bot.Deeds
import ScriptedChat.Proofs.Bot.Deliveries
import ScriptedChat.Proofs.Bot.Ending
import ScriptedChat.Proofs.Bot.Failures
import ScriptedChat.Proofs.Bot.FirstContact
import ScriptedChat.Proofs.Bot.Forgery
import ScriptedChat.Proofs.Bot.History
import ScriptedChat.Proofs.Bot.InStep
import ScriptedChat.Proofs.Bot.Isolation
import ScriptedChat.Proofs.Bot.Journal
import ScriptedChat.Proofs.Bot.Keyboard
import ScriptedChat.Proofs.Bot.Ledger
import ScriptedChat.Proofs.Bot.Life
import ScriptedChat.Proofs.Bot.Midway
import ScriptedChat.Proofs.Bot.Minding
import ScriptedChat.Proofs.Bot.Mirroring
import ScriptedChat.Proofs.Bot.Moments
import ScriptedChat.Proofs.Bot.Phases
import ScriptedChat.Proofs.Bot.Reachability
import ScriptedChat.Proofs.Bot.Referral
import ScriptedChat.Proofs.Bot.Replay
import ScriptedChat.Proofs.Bot.Restart
import ScriptedChat.Proofs.Bot.Saving
import ScriptedChat.Proofs.Bot.Single
import ScriptedChat.Proofs.Bot.Speech
import ScriptedChat.Proofs.Bot.Start
import ScriptedChat.Proofs.Bot.Stranded
import ScriptedChat.Proofs.Bot.Tickets
import ScriptedChat.Proofs.Bot.Turn
import ScriptedChat.Proofs.Bot.Working
import ScriptedChat.Proofs.Calendar.Writing
import ScriptedChat.Proofs.Chat.Course
import ScriptedChat.Proofs.Chat.Failing
import ScriptedChat.Proofs.Chat.Following
import ScriptedChat.Proofs.Chat.Going
import ScriptedChat.Proofs.Chat.Logging
import ScriptedChat.Proofs.Chat.Pairs
import ScriptedChat.Proofs.Chat.Refusals
import ScriptedChat.Proofs.Chat.Timers
import ScriptedChat.Proofs.Countdown
import ScriptedChat.Proofs.Disk.Branch
import ScriptedChat.Proofs.Disk.Change
import ScriptedChat.Proofs.Disk.Names
import ScriptedChat.Proofs.Disk.Outcome
import ScriptedChat.Proofs.Disk.Tree
import ScriptedChat.Proofs.Duration
import ScriptedChat.Proofs.InTurn
import ScriptedChat.Proofs.Json.OneLine
import ScriptedChat.Proofs.Json.RoundTrip
import ScriptedChat.Proofs.Json.Scan
import ScriptedChat.Proofs.Keyed
import ScriptedChat.Proofs.Remaining
import ScriptedChat.Proofs.Scenario.Block
import ScriptedChat.Proofs.Scenario.Entry
import ScriptedChat.Proofs.Scenario.Faults
import ScriptedChat.Proofs.Scenario.LineEnds
import ScriptedChat.Proofs.Scenario.Lookup
import ScriptedChat.Proofs.Scenario.ReadBack
import ScriptedChat.Proofs.Scenario.Replacing
import ScriptedChat.Proofs.Scenario.WellFormed
import ScriptedChat.Proofs.Schedule
import ScriptedChat.Proofs.Stopwatch
import ScriptedChat.Proofs.Store.Branch
import ScriptedChat.Proofs.Store.Cutoff
import ScriptedChat.Proofs.Store.Keeping
import ScriptedChat.Proofs.Store.Logs
import ScriptedChat.Proofs.Store.Reading
import ScriptedChat.Proofs.Store.RecordText
import ScriptedChat.Proofs.Store.Shapes
import ScriptedChat.Proofs.Store.Table
import ScriptedChat.Proofs.Telegram.ChatNames
import ScriptedChat.Proofs.Telegram.Forwarding
import ScriptedChat.Proofs.Telegram.Polling
import ScriptedChat.Proofs.Telegram.Secrecy
import ScriptedChat.Proofs.Text.Cut
import ScriptedChat.Proofs.Text.LineEnds
import ScriptedChat.Proofs.Text.Trim
import ScriptedChat.Scenario.Basic
import ScriptedChat.Scenario.Parser
import ScriptedChat.Schedule
import ScriptedChat.Stopwatch
import ScriptedChat.Store.Basic
import ScriptedChat.Store.Record
import ScriptedChat.Telegram.Client
import ScriptedChat.Telegram.Poller
import ScriptedChat.Telegram.Script
import ScriptedChat.Telegram.Update
import ScriptedChat.Text.Alphanumeric
import ScriptedChat.Text.Blank
import ScriptedChat.Text.Invisible
import ScriptedChat.Text.Quoted
import ScriptedChat.Text.Ranges
import ScriptedChat.Text.Split
import ScriptedChat.Toml.DateTable
import ScriptedChat.Toml.Document
import ScriptedChat.Toml.Scalar
import ScriptedChat.Toml.Table
import ScriptedChat.Transport.Basic
import ScriptedChat.Transport.Refusing
