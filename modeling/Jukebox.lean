import Jukebox.Main
import Jukebox.Pool
import Jukebox.Settings.Crowd
import Jukebox.Station.Audience
import Jukebox.StatusLine
import Jukebox.Proofs.Session.Run
import Jukebox.Proofs.Session.Loading
import Jukebox.Proofs.Session.Coherence
import Jukebox.Proofs.Table
import Jukebox.Proofs.Vote.Count
import Jukebox.Proofs.VoteDesk.Pending
import Jukebox.Proofs.VoteDesk.Ledger
import Jukebox.Proofs.VoteDesk.Resolution
import Jukebox.Proofs.VoteDesk.Standing
import Jukebox.Proofs.Session.Frame
import Jukebox.Proofs.Registry.Grounded
import Jukebox.Proofs.Station.Run
import Jukebox.Proofs.Station.Grounded
import Jukebox.Proofs.VoteDesk.Poll
import Jukebox.Proofs.Station.Apply
import Jukebox.Proofs.Station.Move
import Jukebox.Proofs.Station.Gauges
import Jukebox.Proofs.Station.Action
import Jukebox.Proofs.Station.Succession
import Jukebox.Proofs.Station.Origin
import Jukebox.Proofs.Session.Conservation
import Jukebox.Proofs.Session.Passage
import Jukebox.Proofs.Session.Transport
import Jukebox.Proofs.Session.Listener
import Jukebox.Proofs.Error
import Jukebox.Proofs.Settings.Bounds
import Jukebox.Proofs.Settings.Cache
import Jukebox.Proofs.Config
import Jukebox.Proofs.Session.Declined
import Jukebox.Proofs.Command.Plan
import Jukebox.Proofs.Station.Steady
import Jukebox.Proofs.Station.Schedule
import Jukebox.Proofs.Station.Service
import Jukebox.Proofs.Station.Refusal
import Jukebox.Proofs.Settings.Crowd
import Jukebox.Proofs.Settings.Shelf
import Jukebox.Proofs.Settings.Faithful
import Jukebox.Proofs.Station.Terms
import Jukebox.Proofs.Session.Addressed
import Jukebox.Proofs.Presence
import Jukebox.Proofs.Station.Confined
import Jukebox.Proofs.Session.Others
import Jukebox.Proofs.Station.Ordinary
import Jukebox.Proofs.Station.Warm
import Jukebox.Proofs.Registry.Eviction
import Jukebox.Proofs.Station.Sweep
import Jukebox.Proofs.Session.Advance
import Jukebox.Proofs.Station.Usable
import Jukebox.Proofs.Registry.Slots
import Jukebox.Proofs.Registry.Answer
import Jukebox.Proofs.Registry.Roster
import Jukebox.Proofs.VoteDesk.Deadline
import Jukebox.Proofs.VoteDesk.Timers
import Jukebox.Proofs.Session.Activity
import Jukebox.Proofs.Session.Receipt
import Jukebox.Proofs.Session.Capacity
import Jukebox.Proofs.Session.Rotation
import Jukebox.Proofs.Queue.Positions
import Jukebox.Proofs.Queue.Run
import Jukebox.Proofs.Queue.Total
import Jukebox.Proofs.Queue.Pages
import Jukebox.Proofs.Text.Numeral
import Jukebox.Proofs.Station.Pages
import Jukebox.Proofs.Settings.Row
import Jukebox.Proofs.Settings.Shown
import Jukebox.Proofs.Command.Ratio
import Jukebox.Proofs.Session.Renumbered
import Jukebox.Proofs.VoteDesk.Renumbered
import Jukebox.Proofs.Station.Mirrored
import Jukebox.Proofs.Station.Renumbered
import Jukebox.Proofs.Station.Removal
import Jukebox.Proofs.Pool.Schedule
import Jukebox.Proofs.Pool.Permits
import Jukebox.Proofs.Text.Decimal
import Jukebox.Proofs.Text.Words
import Jukebox.Proofs.Command.Line
import Jukebox.Proofs.Text.Trim
import Jukebox.Proofs.Config.Reading
import Jukebox.Proofs.Document.Form
import Jukebox.Proofs.Document.Faithful
