import Rulebook.Cache
import Rulebook.Cache.Call
import Rulebook.Distinct
import Rulebook.Driver
import Rulebook.Fields
import Rulebook.Json.Basic
import Rulebook.Json.Number
import Rulebook.Json.Printer
import Rulebook.Log.Event
import Rulebook.Log.Host
import Rulebook.Log.Level
import Rulebook.Log.Record
import Rulebook.Log.Reserved
import Rulebook.Log.Setup
import Rulebook.Problem
import Rulebook.Rule.Basic
import Rulebook.Rule.Normalize
import Rulebook.Rule.Task
import Rulebook.Rule.Text
import Rulebook.RuleSet
import Rulebook.Session.Registry
import Rulebook.Session.Step
import Rulebook.Session.Use
import Rulebook.Session.World
import Rulebook.Settings.Basic
import Rulebook.Settings.Entry
import Rulebook.Settings.File
import Rulebook.Settings.Host
import Rulebook.Spec
import Rulebook.Text.Blank
import Rulebook.Text.Digits
import Rulebook.Text.Hexadecimal
import Rulebook.Text.Printable
import Rulebook.Text.Quoted
import Rulebook.Text.UpperCase
import Rulebook.Time.Calendar
import Rulebook.Time.DateTime
import Rulebook.Time.Iso
import Rulebook.Time.Window
import Rulebook.Uuid
import Rulebook.Validation
import Rulebook.Word
import Rulebook.Proofs.Calendar
import Rulebook.Proofs.Clock
import Rulebook.Proofs.Activity
import Rulebook.Proofs.Outputs
import Rulebook.Proofs.Duplicates
import Rulebook.Proofs.MutualOutputs
import Rulebook.Proofs.Growth
import Rulebook.Proofs.History
import Rulebook.Proofs.Pass
import Rulebook.Proofs.Normalization
import Rulebook.Proofs.Settled
import Rulebook.Proofs.Retry
import Rulebook.Proofs.Task
import Rulebook.Proofs.Crew
import Rulebook.Proofs.Content
import Rulebook.Proofs.Session.Turns
import Rulebook.Proofs.Session.Rules
import Rulebook.Proofs.Session.Sharing
import Rulebook.Proofs.Selection
import Rulebook.Proofs.Acceptance
import Rulebook.Proofs.Weight
import Rulebook.Proofs.Log.Threshold
import Rulebook.Proofs.Milliseconds
import Rulebook.Proofs.EpochMillis
import Rulebook.Pool
import Rulebook.Proofs.Pool
import Rulebook.Proofs.Journal
import Rulebook.Proofs.Session.Course
import Rulebook.Proofs.Settings.SetUp
import Rulebook.Proofs.Text.Apart
import Rulebook.Proofs.Text.Quoted
import Rulebook.Proofs.Iso
import Rulebook.Proofs.Identifier
import Rulebook.Proofs.Written
import Rulebook.Proofs.Identity
import Rulebook.Proofs.Log.Refusal
import Rulebook.Log.Processor
import Rulebook.Proofs.Log.Record
import Rulebook.Proofs.Response
import Rulebook.Log.Site
import Rulebook.Proofs.Log.Renderer
import Rulebook.Proofs.Log.Course
