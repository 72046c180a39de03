import ArenaScript.Attempt
import ArenaScript.Command.Args
import ArenaScript.Command.Decompile
import ArenaScript.Command.Engine
import ArenaScript.Command.Outcome
import ArenaScript.Command.Script
import ArenaScript.Compiled.Decoder
import ArenaScript.Compiled.Layout
import ArenaScript.Compiled.Leaf
import ArenaScript.Compiled.Quoted
import ArenaScript.Compiled.Reader
import ArenaScript.Compiled.Term
import ArenaScript.Compiled.Writer
import ArenaScript.Exec.Fault
import ArenaScript.Exec.Machine
import ArenaScript.Exec.Run
import ArenaScript.Exec.Ticks
import ArenaScript.Files
import ArenaScript.Host.Basic
import ArenaScript.Host.Queued
import ArenaScript.Host.Scripted
import ArenaScript.Journal
import ArenaScript.Load
import ArenaScript.Main
import ArenaScript.Program.Basic
import ArenaScript.Program.Defect
import ArenaScript.Program.Keyword
import ArenaScript.Program.Nesting
import ArenaScript.Program.Render
import ArenaScript.Script.Error
import ArenaScript.Script.Opening
import ArenaScript.Script.Parser
import ArenaScript.Settings.Basic
import ArenaScript.Settings.Document
import ArenaScript.Settings.Lexeme
import ArenaScript.Settings.Load
import ArenaScript.Settings.Reader
import ArenaScript.Store
import ArenaScript.Text.Identifier
import ArenaScript.Text.Obscure
import ArenaScript.Text.Ranges
import ArenaScript.Token
import ArenaScript.Word
import ArenaScript.Proofs.Grammar
import ArenaScript.Proofs.Keyword
import ArenaScript.Proofs.Script.Answers
import ArenaScript.Proofs.Script.Soundness
import ArenaScript.Proofs.Script.Acceptance
import ArenaScript.Proofs.Script.Canonical
import ArenaScript.Proofs.Script.Refusal
import ArenaScript.Proofs.Compiled.Decoding
import ArenaScript.Proofs.Compiled.Leaf
import ArenaScript.Proofs.Compiled.Reading
import ArenaScript.Proofs.Compiled.RoundTrip
import ArenaScript.Proofs.Exec.Scope
import ArenaScript.Proofs.Exec.Unrolling
import ArenaScript.Proofs.Exec.Footprint
import ArenaScript.Proofs.Exec.Ticking
import ArenaScript.Proofs.Script.Dependence
import ArenaScript.Proofs.Exec.Branching
import ArenaScript.Proofs.Exec.Parts
import ArenaScript.Proofs.Script.Joining
import ArenaScript.Proofs.Exec.Accounts
import ArenaScript.Proofs.Exec.Unseen
import ArenaScript.Proofs.Exec.Ending
import ArenaScript.Proofs.Exec.Rounding
import ArenaScript.Proofs.Exec.Sensing
import ArenaScript.Proofs.Exec.Skipping
import ArenaScript.Proofs.Exec.Wrapping
import ArenaScript.Proofs.Violations
import ArenaScript.Proofs.Delimiters
import ArenaScript.Proofs.Host.Reckoning
import ArenaScript.Proofs.Host.FuelGauge
import ArenaScript.Proofs.Text.ByteOrder
import ArenaScript.Proofs.Reports
import ArenaScript.Proofs.Script.Counted
import ArenaScript.Proofs.Script.Descent
import ArenaScript.Proofs.Script.Discipline
