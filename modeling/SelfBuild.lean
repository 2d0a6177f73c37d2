import SelfBuild.Main
import SelfBuild.Wizard.Answer
import SelfBuild.Proofs.Switches
import SelfBuild.Proofs.Lint.Comment
import SelfBuild.Proofs.Preamble.Lines
import SelfBuild.Proofs.Artifact
import SelfBuild.Proofs.Lint.Script
import SelfBuild.Proofs.Lint.Syntax
import SelfBuild.Proofs.Preamble.Rows
import SelfBuild.Proofs.Lint.Departure
import SelfBuild.Proofs.Preamble.Findings
import SelfBuild.Proofs.Lint.Boundary
import SelfBuild.Proofs.Request.Shape
import SelfBuild.Proofs.Request.Build
import SelfBuild.Proofs.FileName
import SelfBuild.Proofs.Disk.Files
import SelfBuild.Proofs.Delivery.Attempts
import SelfBuild.Proofs.Delivery.Run
import SelfBuild.Proofs.Options
import SelfBuild.Proofs.Stages
import SelfBuild.Proofs.Settings
import SelfBuild.Proofs.Drafting.Exchange
import SelfBuild.Proofs.CommandLine.Arguments
import SelfBuild.Proofs.CommandLine.Command
import SelfBuild.Proofs.Delivery.Fresh
import SelfBuild.Proofs.CommandLine.Build
import SelfBuild.Proofs.CommandLine.Exit
import SelfBuild.Proofs.Json.Writing
import SelfBuild.Proofs.Request.Text
import SelfBuild.Proofs.Wizard.Markup
import SelfBuild.Proofs.Wizard.Preview
import SelfBuild.Proofs.FrontEnds
import SelfBuild.Proofs.Wizard.Status
import SelfBuild.Proofs.Drafts
import SelfBuild.Proofs.CommandLine.Source
import SelfBuild.Proofs.Artifact.Inputs
import SelfBuild.Proofs.Delivery.Name
import SelfBuild.Proofs.Wizard.Fields
import SelfBuild.Proofs.Wizard.Carrying
import SelfBuild.Proofs.Wizard.Rounds
import SelfBuild.Proofs.Drafting.Secrecy
import SelfBuild.Proofs.Drafting.Verdict
import SelfBuild.Proofs.Delivery.Retries
import SelfBuild.Proofs.Disk.Paths
import SelfBuild.Proofs.Artifact.Reading
import SelfBuild.Proofs.CommandLine.Frame
import SelfBuild.Proofs.Lint.Blocks
import SelfBuild.Proofs.Lint.Jumps
import SelfBuild.Proofs.Lint.CloseLine
import SelfBuild.Proofs.Settings.Precedence
import SelfBuild.Proofs.Drafting.Candidates
import SelfBuild.Proofs.Drafting.Fences
import SelfBuild.Proofs.Drafting.Blank
import SelfBuild.Proofs.Settings.Agreement
import SelfBuild.Proofs.Json.Reordered
import SelfBuild.Proofs.Request.Rejection
import SelfBuild.Proofs.Drafting.Wrapping
import SelfBuild.Proofs.Text.Letters
import SelfBuild.Proofs.Lint.Recasing
import SelfBuild.Proofs.Lint.Numbering
import SelfBuild.Proofs.Lint.Layout
import SelfBuild.Proofs.Lint.Echo
import SelfBuild.Proofs.Text.Counting
import SelfBuild.Proofs.Artifact.Call
import SelfBuild.Proofs.Artifact.Splitting
import SelfBuild.Proofs.Options.Records
import SelfBuild.Proofs.Wizard.Keeping
import SelfBuild.Proofs.Delivery.Limits
import SelfBuild.Proofs.Text.Places
import SelfBuild.Proofs.Lint.Spans
import SelfBuild.Proofs.Lint.Silence
