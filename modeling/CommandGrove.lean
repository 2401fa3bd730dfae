import CommandGrove.Main
import CommandGrove.Proofs.CommandLine.Orders
import CommandGrove.Proofs.CommandTree.Frames
import CommandGrove.Proofs.CommandTree.Reordering
import CommandGrove.Proofs.Config.Requests
import CommandGrove.Proofs.Discovery.FileNames
import CommandGrove.Proofs.Discovery.LeadBack
import CommandGrove.Proofs.Entry.Variables
import CommandGrove.Proofs.Interface.Comments
import CommandGrove.Proofs.Interface.Descriptions
import CommandGrove.Proofs.Interface.Endings
import CommandGrove.Proofs.Interface.Parentheses
import CommandGrove.Proofs.Interface.Spans
import CommandGrove.Proofs.Interface.WellFormed
import CommandGrove.Proofs.Naming.FlagKeys
import CommandGrove.Proofs.Plan.Literals
import CommandGrove.Proofs.Plan.Options
import CommandGrove.Proofs.Plan.Positions
import CommandGrove.Proofs.Plan.Readback
import CommandGrove.Proofs.Text.Tokens
import CommandGrove.Proofs.Tool.Bundling
import CommandGrove.Proofs.Tool.Failures
import CommandGrove.Proofs.Watch.Verdicts
