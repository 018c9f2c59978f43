import TagLint.Main
import TagLint.Outline.Reader
import TagLint.Proofs.CommandLine
import TagLint.Proofs.Index.Entries
import TagLint.Proofs.Reference.Sandbox
import TagLint.Proofs.Expiry.Verdict
import TagLint.Proofs.Scanner.Session
import TagLint.Proofs.Scanner.Round
import TagLint.Index.Session
import TagLint.Proofs.Lists
import TagLint.Proofs.Text.Order
import TagLint.Proofs.Index.Groups
import TagLint.Proofs.Index.History
import TagLint.Proofs.Reference.Writing
import TagLint.Proofs.Path.Below
import TagLint.Proofs.Storage.Follow
import TagLint.Proofs.Workspace.Walk
import TagLint.Proofs.Storage.Rearranged
import TagLint.Proofs.CommandLine.Listing
import TagLint.Proofs.Text.Lines
import TagLint.Proofs.Path.Walk
import TagLint.Proofs.Reference.Containment
import TagLint.Proofs.Settings.Load
import TagLint.Proofs.Inspection.Comments
import TagLint.Proofs.Tag.Governing
import TagLint.Proofs.Tag.Key
import TagLint.Proofs.Tag.Fence
import TagLint.Proofs.Workspace.Innermost
import TagLint.Proofs.Tag.Concatenation
import TagLint.Proofs.Tag.Grammar
import TagLint.Proofs.Reference.Grammar
import TagLint.Proofs.Expiry.Grammar
import TagLint.Proofs.Reference.Expansion
import TagLint.Proofs.Reference.Contents
import TagLint.Proofs.Reference.Spelling
import TagLint.Proofs.Workspace.Listed
import TagLint.Proofs.Outline.Lookup
import TagLint.Proofs.Inspection.Parts
import TagLint.Proofs.Scanner.Count
import TagLint.Proofs.Index.Rebuild
import TagLint.Proofs.Index.Report
import TagLint.Proofs.Settings.Days
import TagLint.Proofs.Outline.Names
