import IdRegistry.Bundled
import IdRegistry.Command.Arguments
import IdRegistry.Command.Folder
import IdRegistry.Command.Run
import IdRegistry.Main
import IdRegistry.Proofs.Classification
import IdRegistry.Proofs.Command.Arguments
import IdRegistry.Proofs.Command.Folder
import IdRegistry.Proofs.Command.Run
import IdRegistry.Proofs.Document.Edits
import IdRegistry.Proofs.Document.FirstFault
import IdRegistry.Proofs.Document.Layout
import IdRegistry.Proofs.Document.Outline
import IdRegistry.Proofs.Document.Reader
import IdRegistry.Proofs.Document.Written
import IdRegistry.Proofs.Markup.Content
import IdRegistry.Proofs.Markup.Encoding
import IdRegistry.Proofs.Markup.Lexer
import IdRegistry.Proofs.Markup.Node
import IdRegistry.Proofs.Markup.Scan
import IdRegistry.Proofs.Markup.TagLayout
import IdRegistry.Proofs.Markup.Tags
import IdRegistry.Proofs.Markup.Values
import IdRegistry.Proofs.Notices
import IdRegistry.Proofs.Output.Acceptance
import IdRegistry.Proofs.Output.GoLiteral
import IdRegistry.Proofs.Output.GoMaps
import IdRegistry.Proofs.Output.Lookup
import IdRegistry.Proofs.Output.ReadBack
import IdRegistry.Proofs.Output.Source
import IdRegistry.Proofs.Output.Targets
import IdRegistry.Proofs.Text.Decimal
import IdRegistry.Proofs.Restated
import IdRegistry.Proofs.Command.Selection
import IdRegistry.Proofs.Document.Items
import IdRegistry.Proofs.Document.Extent
import IdRegistry.Proofs.Text.CaseCuts
import IdRegistry.Proofs.ConstantName
import IdRegistry.Proofs.PlainNames
import IdRegistry.Proofs.Command.Spelling
import IdRegistry.Proofs.Command.Requests
import IdRegistry.Proofs.Integers
