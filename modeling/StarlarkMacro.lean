import StarlarkMacro.Verdict
import StarlarkMacro.Script
import StarlarkMacro.Proofs.Check.Strict
import StarlarkMacro.Proofs.Document.Name
import StarlarkMacro.Proofs.Literal.Blame
import StarlarkMacro.Proofs.Literal.Readable
import StarlarkMacro.Proofs.Literal.Search
import StarlarkMacro.Proofs.Literal.Sharing
import StarlarkMacro.Proofs.Script.Account
import StarlarkMacro.Proofs.Script.Closing
import StarlarkMacro.Proofs.Script.Structured
import StarlarkMacro.Proofs.Writer.Failing
import StarlarkMacro.Proofs.Writer.Line
import StarlarkMacro.Proofs.Writer.Representation
import StarlarkMacro.Proofs.Writer.Retry
import StarlarkMacro.Proofs.Writer.Roundtrip
import StarlarkMacro.Proofs.Writer.Splice
import StarlarkMacro.Proofs.Identifier.Collision
import StarlarkMacro.Proofs.Document.Path
import StarlarkMacro.Proofs.Check.Depth
import StarlarkMacro.Proofs.Check.Outermost
import StarlarkMacro.Proofs.Check.Element
import StarlarkMacro.Proofs.Source.LineNumber
import StarlarkMacro.Proofs.Check.Summary
