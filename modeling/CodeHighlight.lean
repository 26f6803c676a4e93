import CodeHighlight.Highlighter
import CodeHighlight.Proofs.Scan.Literal
import CodeHighlight.Proofs.Markup.Escaped
import CodeHighlight.Proofs.Style.Form
import CodeHighlight.Proofs.Markup.Segment
import CodeHighlight.Proofs.Markup.Decode
import CodeHighlight.Proofs.Scan.Slash
import CodeHighlight.Proofs.Markup.Concat
import CodeHighlight.Proofs.Scan.Comment
import CodeHighlight.Proofs.Scan.Online
import CodeHighlight.Proofs.Scan.Agreement
import CodeHighlight.Proofs.Scan.Forgetting
import CodeHighlight.Proofs.Color.RoundTrip
import CodeHighlight.Proofs.Keywords.Agreement
import CodeHighlight.Proofs.Scan.Maximal
import CodeHighlight.Proofs.Scan.CommentMark
import CodeHighlight.Proofs.Markup.Configuration
import CodeHighlight.Proofs.Pattern.Choices
import CodeHighlight.Proofs.Keywords.Shipped
import CodeHighlight.Proofs.Scan.Session
import CodeHighlight.Proofs.Color.Range
import CodeHighlight.Proofs.Style.Solid
import CodeHighlight.Proofs.Scan.Escape
