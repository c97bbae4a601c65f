import WideColumn.Main
import WideColumn.Proofs.Grammar.Amounts
import WideColumn.Proofs.Grammar.Viability
import WideColumn.Proofs.Printing.RoundTrip
import WideColumn.Proofs.Store.Arrival
import WideColumn.Proofs.Store.Belonging
import WideColumn.Proofs.Store.Creation
import WideColumn.Proofs.Store.Indexing
import WideColumn.Proofs.Store.Limits
import WideColumn.Proofs.Store.Rejections
import WideColumn.Proofs.Store.Versions
import WideColumn.Proofs.Session.Sinks
import WideColumn.Proofs.Session.Tallying
import WideColumn.Proofs.Session.Columns
import WideColumn.Proofs.Session.Displaying
import WideColumn.Proofs.Session.Dropping
import WideColumn.Proofs.Session.Updating
import WideColumn.Proofs.Session.Readback
import WideColumn.Proofs.Session.Sharing
import WideColumn.Proofs.Session.Refusals
import WideColumn.Proofs.Session.Reading
import WideColumn.Proofs.Session.Scanned
import WideColumn.Proofs.Session.LetterCase
import WideColumn.Proofs.Codec.Decimals
import WideColumn.Proofs.Codec.Refusals
import WideColumn.Proofs.Codec.Shortest
import WideColumn.Proofs.Codec.Spellings
import WideColumn.Proofs.Script.CommentLines
import WideColumn.Proofs.Script.Escapes
import WideColumn.Proofs.Script.Prompt
import WideColumn.Proofs.Script.Single
import WideColumn.Proofs.Script.Splitting
import WideColumn.Proofs.Script.Strings
import WideColumn.Proofs.Script.Unterminated
