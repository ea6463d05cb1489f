import Http2Headers.Text.Ascii
import Http2Headers.Text.WhiteSpace
import Http2Headers.Text.Numeral
import Http2Headers.Text.Printable
import Http2Headers.Text.GraphemeExtend
import Http2Headers.Text.Quoted
import Http2Headers.Text.Utf8
import Http2Headers.Field.Kind
import Http2Headers.Scheme
import Http2Headers.Authority
import Http2Headers.FieldSection
import Http2Headers.Field
import Http2Headers.Hpack.Error
import Http2Headers.Error
import Http2Headers.Metadata
import Http2Headers.Config
import Http2Headers.Budget
import Http2Headers.Block
import Http2Headers.Builder
import Http2Headers.Hpack.Integer
import Http2Headers.Hpack.Huffman
import Http2Headers.Hpack.StringLiteral
import Http2Headers.Hpack.Table
import Http2Headers.Hpack.HeaderBlock
import Http2Headers.Decoder
import Http2Headers.Proofs.Run
import Http2Headers.Proofs.RunningSize
import Http2Headers.Proofs.Acceptance
import Http2Headers.Proofs.Classification
import Http2Headers.Proofs.Violations
import Http2Headers.Proofs.Lifecycle
import Http2Headers.Proofs.Utf8Length
import Http2Headers.Proofs.Decoding
import Http2Headers.Proofs.PseudoSlots
import Http2Headers.Proofs.KeptFields
import Http2Headers.Proofs.SizeCheck
import Http2Headers.Proofs.AuthorityText
import Http2Headers.Proofs.AsciiCase
import Http2Headers.Proofs.Recognition
import Http2Headers.Proofs.FieldLookup
import Http2Headers.Proofs.AuthorityGrammar
