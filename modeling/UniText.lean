import UniText.Diagnosis
import UniText.ErrorPolicy
import UniText.Form
import UniText.Text.Scalars
import UniText.Version
import UniText.Charset.Progress
import UniText.Charset.Step
import UniText.Charset.Utf8
import UniText.Charset.Basic
import UniText.Charset.Codec
import UniText.Charset.Name
import UniText.Charset.Decoder
import UniText.Charset.Length
import UniText.Charset.Text
import UniText.Converter.Basic
import UniText.Converter.Fixed
import UniText.Converter.Whole
import UniText.Transcoder
import UniText.Equivalence
import UniText.Hangul
import UniText.Property.Checksum
import UniText.Property.Composite
import UniText.Property.Decomposition
import UniText.Text.Hexadecimal
import UniText.Property.Blob
import UniText.Property.Depth
import UniText.Property.Load
import UniText.Context.Basic
import UniText.Normalize.QuickCheck
import UniText.Normalize.Units
import UniText.CharacterData.Builtin
import UniText.Proofs.Converter.Chunks
import UniText.Proofs.Normalize.Stream
import UniText.Proofs.Normalize.QuickCheck
import UniText.Proofs.Property.Listed
import UniText.Proofs.Property.Restoring
import UniText.Proofs.Property.Serializing
import UniText.Proofs.Property.NestingLimit
import UniText.Proofs.Normalize.Compatibility
import UniText.Proofs.Normalize.Runs
import UniText.Proofs.Charset.Range
import UniText.Proofs.Property.Lookup
import UniText.Proofs.Normalize.Safety
import UniText.Proofs.Charset.Encoding
import UniText.Proofs.Context.Pipeline
import UniText.Proofs.Context.Stream
import UniText.Proofs.Charset.Reading
import UniText.Proofs.Charset.RoundTrip
import UniText.Proofs.Charset.Validity
import UniText.Proofs.Charset.Lenient
import UniText.Proofs.Charset.Units
import UniText.Proofs.Charset.Surrogates
import UniText.Proofs.Context.Closing
import UniText.Proofs.Context.Slots
import UniText.Proofs.Context.Isolation
import UniText.Proofs.Normalize.Blocking
import UniText.Proofs.Converter.Resuming
import UniText.Proofs.Guarded.Loading
import UniText.Proofs.Property.Corruption
import UniText.Proofs.Charset.Subparts
import UniText.Proofs.Normalize.Surrogates
import UniText.Proofs.Charset.Agreement
import UniText.Proofs.Charset.Failures
import UniText.Proofs.Charset.Tiling
import UniText.Proofs.Converter.Delivery
import UniText.Proofs.Context.Preflight
import UniText.Proofs.Charset.Acceptance
import UniText.Proofs.Property.Searching
import UniText.Proofs.Property.Replacing
import UniText.Proofs.Normalize.Holding
import UniText.Proofs.Charset.Counting
import UniText.Proofs.Charset.Terminators
import UniText.Proofs.Converter.Interrupting
import UniText.Proofs.Normalize.InPlace
import UniText.Proofs.Guarded.Hangul
import UniText.Proofs.Version
import UniText.Proofs.Charset.Naming
