import TradeSpeech.Json.Data
import TradeSpeech.Main
import TradeSpeech.Proofs.Sentence.Slots
import TradeSpeech.Settings.Environment
import TradeSpeech.SharedSession
import TradeSpeech.Proofs.Sentence.Grammar
import TradeSpeech.Proofs.Sentence.QuestionEnds
import TradeSpeech.Proofs.Sentence.Definitions
import TradeSpeech.Proofs.Sentence.Questions
import TradeSpeech.Proofs.Sentence.Recognition
import TradeSpeech.Proofs.Sentence.Asking
import TradeSpeech.Proofs.Sentence.Case
import TradeSpeech.Proofs.Sentence.Spacing
import TradeSpeech.Proofs.Conversation.Dispatch
import TradeSpeech.Proofs.Conversation.Quantities
import TradeSpeech.Proofs.Conversation.Hearing
import TradeSpeech.Proofs.Conversation.Faults
import TradeSpeech.Proofs.Conversation.History
import TradeSpeech.Proofs.Conversation.Frame
import TradeSpeech.Proofs.Conversation.Recall
import TradeSpeech.Proofs.Conversation.Variation
import TradeSpeech.Proofs.Conversation.Case
import TradeSpeech.Proofs.Conversation.Spacing
import TradeSpeech.Proofs.Conversation.Batches
import TradeSpeech.Proofs.Conversation.Sharing
import TradeSpeech.Proofs.Conversation.Footprint
import TradeSpeech.Proofs.Conversation.Gathering
import TradeSpeech.Proofs.Settings.Validation
import TradeSpeech.Proofs.Settings.Seeding
import TradeSpeech.Proofs.Settings.Items
import TradeSpeech.Proofs.Settings.Wording
import TradeSpeech.Proofs.Rendering.Separated
import TradeSpeech.Proofs.CommandLine.Run
import TradeSpeech.Proofs.Conversation.Replies
import TradeSpeech.Proofs.Json.Reading
import TradeSpeech.Proofs.Rendering.Objects
import TradeSpeech.Proofs.Rendering.Tables
import TradeSpeech.Proofs.Numeral.SignedSum
import TradeSpeech.Proofs.Conversation.Evaluation
import TradeSpeech.Proofs.Settings.Demands
import TradeSpeech.Proofs.Settings.Variants
import TradeSpeech.Proofs.Text.FoldingTable
import TradeSpeech.Proofs.Text.Folding
import TradeSpeech.Proofs.Conversation.Names
import TradeSpeech.Proofs.Decimal.Rounding
import TradeSpeech.Proofs.Decimal.Mantissa
import TradeSpeech.Proofs.Decimal.Arithmetic
import TradeSpeech.Proofs.Decimal.Shortest
import TradeSpeech.Proofs.Decimal.Recovery
import TradeSpeech.Proofs.Decimal.PowerSums
import TradeSpeech.Proofs.Conversation.Totals
import TradeSpeech.Proofs.Settings.Filling
import TradeSpeech.Proofs.Conversation.LineBreaks
import TradeSpeech.Proofs.Rendering.Plain
import TradeSpeech.Proofs.Conversation.Precedence
import TradeSpeech.Proofs.Numeral.Descents
import TradeSpeech.Proofs.Conversation.Tallies
import TradeSpeech.Proofs.Numeral.Places
import TradeSpeech.Proofs.Json.Data
import TradeSpeech.Proofs.Settings.Environment
