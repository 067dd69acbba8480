import AsmGloss.Main
import AsmGloss.Proofs.Conversion.Delivery
import AsmGloss.Proofs.Output.Acceptance
import AsmGloss.Proofs.Output.CsvReading
import AsmGloss.Proofs.Output.JsonReading
import AsmGloss.Proofs.Output.MarkdownReading
import AsmGloss.Proofs.Record.AsciiColumn
import AsmGloss.Proofs.Record.NumberedRoundTrip
import AsmGloss.Proofs.Record.RoundTrip
import AsmGloss.Proofs.Record.Position
import AsmGloss.Proofs.Conversion.Completion
import AsmGloss.Proofs.Conversion.Repetition
import AsmGloss.Proofs.CommandLine.Accepted
import AsmGloss.Proofs.CommandLine.Display
import AsmGloss.Proofs.Conversion.Interruption
import AsmGloss.Proofs.Conversion.Precedence
import AsmGloss.Proofs.Instruction.Totality
import AsmGloss.Proofs.Instruction.Positional
import AsmGloss.Proofs.Operand.Tokens
import AsmGloss.Proofs.Operand.Splitting
import AsmGloss.Proofs.Instruction.Mnemonic
import AsmGloss.Proofs.Instruction.Indexed
import AsmGloss.Proofs.Instruction.Abbreviations
import AsmGloss.Proofs.Instruction.FlagLists
import AsmGloss.Proofs.Instruction.Boundaries
import AsmGloss.Proofs.Record.LineEnds
import AsmGloss.Proofs.Record.Sentinels
import AsmGloss.Proofs.Conversion.Accounting
import AsmGloss.Proofs.Instruction.Views
import AsmGloss.Proofs.Output.Sheet
import AsmGloss.Proofs.Output.TableAlignment
