import ClientGen.Main
import ClientGen.Json.Writer
import ClientGen.Proofs.Absence
import ClientGen.Proofs.ReturnType
import ClientGen.Proofs.Parameters
import ClientGen.Proofs.RequestCode
import ClientGen.Proofs.Declarations
import ClientGen.Proofs.Codecs
import ClientGen.Proofs.ErrorTypes
import ClientGen.Proofs.References
import ClientGen.Proofs.Accessors
import ClientGen.Proofs.CodecNames
import ClientGen.Proofs.Defaults
import ClientGen.Proofs.Constructors
import ClientGen.Proofs.Evaluation
import ClientGen.Proofs.Reordering
import ClientGen.Proofs.Dialects
import ClientGen.Proofs.ReadingFaults
import ClientGen.Proofs.Sections
import ClientGen.Proofs.Grammar
import ClientGen.Proofs.Literals
import ClientGen.Proofs.PathText
import ClientGen.Proofs.Placeholders
import ClientGen.Proofs.WireNames
import ClientGen.Proofs.Captures
import ClientGen.Proofs.ClassNames
import ClientGen.Proofs.AnswerCode
import ClientGen.Proofs.Routes
import ClientGen.Proofs.Saving
import ClientGen.Proofs.Building
import ClientGen.Proofs.Signatures
import ClientGen.Proofs.MethodFaults
import ClientGen.Proofs.Acceptance
import ClientGen.Proofs.Attributes
import ClientGen.Proofs.MethodNames
import ClientGen.Proofs.Units
import ClientGen.Proofs.DefinitionOrder
import ClientGen.Proofs.Docstrings
import ClientGen.Proofs.MemberNames
import ClientGen.Proofs.SnakeCase
import ClientGen.Proofs.Escaping
