import DeclaredParams.Main
import DeclaredParams.Proofs.Parameter.Canonical
import DeclaredParams.Proofs.Parameter.Concatenation
import DeclaredParams.Proofs.Shape.ArrowPosition
import DeclaredParams.Proofs.Signature.Comment
import DeclaredParams.Proofs.Signature.Declaration
import DeclaredParams.Proofs.Signature.ArrowDefault
import DeclaredParams.Proofs.Signature.ClassKeyword
import DeclaredParams.Proofs.Signature.Json
import DeclaredParams.Proofs.Signature.NameBlanks
import DeclaredParams.Proofs.Report.Plain
import DeclaredParams.Proofs.Report.Terminal
import DeclaredParams.Proofs.Size.Written
import DeclaredParams.Proofs.Source.Flow
import DeclaredParams.Proofs.Source.Session
import DeclaredParams.Proofs.CommandLine.Agreement
import DeclaredParams.Proofs.CommandLine.Colour
import DeclaredParams.Proofs.CommandLine.Refinement
import DeclaredParams.Proofs.CommandLine.WriteFailure
