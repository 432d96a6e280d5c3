import TemplateScript.Builtin.Call
import TemplateScript.Bundle
import TemplateScript.Proofs.Builtin.Encoding
import TemplateScript.Proofs.Builtin.Expression
import TemplateScript.Proofs.Builtin.Hexadecimal
import TemplateScript.Proofs.Builtin.Pairing
import TemplateScript.Proofs.Builtin.WholeNumbers
import TemplateScript.Proofs.Bundle.Entry
import TemplateScript.Proofs.Bundle.Inclusion
import TemplateScript.Proofs.Checked.Dependence
import TemplateScript.Proofs.Checked.Essence
import TemplateScript.Proofs.Checked.Handing
import TemplateScript.Proofs.Checked.Linking
import TemplateScript.Proofs.Checked.Places
import TemplateScript.Proofs.Checked.Targets
import TemplateScript.Proofs.Loading
import TemplateScript.Proofs.Number.Characters
import TemplateScript.Proofs.Number.Constants
import TemplateScript.Proofs.Rendering.Preservation
import TemplateScript.Proofs.Scope.Capture
import TemplateScript.Proofs.Scope.Offered
import TemplateScript.Proofs.Script.Brackets
import TemplateScript.Proofs.Script.Unambiguous
import TemplateScript.Proofs.Shape.Bare
import TemplateScript.Proofs.Shape.Members
import TemplateScript.Proofs.Text.Literal
import TemplateScript.Shape.Described
import TemplateScript.Ty.Document
