import XmlTemplate.Main
import XmlTemplate.Proofs.Expansion.Afresh
import XmlTemplate.Proofs.Markup.RoundTrip
import XmlTemplate.Proofs.Markup.Reproducible
import XmlTemplate.Proofs.Markup.Namespaces
import XmlTemplate.Proofs.Selector.Selection
import XmlTemplate.Proofs.Expansion.Moments
import XmlTemplate.Proofs.Expansion.Transitions
import XmlTemplate.Proofs.Expansion.Cycles
import XmlTemplate.Proofs.Expansion.Requests
import XmlTemplate.Proofs.Expansion.Untemplated
import XmlTemplate.Proofs.Expansion.Conditions
import XmlTemplate.Proofs.Expansion.Injection
import XmlTemplate.Proofs.Selector.Grammar
import XmlTemplate.Proofs.Selector.GrammarCompleteness
import XmlTemplate.Proofs.Selector.Unions
import XmlTemplate.Proofs.Selector.ChildPredicates
import XmlTemplate.Proofs.Selector.Traversal
import XmlTemplate.Proofs.Expansion.Dependence
import XmlTemplate.Proofs.Source.Relocation
import XmlTemplate.Proofs.Expansion.Relocation
import XmlTemplate.Proofs.Expansion.Contributions
import XmlTemplate.Proofs.Expansion.Rearrangement
import XmlTemplate.Proofs.Expansion.Failures
import XmlTemplate.Proofs.Expansion.Undirected
import XmlTemplate.Proofs.Markup.Indentation
import XmlTemplate.Proofs.Markup.PlainDeclarations
import XmlTemplate.Proofs.Markup.Blanks
import XmlTemplate.Proofs.Markup.IndentedText
import XmlTemplate.Proofs.Markup.IndentedAgain
import XmlTemplate.Proofs.Source.Spellings
import XmlTemplate.Proofs.Markup.Extents
import XmlTemplate.Proofs.Markup.Roots
import XmlTemplate.Proofs.Markup.Marks
import XmlTemplate.Proofs.Source.Directories
import XmlTemplate.Proofs.Markup.AttributeEdits
import XmlTemplate.Proofs.Selector.Offsets
import XmlTemplate.Proofs.Causes
import XmlTemplate.Proofs.Markup.NormalForms
import XmlTemplate.Proofs.Template.Suggestions
import XmlTemplate.Proofs.Config.DistinctKeys
import XmlTemplate.Proofs.Config.Variables
import XmlTemplate.Proofs.Command.Assignments
import XmlTemplate.Proofs.Command.Outcomes
import XmlTemplate.Proofs.Expansion.InPlace
