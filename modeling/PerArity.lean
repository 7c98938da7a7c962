import PerArity.Main
import PerArity.Proofs.Naming
import PerArity.Proofs.NameLists
import PerArity.Proofs.Filling
import PerArity.Proofs.Fragments
import PerArity.Proofs.Outcome
import PerArity.Proofs.Arguments
import PerArity.Proofs.DeclarationText
import PerArity.Proofs.Delivery
import PerArity.Proofs.Session
import PerArity.Proofs.OutputFile
import PerArity.Proofs.Ending
import PerArity.Proofs.TypeParams
import PerArity.Proofs.Banner
import PerArity.Proofs.OutputRoot
import PerArity.Proofs.Growth
import PerArity.Proofs.BalancedText
import PerArity.Proofs.OptionGroups
import PerArity.Proofs.Independence
import PerArity.Proofs.RunRecords
import PerArity.Proofs.OpaqueWords
import PerArity.Proofs.Stream
import PerArity.Proofs.Walkable
import PerArity.Proofs.Footprint
import PerArity.Proofs.Excerpt
import PerArity.Proofs.TemplateGrammar
import PerArity.Proofs.Members
import PerArity.Proofs.SplitParameters
