import Highlight.Main
import Highlight.Proofs.Arguments
import Highlight.Proofs.CSharp.Continuation
import Highlight.Proofs.CSharp.NumberTokens
import Highlight.Proofs.CSharp.RecognizerOrder
import Highlight.Proofs.CSharp.SignedNumeral
import Highlight.Proofs.Cache.EditBatch
import Highlight.Proofs.Cache.EndEdit
import Highlight.Proofs.Cache.Incremental
import Highlight.Proofs.Cache.LineChange
import Highlight.Proofs.Cache.Reset
import Highlight.Proofs.Cache.Termination
import Highlight.Proofs.CommandLine
import Highlight.Proofs.LanguageDirectory
import Highlight.Proofs.LetterCase
import Highlight.Proofs.Pattern.CommentCarry
import Highlight.Proofs.Pattern.Cursors
import Highlight.Proofs.Pattern.RulePriority
import Highlight.Proofs.Registry.Replacement
import Highlight.Proofs.Rendering
import Highlight.Proofs.Repainting
import Highlight.Proofs.RuleAnchor
import Highlight.Proofs.RunPartition
import Highlight.Proofs.Settings
import Highlight.Proofs.StringRule
import Highlight.Proofs.Trie.FiniteMap
