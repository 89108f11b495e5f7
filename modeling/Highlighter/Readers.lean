import Highlighter.Pattern.Search
import Highlighter.Toml.Document

/-!
Readers of texts in languages of their own: patterns of rules, and documents that define configurations. What the
program does with a configuration does not depend on how they read.
-/

namespace Highlighter

/-- Readers of patterns and documents. Of a document they give the entries of its outermost table. -/
structure Readers where
  pattern? : String → Option Pattern
  document? : String → Option (Dictionary Toml.Value)

/-- The readers that set no limit to the size of a pattern's machine. -/
def Readers.standard : Readers where
  pattern? := Pattern.ofText?
  document? := Toml.parse?

end Highlighter
