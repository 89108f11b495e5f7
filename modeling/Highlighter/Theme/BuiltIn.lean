import Highlighter.Theme

/-! The built-in themes. -/

namespace Highlighter.Theme

def monokai : Theme where
  name := "monokai"
  colors := [(.keyword, "text-purple-400"), (.string, "text-green-400"), (.comment, "text-gray-500"),
    (.function, "text-blue-400"), (.number, "text-orange-400"), (.operator, "text-yellow-400"),
    (.punctuation, "text-gray-400")]
  fallback := "text-gray-50"
  background := some "bg-gray-900"

def githubLight : Theme where
  name := "github-light"
  colors := [(.keyword, "text-purple-600"), (.string, "text-green-600"), (.comment, "text-gray-500"),
    (.function, "text-blue-600"), (.number, "text-orange-600"), (.operator, "text-yellow-600"),
    (.punctuation, "text-gray-600")]
  fallback := "text-gray-900"
  background := some "bg-white"

def nord : Theme where
  name := "nord"
  colors := [(.keyword, "text-blue-400"), (.string, "text-green-400"), (.comment, "text-gray-400"),
    (.function, "text-cyan-400"), (.number, "text-orange-400"), (.operator, "text-blue-300"),
    (.punctuation, "text-gray-400")]
  fallback := "text-blue-100"
  background := some "bg-slate-900"

def builtIn : List Theme := [monokai, githubLight, nord]

end Highlighter.Theme
